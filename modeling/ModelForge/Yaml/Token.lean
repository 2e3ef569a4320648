/-! The tokens of a YAML text. Indentation and simple keys show as tokens of their own, so what
comes after need not look at columns. -/
namespace ModelForge.Yaml

/-- A place in a text. The index counts bytes and the column characters; all start from zero. -/
structure Mark where
  index : Nat
  line : Nat
  column : Nat
deriving DecidableEq, Repr, Inhabited

inductive Style where
  | plain
  | singleQuoted
  | doubleQuoted
  | literal
  | folded
deriving DecidableEq, Repr

inductive TokenKind where
  | versionDirective (major minor : Nat)
  | tagDirective (handle start : String)
  | documentStart
  | documentEnd
  | blockSequenceStart
  | blockMappingStart
  | blockEnd
  | flowSequenceStart
  | flowSequenceEnd
  | flowMappingStart
  | flowMappingEnd
  | blockEntry
  | flowEntry
  | key
  | value
  | alias (name : String)
  | anchor (name : String)
  | tag (handle suffix : String)
  | scalar (value : String) (style : Style)
  | streamEnd
deriving DecidableEq, Repr

structure Token where
  kind : TokenKind
  start : Mark
  stop : Mark
deriving DecidableEq, Repr

/-- Why a text is not a document. -/
inductive Malformed where
  | forbiddenCharacter
  | missingColon
  | misplacedEntry
  | misplacedKey
  | misplacedValue
  | badStart
  | badDirective
  | badAnchor
  | badTag
  | badBlockHeader
  | tabInIndentation
  | documentInScalar
  | unterminatedScalar
  | badEscape
  | badColon
  | missingDocumentStart
  | badVersion
  | duplicateDirective
  | unknownHandle
  | unknownAlias
  | missingNode
  | missingEntry
  | missingKey
  | missingComma
  | endOfTokens
deriving DecidableEq, Repr

end ModelForge.Yaml
