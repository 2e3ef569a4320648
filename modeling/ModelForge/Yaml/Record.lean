import ModelForge.Yaml.Node
import ModelForge.Yaml.Plain

/-! Records in a YAML document. A record is a mapping whose unknown keys are passed over. What is
wrong with a value is reported before what is wrong with the text behind it. -/
namespace ModelForge.Yaml

inductive Problem where
  | malformed (reason : Malformed)
  | severalDocuments
  | mismatch (mismatch : Mismatch)
deriving DecidableEq, Repr

/-- A problem with the key of the value in which it was found and the place. -/
structure Error where
  problem : Problem
  key : Option String
  mark : Option Mark
deriving DecidableEq, Repr

def Malformed.message : Malformed → String
  | forbiddenCharacter => "control characters are not allowed"
  | missingColon => "could not find expected ':'"
  | misplacedEntry => "block sequence entries are not allowed in this context"
  | misplacedKey => "mapping keys are not allowed in this context"
  | misplacedValue => "mapping values are not allowed in this context"
  | badStart => "found character that cannot start any token"
  | badDirective => "found a malformed directive"
  | badAnchor => "did not find expected alphabetic or numeric character"
  | badTag => "found a malformed tag"
  | badBlockHeader => "did not find expected comment or line break"
  | tabInIndentation => "found a tab character where an indentation space is expected"
  | documentInScalar => "found unexpected document indicator"
  | unterminatedScalar => "found unexpected end of stream"
  | badEscape => "found unknown escape character"
  | badColon => "found unexpected ':'"
  | missingDocumentStart => "did not find expected <document start>"
  | badVersion => "found incompatible YAML document"
  | duplicateDirective => "found duplicate directive"
  | unknownHandle => "found undefined tag handle"
  | unknownAlias => "unknown anchor"
  | missingNode => "did not find expected node content"
  | missingEntry => "did not find expected '-' indicator"
  | missingKey => "did not find expected key"
  | missingComma => "did not find expected ',' or closing bracket"
  | endOfTokens => "EOF while parsing a value"

def Problem.message : Problem → String
  | malformed reason => reason.message
  | severalDocuments => "deserializing from YAML containing more than one document is not supported"
  | mismatch m => m.message

/-- The start of a text is no place worth naming. -/
def Mark.suffix (mark : Mark) : String :=
  if mark.line = 0 ∧ mark.column = 0 then ""
  else s!" at line {mark.line + 1} column {mark.column + 1}"

def Error.message (error : Error) : String :=
  (error.key.map (· ++ ": ")).getD "" ++ error.problem.message
    ++ (error.mark.map Mark.suffix).getD ""

/-- What is wrong with a value: the document ends in it, or it does not fit. A misfit without a
place belongs to the record as a whole. -/
inductive Complaint where
  | missing
  | misfit (mismatch : Mismatch) (mark : Option Mark)

abbrev Value (α : Type) := Node → Except Complaint α

def misfitAt (mark : Mark) (mismatch : Mismatch) : Except Complaint α :=
  .error (.misfit mismatch (some mark))

/-- The node that an alias stands for. -/
def Node.target : Node → Node
  | .alias _ target => target
  | node => node

/-- A misfit without a place that is met through an alias is where the alias is. -/
def placed (node : Node) (result : Except Complaint α) : Except Complaint α :=
  match node with
  | .alias mark _ => result.mapError fun
    | .misfit mismatch none => .misfit mismatch (some mark)
    | other => other
  | _ => result

/-- The text of a scalar, whatever its style and tag. -/
def anyText (expected : String) : Value String := fun node =>
  match node.target with
  | .scalar _ _ value _ => .ok value
  | .sequence mark _ _ => misfitAt mark (.invalidType .sequence expected)
  | .mapping mark _ _ => misfitAt mark (.invalidType .map expected)
  | _ => .error .missing

/-- The name in a tag of the document's own. A mark without a name is its own name. -/
def localTag? (tag : Option String) : Option String :=
  match tag.map String.toList with
  | some ['!'] => some "!"
  | some ('!' :: name) => some (String.ofList name)
  | _ => none

/-- One of a few names: a scalar with the name as its text, or nothing tagged with the name. -/
def choice (known : List (String × α)) : Value α := fun node =>
  let named (name : String) (mark : Option Mark) : Except Complaint α :=
    match known.lookup name with
    | some value => .ok value
    | none => .error (.misfit (.unknownVariant name (known.map Prod.fst)) mark)
  let collection (mark : Mark) (tag : Option String) (found : Found) : Except Complaint α :=
    match localTag? tag with
    | some name => do
      let _ ← named name none
      misfitAt mark (.invalidType found "unit")
    | none => misfitAt mark (.invalidType found "a YAML tag starting with '!'")
  placed node <| match node.target with
  | .scalar mark tag text style =>
    match localTag? tag with
    | some name => do
      let value ← named name none
      if style = .plain ∧ (text.isEmpty ∨ Plain.isNull text) then pure value
      else misfitAt mark (.invalidValue (.text text) "null")
    | none => named text (some mark)
  | .sequence mark tag _ => collection mark tag .sequence
  | .mapping mark tag _ => collection mark tag .map
  | _ => .error .missing

/-- The fields of a record that is being put together. -/
structure Shape (σ : Type) where
  /-- What the record is called in messages. -/
  expected : String
  fields : List (String × Value (σ → σ))
  start : σ
  /-- The fields that may not be left out. -/
  required : List String

section Records

variable {σ : Type} (shape : Shape σ)

/-- The text of a key, and the name under which problems with its value are reported. -/
def keyText : Node → Except Complaint (String × String)
  | .scalar _ _ value _ => .ok (value, value)
  | node => (anyText "field identifier" node).map fun value => (value, "?")

/-- The entries of a mapping, `seen` having come before. -/
def recordFields (mark : Mark) (seen : List String) (record : σ) :
    List (Node × Node) → Except (Complaint × Option String) σ
  | [] =>
    match shape.required.find? (!seen.contains ·) with
    | some name => .error (.misfit (.missingField name) (some mark), none)
    | none => .ok record
  | (key, value) :: rest => do
    let (key, place) ← (keyText key).mapError fun complaint => (complaint, none)
    match shape.fields.lookup key with
    | none => recordFields mark seen record rest
    | some field =>
      if seen.contains key then throw (.misfit (.duplicateField key) (some mark), none)
      else
        let change ← (field value).mapError fun complaint =>
          match complaint with
          | .misfit mismatch none => (.misfit mismatch (some mark), none)
          | other => (other, some place)
        recordFields mark (key :: seen) (change record) rest

/-- What a scalar is when a record is expected. Some tags say what its text should have been. -/
def scalarMismatch (expected : String) (tag : Option String) (value : String) (style : Style) :
    Mismatch :=
  let asPlain : Mismatch := .invalidType (Plain.found value) expected
  let asText : Mismatch := .invalidType (.text value) expected
  let invalid (meant : String) : Mismatch := .invalidValue (.text value) meant
  match tag with
  | none => if style = .plain then asPlain else asText
  | some tag =>
    if tag = "tag:yaml.org,2002:bool" then
      match Plain.truth? value with
      | some b => .invalidType (.truth b) expected
      | none => invalid "a boolean"
    else if tag = "tag:yaml.org,2002:int" then
      match Plain.integerOf? value with
      | some n => .invalidType n expected
      | none => invalid "an integer"
    else if tag = "tag:yaml.org,2002:float" then
      match Plain.decimal? value.toList with
      | some digits => .invalidType (.decimal digits) expected
      | none => invalid "a float"
    else if tag = "tag:yaml.org,2002:null" then
      if Plain.isNull value then .invalidType .nothing expected else invalid "null"
    else if (localTag? (some tag)).isSome ∧ style = .plain then asPlain
    else asText

def recordOf : Node → Except (Complaint × Option String) σ
  | .mapping mark _ entries => recordFields shape mark [] shape.start entries
  | .scalar mark tag value style =>
    if value.isEmpty ∧ style = .plain then recordFields shape mark [] shape.start []
    else .error (.misfit (scalarMismatch shape.expected tag value style) (some mark), none)
  | .sequence mark _ _ =>
    .error (.misfit (.invalidType .sequence shape.expected) (some mark), none)
  | _ => .error (.missing, none)

/-- The record that a document holds. -/
def record (document : Document) : Except Error σ :=
  let malformed : Problem := .malformed (document.malformed.getD .endOfTokens)
  match recordOf shape document.root with
  | .error (.missing, _) => .error ⟨malformed, none, none⟩
  | .error (.misfit mismatch mark, key) => .error ⟨.mismatch mismatch, key, mark⟩
  | .ok value =>
    if document.malformed.isSome then .error ⟨malformed, none, none⟩
    else if document.isAlone then .ok value
    else .error ⟨.severalDocuments, none, none⟩

end Records

end ModelForge.Yaml
