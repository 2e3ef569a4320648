import ModelForge.Yaml.Scan

/-! The nodes of a document, put together from its tokens. Where the tokens stop making sense a
node is missing, and so is everything behind it; what came before stays readable. -/
namespace ModelForge.Yaml

inductive Node where
  | scalar (mark : Mark) (tag : Option String) (value : String) (style : Style)
  | sequence (mark : Mark) (tag : Option String) (items : List Node)
  | mapping (mark : Mark) (tag : Option String) (entries : List (Node × Node))
  /-- Another node by its name. Of a collection only the place is kept, as one that holds its own
  alias would have no end. -/
  | alias (mark : Mark) (target : Node)
  | missing
deriving Repr

/-- A scalar that is not written at all. -/
def Node.blank (mark : Mark) : Node := .scalar mark none "" .plain

/-- The first document of a text. -/
structure Document where
  root : Node
  malformed : Option Malformed
  /-- Nothing but the end of the text comes after it. -/
  isAlone : Bool

structure BuildState where
  tokens : List Token
  handles : List (String × String)
  /-- The named nodes so far, the last one first. -/
  anchors : List (String × Node)
  malformed : Option Malformed

abbrev Build := StateM BuildState

/-- Where a node stands. A sequence need not be indented inside a block mapping. -/
inductive Place where
  | flow
  | block
  | inBlockMapping
deriving DecidableEq

namespace Build

/-- Nothing is read from here on. The first reason counts. -/
def giveUp (reason : Malformed) : Build Unit :=
  modify fun s => { s with malformed := s.malformed.or (some reason) }

def peek : Build (Option Token) := do
  let s ← get
  match s.malformed, s.tokens with
  | none, token :: _ => pure (some token)
  | none, [] =>
    giveUp .endOfTokens
    pure none
  | some _, _ => pure none

def skip : Build Unit := modify fun s => { s with tokens := s.tokens.tail }

/-- The next token has to be one of a kind. -/
def missing (reason : Malformed) : Build Node := do
  giveUp reason
  pure .missing

def anchor? : Build (Option String) := do
  match ← peek with
  | some ⟨.anchor name, _, _⟩ =>
    skip
    pure (some name)
  | _ => pure none

/-- The handles that need no directive. -/
def standardHandles : List (String × String) := [("!", "!"), ("!!", "tag:yaml.org,2002:")]

def tag? : Build (Option String) := do
  match ← peek with
  | some ⟨.tag handle suffix, _, _⟩ =>
    skip
    if handle.isEmpty then pure (some suffix)
    else
      match ((← get).handles ++ standardHandles).lookup handle with
      | some start => pure (some (start ++ suffix))
      | none =>
        giveUp .unknownHandle
        pure none
  | _ => pure none

/-- An anchor and a tag in either order. -/
def properties : Build (Option String × Option String) := do
  let before ← anchor?
  let tag ← tag?
  let after ← if before.isNone then anchor? else pure none
  pure (before.or after, tag)

def remember (anchor : Option String) (target : Node) : Build Unit :=
  modify fun s =>
    match anchor with
    | none => s
    | some name => { s with anchors := (name, target) :: s.anchors }

/-- A node, or a blank one if a token of another kind comes next. -/
def orBlank (isEnd : TokenKind → Bool) (blankAt : Token → Mark) (node : Build Node) :
    Build Node := do
  match ← peek with
  | none => pure .missing
  | some token => if isEnd token.kind then pure (.blank (blankAt token)) else node

def endsBlockEntry : TokenKind → Bool
  | .key | .value | .blockEnd => true
  | _ => false

section Collections

variable (node : Place → Build Node)

def blockItems : Nat → Build (List Node)
  | 0 => pure [.missing]
  | limit + 1 => do
    match ← peek with
    | none => pure [.missing]
    | some ⟨.blockEntry, _, stop⟩ =>
      skip
      let item ← orBlank (fun kind => kind == .blockEntry || kind == .blockEnd) (fun _ => stop)
        (node .block)
      pure (item :: (← blockItems limit))
    | some ⟨.blockEnd, _, _⟩ =>
      skip
      pure []
    | some _ => pure [← missing .missingEntry]

/-- The items of a sequence that is not indented. Any other token ends it. -/
def unindentedItems : Nat → Build (List Node)
  | 0 => pure [.missing]
  | limit + 1 => do
    match ← peek with
    | none => pure [.missing]
    | some ⟨.blockEntry, _, stop⟩ =>
      skip
      let item ← orBlank (fun kind => kind == .blockEntry || endsBlockEntry kind) (fun _ => stop)
        (node .block)
      pure (item :: (← unindentedItems limit))
    | some _ => pure []

def blockValue : Build Node := do
  match ← peek with
  | none => pure .missing
  | some ⟨.value, _, stop⟩ =>
    skip
    orBlank endsBlockEntry (fun _ => stop) (node .inBlockMapping)
  | some token => pure (.blank token.start)

def blockEntries : Nat → Build (List (Node × Node))
  | 0 => pure [(.missing, .missing)]
  | limit + 1 => do
    match ← peek with
    | none => pure [(.missing, .missing)]
    | some ⟨.key, _, stop⟩ =>
      skip
      let key ← orBlank endsBlockEntry (fun _ => stop) (node .inBlockMapping)
      let value ← blockValue node
      pure ((key, value) :: (← blockEntries limit))
    | some ⟨.blockEnd, _, _⟩ =>
      skip
      pure []
    | some _ => pure [(← missing .missingKey, .missing)]

/-- The value behind a key in brackets that `closing` ends. -/
def flowValue (closing : TokenKind) : Build Node := do
  match ← peek with
  | none => pure .missing
  | some ⟨.value, _, _⟩ =>
    skip
    orBlank (fun kind => kind == .flowEntry || kind == closing) Token.start (node .flow)
  | some token => pure (.blank token.start)

/-- A single key with its value among the items of a sequence. A key that is not written takes the
token behind it along. -/
def flowPair (mark : Mark) : Build Node := do
  skip
  let isEnd (kind : TokenKind) : Bool :=
    kind == .value || kind == .flowEntry || kind == .flowSequenceEnd
  let key ← match ← peek with
    | none => pure .missing
    | some token =>
      if isEnd token.kind then
        skip
        pure (.blank token.stop)
      else node .flow
  let value ← flowValue node .flowSequenceEnd
  pure (.mapping mark none [(key, value)])

/-- Whether brackets that `closing` ends go on. All entries but the first come behind a comma. -/
def goesOn (closing : TokenKind) (first : Bool) : Build Bool := do
  match ← peek with
  | none => pure true
  | some token =>
    if token.kind = closing then
      skip
      pure false
    else if first then pure true
    else if token.kind = .flowEntry then
      skip
      match ← peek with
      | none => pure true
      | some token =>
        if token.kind = closing then
          skip
          pure false
        else pure true
    else
      giveUp .missingComma
      pure true

def flowItems : Nat → Bool → Build (List Node)
  | 0, _ => pure [.missing]
  | limit + 1, first => do
    if ← goesOn .flowSequenceEnd first then
      match ← peek with
      | none => pure [.missing]
      | some ⟨.key, start, _⟩ =>
        let pair ← flowPair node start
        pure (pair :: (← flowItems limit false))
      | some _ =>
        let item ← node .flow
        pure (item :: (← flowItems limit false))
    else pure []

def flowEntries : Nat → Bool → Build (List (Node × Node))
  | 0, _ => pure [(.missing, .missing)]
  | limit + 1, first => do
    if ← goesOn .flowMappingEnd first then
      match ← peek with
      | none => pure [(.missing, .missing)]
      | some ⟨.key, _, _⟩ =>
        skip
        let isEnd (kind : TokenKind) : Bool :=
          kind == .value || kind == .flowEntry || kind == .flowMappingEnd
        let key ← orBlank isEnd Token.start (node .flow)
        let value ← flowValue node .flowMappingEnd
        pure ((key, value) :: (← flowEntries limit false))
      | some _ =>
        let key ← node .flow
        let value ← orBlank (fun _ => true) Token.start (pure .missing)
        pure ((key, value) :: (← flowEntries limit false))
    else pure []

end Collections

/-- One node with all that is in it. Every level takes a token, so the number of tokens bounds the
levels. -/
def node : Nat → Place → Build Node
  | 0, _ => missing .endOfTokens
  | limit + 1, place => do
    match ← peek with
    | none => pure .missing
    | some ⟨.alias name, mark, _⟩ =>
      skip
      match (← get).anchors.lookup name with
      | some target => pure (.alias mark target)
      | none => missing .unknownAlias
    | some ⟨_, mark, _⟩ =>
      let (anchor, tag) ← properties
      let sequenceOf (items : Build (List Node)) : Build Node := do
        remember anchor (.sequence mark tag [])
        pure (.sequence mark tag (← items))
      let mappingOf (entries : Build (List (Node × Node))) : Build Node := do
        remember anchor (.mapping mark tag [])
        pure (.mapping mark tag (← entries))
      match ← peek with
      | none => pure .missing
      | some token =>
        match token.kind with
        | .scalar value style =>
          skip
          let found : Node := .scalar mark tag value style
          remember anchor found
          pure found
        | .flowSequenceStart =>
          skip
          sequenceOf (flowItems (node limit) limit true)
        | .flowMappingStart =>
          skip
          mappingOf (flowEntries (node limit) limit true)
        | kind =>
          if kind = .blockEntry ∧ place = .inBlockMapping then
            sequenceOf (unindentedItems (node limit) limit)
          else if kind = .blockSequenceStart ∧ place ≠ .flow then
            skip
            sequenceOf (blockItems (node limit) limit)
          else if kind = .blockMappingStart ∧ place ≠ .flow then
            skip
            mappingOf (blockEntries (node limit) limit)
          else if anchor.isSome ∨ tag.isSome then
            let found : Node := .scalar mark tag "" .plain
            remember anchor found
            pure found
          else missing .missingNode

/-- The directives before a document. -/
def directives (versionSeen : Bool) : Nat → Build Unit
  | 0 => pure ()
  | limit + 1 => do
    match ← peek with
    | some ⟨.versionDirective major minor, _, _⟩ =>
      if versionSeen then giveUp .duplicateDirective
      else if major ≠ 1 ∨ (minor ≠ 1 ∧ minor ≠ 2) then giveUp .badVersion
      else
        skip
        directives true limit
    | some ⟨.tagDirective handle start, _, _⟩ =>
      if ((← get).handles.lookup handle).isSome then giveUp .duplicateDirective
      else
        skip
        modify fun s => { s with handles := (handle, start) :: s.handles }
        directives versionSeen limit
    | _ => pure ()

def isDirective : TokenKind → Bool
  | .versionDirective _ _ | .tagDirective _ _ => true
  | _ => false

/-- Tokens with which a document is over or cannot have begun. -/
def endsDocument (kind : TokenKind) : Bool :=
  isDirective kind || kind == .documentStart || kind == .documentEnd || kind == .streamEnd

/-- The root node of the first document. -/
def root (limit : Nat) : Build Node := do
  match ← peek with
  | none => pure .missing
  | some token =>
    if token.kind = .streamEnd then pure (.blank token.start)
    else if isDirective token.kind ∨ token.kind = .documentStart then
      directives false limit
      match ← peek with
      | some ⟨.documentStart, _, _⟩ =>
        skip
        orBlank endsDocument Token.start (node limit .block)
      | _ => missing .missingDocumentStart
    else node limit .block

/-- Whether the text is over behind a document and the marks of its end. -/
def isOver : Build Bool := do
  pure (((← get).tokens.dropWhile (·.kind == .documentEnd)).head?.any (·.kind == .streamEnd))

end Build

def Document.ofTokens (tokens : List Token) (scanned : Option Malformed) : Document :=
  let build : Build (Node × Bool) := do
    let root ← Build.root (3 * tokens.length + 3)
    let _ ← Build.peek
    pure (root, ← Build.isOver)
  let ((root, isAlone), final) := build.run ⟨tokens, [], [], none⟩
  -- Tokens ran out because the text is malformed there.
  let malformed := if final.malformed = some .endOfTokens then scanned.or final.malformed
    else final.malformed
  ⟨root, malformed, isAlone⟩

def Document.ofText (text : String) : Document :=
  let (tokens, malformed) := Token.scan text.toList
  .ofTokens tokens malformed

end ModelForge.Yaml
