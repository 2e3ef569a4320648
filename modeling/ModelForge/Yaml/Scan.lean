import ModelForge.Yaml.Token

/-! Cutting a text into tokens. The scan keeps the columns at which collections started, and for
every level of brackets the place where a key may have started; a colon turns such a place into a
key after the fact. -/
namespace ModelForge.Yaml

/-- A place where a key may have started. A required one has to turn out to be a key. -/
structure PossibleKey where
  required : Bool
  /-- How many tokens came before. -/
  position : Nat
  mark : Mark

structure ScanState where
  rest : List Char
  mark : Mark
  flowLevel : Nat
  indent : Int
  indents : List Int
  keyAllowed : Bool
  /-- One for each level of brackets, the innermost first. -/
  keys : List (Option PossibleKey)
  /-- The tokens so far, the last one first. -/
  tokens : List Token
  count : Nat

abbrev Scan := ExceptT Malformed (StateM ScanState)

namespace Scan

def isBreak (c : Char) : Bool :=
  c == '\r' || c == '\n' || c == '\u0085' || c == '\u2028' || c == '\u2029'

def isBlank (c : Char) : Bool := c == ' ' || c == '\t'

/-- Whether what stands at a place is a blank, a line end, or nothing. -/
def isGap : Option Char → Bool
  | none => true
  | some c => isBlank c || isBreak c

def isBreakOrEnd : Option Char → Bool
  | none => true
  | some c => isBreak c

def isNamePart (c : Char) : Bool := c.isAlphanum || c == '_' || c == '-'

/-- The characters that a document may hold at all. -/
def isAllowed (c : Char) : Bool :=
  let code := c.toNat
  code == 0x9 || code == 0xa || code == 0xd || (0x20 ≤ code && code ≤ 0x7e) || code == 0x85
    || (0xa0 ≤ code && code ≤ 0xd7ff) || (0xe000 ≤ code && code ≤ 0xfffd) || 0x10000 ≤ code

def peek (ahead : Nat) : Scan (Option Char) := do pure (← get).rest[ahead]?

def here : Scan Mark := do pure (← get).mark

def skip : Scan Unit :=
  modify fun s =>
    match s.rest with
    | [] => s
    | c :: rest =>
      { s with rest, mark := ⟨s.mark.index + c.utf8Size, s.mark.line, s.mark.column + 1⟩ }

def skipMany : Nat → Scan Unit
  | 0 => pure ()
  | n + 1 => do
    skip
    skipMany n

/-- Takes a line end. All but the two Unicode separators become a line feed. -/
def lineEnd : Scan (List Char) := do
  let s ← get
  let next (width : Nat) (rest : List Char) : ScanState :=
    { s with rest, mark := ⟨s.mark.index + width, s.mark.line + 1, 0⟩ }
  match s.rest with
  | '\r' :: '\n' :: rest =>
    set (next 2 rest)
    pure ['\n']
  | c :: rest =>
    if c = '\u2028' ∨ c = '\u2029' then
      set (next c.utf8Size rest)
      pure [c]
    else if isBreak c then
      set (next c.utf8Size rest)
      pure ['\n']
    else pure []
  | [] => pure []

/-- Takes characters of one line while they are of a kind. -/
def takeWhile (kind : Char → Bool) : Scan (List Char) := do
  let s ← get
  let found := s.rest.takeWhile kind
  let width := (String.ofList found).utf8ByteSize
  set { s with
    rest := s.rest.dropWhile kind
    mark := ⟨s.mark.index + width, s.mark.line, s.mark.column + found.length⟩ }
  pure found

def restOfLine : Scan (List Char) := takeWhile (!isBreak ·)

def emit (kind : TokenKind) (start stop : Mark) : Scan Unit :=
  modify fun s => { s with tokens := ⟨kind, start, stop⟩ :: s.tokens, count := s.count + 1 }

/-- Puts a token behind the first `position` ones. -/
def insertAt (position : Nat) (kind : TokenKind) (mark : Mark) : Scan Unit :=
  modify fun s =>
    let later := s.count - position
    { s with
      tokens := s.tokens.take later ++ ⟨kind, mark, mark⟩ :: s.tokens.drop later
      count := s.count + 1 }

def fail (reason : Malformed) : Scan α := throw reason

def allowKey (allowed : Bool) : Scan Unit := modify fun s => { s with keyAllowed := allowed }

def inFlow : Scan Bool := do pure ((← get).flowLevel ≠ 0)

/-- Forgets the place of a possible key. -/
def dropKey : Scan Unit := do
  let s ← get
  match s.keys with
  | some key :: outer =>
    if key.required then fail .missingColon
    else set { s with keys := none :: outer }
  | _ => pure ()

/-- Remembers that a key may start here. It has to be one where a collection would go on. -/
def saveKey : Scan Unit := do
  let s ← get
  if s.keyAllowed then
    dropKey
    let required := s.flowLevel = 0 ∧ s.indent = (s.mark.column : Int)
    modify fun s => { s with keys := some ⟨required, s.count, s.mark⟩ :: s.keys.tail }

/-- A key keeps to one line and to a length of 1024 bytes. -/
def keyLengthLimit : Nat := 1024

/-- Forgets the places that are too far back to be keys. -/
def dropStaleKeys : Scan Unit := do
  let s ← get
  let isStale (key : PossibleKey) : Bool :=
    key.mark.line < s.mark.line || key.mark.index + keyLengthLimit < s.mark.index
  if s.keys.any fun key => key.any fun key => key.required && isStale key then fail .missingColon
  else
    set { s with keys := s.keys.map fun (key : Option PossibleKey) => key.filter (!isStale ·) }

/-- Closes the collections that started further right. -/
def unrollTo (column : Int) : Nat → Scan Unit
  | 0 => pure ()
  | limit + 1 => do
    let s ← get
    if s.flowLevel = 0 ∧ column < s.indent then
      emit .blockEnd s.mark s.mark
      modify fun s => { s with indent := s.indents.headD (-1), indents := s.indents.tail }
      unrollTo column limit

def unroll (column : Int) : Scan Unit := do
  unrollTo column ((← get).indents.length + 1)

/-- Opens a collection if the column is further right than that of the last one. -/
def rollTo (column : Int) (position : Option Nat) (kind : TokenKind) (mark : Mark) :
    Scan Unit := do
  let s ← get
  if s.flowLevel = 0 ∧ s.indent < column then
    set { s with indent := column, indents := s.indent :: s.indents }
    match position with
    | none => emit kind mark mark
    | some position => insertAt position kind mark

/-- Passes over blanks, comments and line ends, and over a byte order mark at the start of a line.
A tab is no indentation. -/
def toNextToken : Nat → Scan Unit
  | 0 => pure ()
  | limit + 1 => do
    let s ← get
    if s.mark.column = 0 ∧ s.rest.head? = some '\ufeff' then skip
    let s ← get
    let _ ← takeWhile fun c => c == ' ' || ((s.flowLevel ≠ 0 || !s.keyAllowed) && c == '\t')
    if (← peek 0) = some '#' then
      let _ ← restOfLine
    if (← peek 0).any isBreak then
      let _ ← lineEnd
      if !(← inFlow) then allowKey true
      toNextToken limit

/-- A token of a number of characters. -/
def symbol (kind : TokenKind) (width : Nat) : Scan Unit := do
  let start ← here
  skipMany width
  emit kind start (← here)

/-- A number in a directive has at most nine digits. -/
def number : Scan Nat := do
  let digits ← takeWhile Char.isDigit
  if digits.isEmpty ∨ 9 < digits.length then fail .badDirective
  else pure (digits.foldl (fun n c => 10 * n + (c.toNat - '0'.toNat)) 0)

/-- A tag's handle: `!`, `!!` or `!name!`; outside directives it may also be the start of a
tag. -/
def tagHandle (inDirective : Bool) : Scan (List Char) := do
  if (← peek 0) ≠ some '!' then fail .badTag
  skip
  let name ← takeWhile isNamePart
  if (← peek 0) = some '!' then
    skip
    pure ('!' :: name ++ ['!'])
  else if inDirective ∧ ¬ name.isEmpty then fail .badTag
  else pure ('!' :: name)

def isUriPart (wide : Bool) (c : Char) : Bool :=
  isNamePart c || ";/?:@&=+$.!~*'()%".toList.contains c || (wide && ",[]".toList.contains c)

/-- The value of a hexadecimal digit. -/
def hexValue? (c : Char) : Option Nat :=
  if c.isDigit then some (c.toNat - '0'.toNat)
  else if 'a' ≤ c ∧ c ≤ 'f' then some (c.toNat - 'a'.toNat + 10)
  else if 'A' ≤ c ∧ c ≤ 'F' then some (c.toNat - 'A'.toNat + 10)
  else none

/-- The bytes that a tag spells; a percent sign stands before two hexadecimal digits. -/
def uriBytes : List Char → Option (List UInt8)
  | [] => some []
  | '%' :: a :: b :: rest => do
    let a ← hexValue? a
    let b ← hexValue? b
    pure ((16 * a + b).toUInt8 :: (← uriBytes rest))
  | '%' :: _ => none
  | c :: rest => do
    pure ((String.singleton c).toUTF8.data.toList ++ (← uriBytes rest))

/-- The text of a tag, which a NUL would end. -/
def tagUri (wide : Bool) (start : List Char) : Scan String := do
  let found ← takeWhile (isUriPart wide)
  if start.isEmpty ∧ found.isEmpty then fail .badTag
  else
    match (uriBytes found).bind fun bytes => String.fromUTF8? ⟨bytes.toArray⟩ with
    | some text => pure (String.ofList (start.drop 1 ++ text.toList.takeWhile (· ≠ '\x00')))
    | none => fail .badTag

def directive : Scan Unit := do
  unroll (-1)
  dropKey
  allowKey false
  let start ← here
  skip
  let name ← takeWhile isNamePart
  if name.isEmpty ∨ ¬ isGap (← peek 0) then fail .badDirective
  let kind ← match String.ofList name with
    | "YAML" => do
      let _ ← takeWhile isBlank
      let major ← number
      if (← peek 0) ≠ some '.' then fail .badDirective
      skip
      let minor ← number
      pure (TokenKind.versionDirective major minor)
    | "TAG" => do
      let _ ← takeWhile isBlank
      let handle ← tagHandle true
      if !(← peek 0).any isBlank then fail .badDirective
      let _ ← takeWhile isBlank
      let start ← tagUri true []
      if !isGap (← peek 0) then fail .badDirective
      pure (TokenKind.tagDirective (String.ofList handle) start)
    | _ => fail .badDirective
  emit kind start (← here)
  let _ ← takeWhile isBlank
  if (← peek 0) = some '#' then
    let _ ← restOfLine
  if !isBreakOrEnd (← peek 0) then fail .badDirective
  let _ ← lineEnd

def documentIndicator (kind : TokenKind) : Scan Unit := do
  unroll (-1)
  dropKey
  allowKey false
  symbol kind 3

def flowStart (kind : TokenKind) : Scan Unit := do
  saveKey
  modify fun s => { s with flowLevel := s.flowLevel + 1, keys := none :: s.keys }
  allowKey true
  symbol kind 1

def flowEnd (kind : TokenKind) : Scan Unit := do
  dropKey
  modify fun s =>
    if s.flowLevel = 0 then s
    else { s with flowLevel := s.flowLevel - 1, keys := s.keys.tail }
  allowKey false
  symbol kind 1

def flowEntry : Scan Unit := do
  dropKey
  allowKey true
  symbol .flowEntry 1

def blockEntry : Scan Unit := do
  let s ← get
  if s.flowLevel = 0 then
    if !s.keyAllowed then fail .misplacedEntry
    rollTo s.mark.column none .blockSequenceStart s.mark
  dropKey
  allowKey true
  symbol .blockEntry 1

def key : Scan Unit := do
  let s ← get
  if s.flowLevel = 0 then
    if !s.keyAllowed then fail .misplacedKey
    rollTo s.mark.column none .blockMappingStart s.mark
  dropKey
  allowKey (s.flowLevel = 0)
  symbol .key 1

/-- A colon. The place of a possible key becomes a key now, and may open a mapping. -/
def value : Scan Unit := do
  let s ← get
  match s.keys with
  | some possible :: outer =>
    insertAt possible.position .key possible.mark
    rollTo possible.mark.column (some possible.position) .blockMappingStart possible.mark
    modify fun s => { s with keys := none :: outer }
    allowKey false
  | _ =>
    if s.flowLevel = 0 then
      if !s.keyAllowed then fail .misplacedValue
      rollTo s.mark.column none .blockMappingStart s.mark
    allowKey (s.flowLevel = 0)
  symbol .value 1

/-- The name behind `&` or `*`. -/
def reference (kind : String → TokenKind) : Scan Unit := do
  saveKey
  allowKey false
  let start ← here
  skip
  let name ← takeWhile isNamePart
  let next ← peek 0
  if name.isEmpty ∨ ¬ (isGap next ∨ next.any ("?:,]\x7d%@\x60".toList.contains ·)) then
    fail .badAnchor
  emit (kind (String.ofList name)) start (← here)

def tag : Scan Unit := do
  saveKey
  allowKey false
  let start ← here
  let (handle, suffix) ← if (← peek 1) = some '<' then do
      skipMany 2
      let suffix ← tagUri true []
      if (← peek 0) ≠ some '>' then fail .badTag
      skip
      pure ("", suffix)
    else do
      let handle ← tagHandle false
      if handle.length > 1 ∧ handle.getLast? = some '!' then
        let suffix ← tagUri false []
        pure (String.ofList handle, suffix)
      else
        let suffix ← tagUri false handle
        pure (if suffix.isEmpty then ("", "!") else ("!", suffix))
  let next ← peek 0
  if ¬ (isGap next ∨ ((← inFlow) ∧ next = some ',')) then fail .badTag
  emit (.tag handle suffix) start (← here)

/-- Line ends before the next line of a block scalar, and the indentation, which is found out here
when it is still zero. -/
def blockBreaks (indent widest : Nat) (breaks : List Char) : Nat → Scan (Nat × List Char)
  | 0 => pure (indent, breaks)
  | limit + 1 => do
    let s ← get
    let room := indent - s.mark.column
    let spaces := (s.rest.takeWhile (· == ' ')).length
    skipMany (if indent = 0 then spaces else min room spaces)
    let column := (← here).column
    let widest := max widest column
    let next ← peek 0
    if (indent = 0 ∨ column < indent) ∧ next = some '\t' then fail .tabInIndentation
    if next.any isBreak then
      let found ← lineEnd
      blockBreaks indent widest (breaks ++ found) limit
    else if indent = 0 then
      let least := (s.indent + 1).toNat
      pure (max (max widest least) 1, breaks)
    else pure (indent, breaks)

/-- The lines of a block scalar. `pending` is the end of the line before, `breaks` the empty lines
after it, `blankBefore` says whether that line started with a blank. -/
def blockLines (literal : Bool) (indent : Nat) (text pending breaks : List Char)
    (blankBefore : Bool) : Nat → Scan (List Char × List Char × List Char)
  | 0 => pure (text, pending, breaks)
  | limit + 1 => do
    let s ← get
    if s.mark.column = indent ∧ ¬ s.rest.isEmpty then
      let startsBlank := s.rest.head?.any isBlank
      let joint :=
        if !literal && pending.head? == some '\n' && !blankBefore && !startsBlank then
          if breaks.isEmpty then [' '] else []
        else pending
      let line ← restOfLine
      let ending ← lineEnd
      let (indent, more) ← blockBreaks indent 0 [] (s.rest.length + 1)
      blockLines literal indent (text ++ joint ++ breaks ++ line) ending more startsBlank limit
    else pure (text, pending, breaks)

inductive Chomping where
  | strip
  | clip
  | keep
deriving DecidableEq

def chompingSign : Scan (Option Chomping) := do
  match ← peek 0 with
  | some '+' =>
    skip
    pure (some .keep)
  | some '-' =>
    skip
    pure (some .strip)
  | _ => pure none

/-- The explicit indentation of a block scalar, zero if there is none. -/
def indentationDigit : Scan Nat := do
  match ← peek 0 with
  | some c =>
    if c = '0' then fail .badBlockHeader
    else if c.isDigit then
      skip
      pure (c.toNat - '0'.toNat)
    else pure 0
  | none => pure 0

def blockScalar (literal : Bool) : Scan Unit := do
  dropKey
  allowKey true
  let start ← here
  skip
  let before ← chompingSign
  let increment ← indentationDigit
  let after ← if before.isNone then chompingSign else pure none
  let _ ← takeWhile isBlank
  if (← peek 0) = some '#' then
    let _ ← restOfLine
  if !isBreakOrEnd (← peek 0) then fail .badBlockHeader
  let _ ← lineEnd
  let s ← get
  let indent := if increment = 0 then 0
    else if 0 ≤ s.indent then s.indent.toNat + increment else increment
  let limit := s.rest.length + 1
  let (indent, breaks) ← blockBreaks indent 0 [] limit
  let (text, pending, breaks) ← blockLines literal indent [] [] breaks false limit
  let chomping := ((before.orElse fun _ => after).getD .clip)
  let text := text ++ (if chomping = .strip then [] else pending)
    ++ (if chomping = .keep then breaks else [])
  emit (.scalar (String.ofList text) (if literal then .literal else .folded)) start (← here)

/-- Whether a document starts or ends at a place. -/
def atIndicator : Scan Bool := do
  let s ← get
  let isIndicator (c : Char) : Bool := s.rest.take 3 == [c, c, c] && isGap s.rest[3]?
  pure (s.mark.column = 0 && (isIndicator '-' || isIndicator '.'))

/-- Blanks and line ends inside a scalar: the blanks, the first line end, and the others. Once a
line has ended, blanks do not count. `checkTab` looks at every blank after a line end. -/
def gap (checkTab : Scan Unit) (broken : Bool) (blanks first others : List Char) :
    Nat → Scan (Bool × List Char × List Char × List Char)
  | 0 => pure (broken, blanks, first, others)
  | limit + 1 => do
    match ← peek 0 with
    | some c =>
      if isBlank c then
        if broken then
          checkTab
          skip
          gap checkTab broken blanks first others limit
        else
          skip
          gap checkTab broken (blanks ++ [c]) first others limit
      else if isBreak c then
        let found ← lineEnd
        if broken then gap checkTab broken blanks first (others ++ found) limit
        else gap checkTab true [] found others limit
      else pure (broken, blanks, first, others)
    | none => pure (broken, blanks, first, others)

/-- What a gap leaves in a scalar: one line end is a blank, further ones stay. -/
def fold (broken : Bool) (blanks first others : List Char) : List Char :=
  if broken then
    if first.head? = some '\n' then (if others.isEmpty then [' '] else others)
    else first ++ others
  else blanks

/-- A character given by its code. -/
def codedCharacter (width : Nat) : Scan (List Char) := do
  let s ← get
  let digits := s.rest.take width
  match digits.mapM hexValue? with
  | none => fail .badEscape
  | some values =>
    let code := values.foldl (fun n v => 16 * n + v) 0
    if values.length < width ∨ (0xd800 ≤ code ∧ code ≤ 0xdfff) ∨ 0x10ffff < code then
      fail .badEscape
    else
      skipMany width
      pure [Char.ofNat code]

/-- What stands behind a backslash. -/
def escape : Scan (List Char) := do
  let next ← peek 0
  skip
  match next with
  | some '0' => pure ['\x00']
  | some 'a' => pure ['\x07']
  | some 'b' => pure ['\x08']
  | some 't' | some '\t' => pure ['\t']
  | some 'n' => pure ['\n']
  | some 'v' => pure ['\x0b']
  | some 'f' => pure ['\x0c']
  | some 'r' => pure ['\r']
  | some 'e' => pure ['\x1b']
  | some ' ' => pure [' ']
  | some '"' => pure ['"']
  | some '/' => pure ['/']
  | some '\\' => pure ['\\']
  | some 'N' => pure ['\u0085']
  | some '_' => pure ['\u00a0']
  | some 'L' => pure ['\u2028']
  | some 'P' => pure ['\u2029']
  | some 'x' => codedCharacter 2
  | some 'u' => codedCharacter 4
  | some 'U' => codedCharacter 8
  | _ => fail .badEscape

/-- The part of a quoted scalar up to a gap or the closing quote. An escaped line end leaves
nothing and starts a gap. -/
def quotedPart (single : Bool) (text : List Char) : Nat → Scan (List Char × Bool)
  | 0 => pure (text, false)
  | limit + 1 => do
    match ← peek 0, ← peek 1 with
    | none, _ => pure (text, false)
    | some c, next =>
      if isBlank c || isBreak c then pure (text, false)
      else if single && c == '\'' && next == some '\'' then
        skipMany 2
        quotedPart single (text ++ ['\'']) limit
      else if c == (if single then '\'' else '"') then pure (text, false)
      else if !single && c == '\\' then
        if next.any isBreak then
          skip
          let _ ← lineEnd
          pure (text, true)
        else
          skip
          let found ← escape
          quotedPart single (text ++ found) limit
      else
        skip
        quotedPart single (text ++ [c]) limit

def quotedText (single : Bool) (text : List Char) : Nat → Scan (List Char)
  | 0 => fail .unterminatedScalar
  | limit + 1 => do
    if ← atIndicator then fail .documentInScalar
    if (← peek 0).isNone then fail .unterminatedScalar
    let (text, broken) ← quotedPart single text ((← get).rest.length + 1)
    if (← peek 0) = some (if single then '\'' else '"') then
      skip
      pure text
    else
      let (broken, blanks, first, others) ←
        gap (pure ()) broken [] [] [] ((← get).rest.length + 1)
      quotedText single (text ++ fold broken blanks first others) limit

def quotedScalar (single : Bool) : Scan Unit := do
  saveKey
  allowKey false
  let start ← here
  skip
  let text ← quotedText single [] ((← get).rest.length + 2)
  emit (.scalar (String.ofList text) (if single then .singleQuoted else .doubleQuoted)) start
    (← here)

/-- The part of a plain scalar up to a gap or a character that ends it. -/
def plainPart (text : List Char) : Nat → Scan (List Char)
  | 0 => pure text
  | limit + 1 => do
    match ← peek 0, ← peek 1 with
    | none, _ => pure text
    | some c, next =>
      let flow ← inFlow
      if isBlank c || isBreak c then pure text
      else if flow && c == ':' && next.any (",?[]\x7b\x7d".toList.contains ·) then fail .badColon
      else if (c == ':' && isGap next) || (flow && ",[]\x7b\x7d".toList.contains c) then pure text
      else
        skip
        plainPart (text ++ [c]) limit

/-- The parts of a plain scalar with the gaps between them folded. Gives the text, the place where
it ends, and whether a line ended after it. -/
def plainText (indent : Int) (text pending : List Char) (broken : Bool) (stop : Mark) :
    Nat → Scan (List Char × Mark × Bool)
  | 0 => pure (text, stop, broken)
  | limit + 1 => do
    if (← atIndicator) || (← peek 0) == some '#' then pure (text, stop, broken)
    else
      let part ← plainPart [] ((← get).rest.length + 1)
      let end' ← here
      let (text, broken, stop) := if part.isEmpty then (text, broken, stop)
        else (text ++ pending ++ part, false, end')
      if (← peek 0).any fun c => isBlank c || isBreak c then
        let checkTab : Scan Unit := do
          if ((← here).column : Int) < indent ∧ (← peek 0) = some '\t' then
            fail .tabInIndentation
        let (broken', blanks, first, others) ←
          gap checkTab broken [] [] [] ((← get).rest.length + 1)
        let flow ← inFlow
        if !flow ∧ ((← here).column : Int) < indent then pure (text, stop, broken')
        else plainText indent text (fold broken' blanks first others) broken' stop limit
      else pure (text, stop, broken)

def plainScalar : Scan Unit := do
  saveKey
  allowKey false
  let s ← get
  let (text, stop, broken) ← plainText (s.indent + 1) [] [] false s.mark (s.rest.length + 1)
  if broken then allowKey true
  emit (.scalar (String.ofList text) .plain) s.mark stop

/-- Characters that cannot start a plain scalar. -/
def isIndicator (c : Char) : Bool := "-?:,[]\x7b\x7d#&*!|>'\"%@\x60".toList.contains c

/-- One step: what stands here becomes a token. Says whether the text goes on. -/
def step : Scan Bool := do
  toNextToken ((← get).rest.length + 1)
  dropStaleKeys
  let s ← get
  unroll s.mark.column
  match s.rest.head? with
  | none =>
    if s.mark.column ≠ 0 then
      modify fun s => { s with mark := ⟨s.mark.index, s.mark.line + 1, 0⟩ }
    unroll (-1)
    dropKey
    allowKey false
    symbol .streamEnd 0
    pure false
  | some c =>
    let next := s.rest[1]?
    let flow := s.flowLevel ≠ 0
    if s.mark.column = 0 ∧ c = '%' then directive
    else if ← atIndicator then
      documentIndicator (if c = '-' then .documentStart else .documentEnd)
    else if c = '[' then flowStart .flowSequenceStart
    else if c = '\x7b' then flowStart .flowMappingStart
    else if c = ']' then flowEnd .flowSequenceEnd
    else if c = '\x7d' then flowEnd .flowMappingEnd
    else if c = ',' then flowEntry
    else if c = '-' ∧ isGap next then blockEntry
    else if c = '?' ∧ (flow ∨ isGap next) then key
    else if c = ':' ∧ (flow ∨ isGap next) then value
    else if c = '*' then reference .alias
    else if c = '&' then reference .anchor
    else if c = '!' then tag
    else if c = '|' ∧ ¬ flow then blockScalar true
    else if c = '>' ∧ ¬ flow then blockScalar false
    else if c = '\'' then quotedScalar true
    else if c = '"' then quotedScalar false
    else if !(isGap (some c) || isIndicator c) || (c = '-' && !next.any isBlank)
        || (!flow && (c = '?' || c = ':') && !isGap next) then plainScalar
    else fail .badStart
    pure true

def steps : Nat → Scan Unit
  | 0 => pure ()
  | limit + 1 => do
    if ← step then steps limit

end Scan

/-- The tokens of a text, and why there are no more of them if the text is malformed. -/
def Token.scan (text : List Char) : List Token × Option Malformed :=
  if text.all Scan.isAllowed then
    let start : ScanState := ⟨text, ⟨0, 0, 0⟩, 0, -1, [], true, [none], [], 0⟩
    match (Scan.steps (text.length + 2)).run.run start with
    | (.ok (), s) => (s.tokens.reverse, none)
    | (.error reason, s) => (s.tokens.reverse, some reason)
  else ([], some .forbiddenCharacter)

end ModelForge.Yaml
