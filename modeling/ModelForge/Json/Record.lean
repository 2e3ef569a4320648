import ModelForge.Json.Scalar

/-! Records in a JSON document. A record is an object whose unknown fields are passed over, or a
list of the fields in their order. -/
namespace ModelForge.Json.Reader

/-- The brackets that a value can be inside of. -/
inductive Bracket where
  | list
  | object
deriving DecidableEq

/-- Where a reader that passes over a value stands: before a value, behind one, or right behind an
opening bracket. The innermost bracket comes first. -/
inductive Passing where
  | before
  | behind
  | opened

def skipKey : Reader Unit := do
  match ← peekSolid with
  | some b => if b = byte '"' then skip else failNext .keyMustBeString
  | none => failNext .endInObject
  skipString ((← get).rest.length + 1)
  match ← peekSolid with
  | some b => if b = byte ':' then skip else failNext .expectedColon
  | none => failNext .endInObject

/-- Goes on to the next value in a bracket. -/
def enterValue : Bracket → Reader Unit
  | .list => pure ()
  | .object => skipKey

/-- Passes over a value of any kind. Every step takes a byte or closes the reader, so the number
of bytes bounds the steps. -/
def passOver (passing : Passing) (inside : List Bracket) : Nat → Reader Unit
  | 0 => failNext .endInValue
  | limit + 1 => do
    match passing with
    | .before =>
      match ← peekSolid with
      | none => failNext .endInValue
      | some b =>
        if b = byte 'n' then
          skip; word "ull".toList; passOver .behind inside limit
        else if b = byte 't' then
          skip; word "rue".toList; passOver .behind inside limit
        else if b = byte 'f' then
          skip; word "alse".toList; passOver .behind inside limit
        else if b = byte '-' then
          skip; skipNumber; passOver .behind inside limit
        else if isDigit b then
          skipNumber; passOver .behind inside limit
        else if b = byte '"' then
          skip; skipString ((← get).rest.length + 1); passOver .behind inside limit
        else if b = byte '[' then
          skip; passOver .opened (.list :: inside) limit
        else if b = byte '\x7b' then
          skip; passOver .opened (.object :: inside) limit
        else failNext .expectedValue
    | _ =>
      match inside with
      | [] => pure ()
      | bracket :: outer =>
        let isBehind : Bool := match passing with
          | .behind => true
          | _ => false
        match ← peekSolid, bracket with
        | none, .list => failNext .endInList
        | none, .object => failNext .endInObject
        | some b, _ =>
          if isBehind ∧ b = byte ',' then
            skip; enterValue bracket; passOver .before inside limit
          else if b = byte (if bracket = .list then ']' else '\x7d') then
            skip; passOver .behind outer limit
          else if isBehind then
            failNext (if bracket = .list then .expectedListCommaOrEnd
              else .expectedObjectCommaOrEnd)
          else
            enterValue bracket; passOver .before inside limit

def ignoreValue : Reader Unit := do
  passOver .before [] (2 * (← get).rest.length + 2)

/-- The next value is not of the expected kind. -/
def wrongKind (expected : String) : Reader α := placed do
  let invalid (found : Found) : Reader α := failValue (.mismatch (.invalidType found expected))
  match ← peek with
  | none => failNext .expectedValue
  | some b =>
    if b = byte 'n' then
      skip; word "ull".toList; invalid .null
    else if b = byte 't' then
      skip; word "rue".toList; invalid (.truth true)
    else if b = byte 'f' then
      skip; word "alse".toList; invalid (.truth false)
    else if b = byte '-' then
      skip; invalid (← number false).found
    else if isDigit b then
      invalid (← number true).found
    else if b = byte '"' then
      skip; invalid (.text (← string))
    else if b = byte '[' then invalid .sequence
    else if b = byte '\x7b' then invalid .map
    else failNext .expectedValue

/-- The first byte of the next value. -/
def valueStart : Reader UInt8 := do
  match ← peekSolid with
  | some b => pure b
  | none => failNext .endInValue

/-- A string that has to satisfy `check`. -/
def text (expected : String) (check : String → Except Mismatch α) : Reader α := placed do
  let b ← valueStart
  if b = byte '"' then
    skip
    match check (← string) with
    | .ok value => pure value
    | .error mismatch => failValue (.mismatch mismatch)
  else wrongKind expected

def anyText (expected : String) : Reader String := text expected .ok

def null (expected : String) : Reader Unit := placed do
  let b ← valueStart
  if b = byte 'n' then
    skip
    word "ull".toList
  else wrongKind expected

/-- The only key of an object has to come next. -/
def choiceKey : Reader Unit := do
  match ← peekSolid with
  | none => failNext .endInObject
  | some b =>
    if b = byte '"' then pure ()
    else if b = byte '\x7d' then failNext .expectedValue
    else failNext .keyMustBeString

/-- One of a few names: a string, or an object whose only key is the name and whose value is
null. -/
def choice (known : List (String × α)) : Reader α := do
  let named : Reader α := text "variant identifier" fun s =>
    match known.lookup s with
    | some value => .ok value
    | none => .error (.unknownVariant s (known.map Prod.fst))
  match ← peekSolid with
  | none => failNext .endInValue
  | some b =>
    if b = byte '"' then named
    else if b = byte '\x7b' then
      skip
      choiceKey
      let value ← named
      match ← peekSolid with
      | some b => if b = byte ':' then skip else failNext .expectedColon
      | none => failNext .endInObject
      null "unit"
      match ← peekSolid with
      | some b => if b = byte '\x7d' then skip else failTaken .expectedValue
      | none => failTaken .endInObject
      pure value
    else failNext .expectedValue

/-- The fields of a record that is being put together. -/
structure Shape (σ : Type) where
  /-- What the record is called in messages. -/
  expected : String
  fields : List (String × Reader (σ → σ))
  start : σ
  /-- The fields that may not be left out. -/
  required : List String
  /-- What a list of the fields is called in messages when it is too short. -/
  expectedList : String

section Records

variable {σ : Type} (shape : Shape σ)

/-- Whether another key comes. -/
def nextKey (first : Bool) : Reader Bool := do
  match ← peekSolid with
  | none => failNext .endInObject
  | some b =>
    if b = byte '\x7d' then pure false
    else if first then
      if b = byte '"' then pure true else failNext .keyMustBeString
    else if b = byte ',' then
      skip
      match ← peekSolid with
      | none => failNext .endInValue
      | some b =>
        if b = byte '"' then pure true
        else if b = byte '\x7d' then failNext .trailingComma
        else failNext .keyMustBeString
    else failNext .expectedObjectCommaOrEnd

def colon : Reader Unit := do
  match ← peekSolid with
  | some b => if b = byte ':' then skip else failNext .expectedColon
  | none => failNext .endInObject

/-- The fields of an object after its opening bracket, `seen` having come before. -/
def objectFields (seen : List String) (record : σ) : Nat → Bool → Reader σ
  | 0, _ => failNext .endInObject
  | limit + 1, first => do
    if ← nextKey first then
      skip
      let key ← string
      match shape.fields.lookup key with
      | none =>
        colon
        ignoreValue
        objectFields seen record limit false
      | some field =>
        if seen.contains key then failValue (.mismatch (.duplicateField key))
        else
          colon
          let change ← field
          objectFields (key :: seen) (change record) limit false
    else
      match shape.required.find? (!seen.contains ·) with
      | some missing => failValue (.mismatch (.missingField missing))
      | none => pure record

def nextItem (first : Bool) : Reader Bool := do
  match ← peekSolid with
  | none => failNext .endInList
  | some b =>
    if b = byte ']' then pure false
    else if first then pure true
    else if b = byte ',' then
      skip
      match ← peekSolid with
      | none => failNext .endInValue
      | some b => if b = byte ']' then failNext .trailingComma else pure true
    else failNext .expectedListCommaOrEnd

/-- The fields of a list after its opening bracket. -/
def listFields (record : σ) (index : Nat) (first : Bool) :
    List (String × Reader (σ → σ)) → Reader σ
  | [] => pure record
  | (name, field) :: rest => do
    if ← nextItem first then
      let change ← field
      listFields (change record) (index + 1) false rest
    else if shape.required.contains name then
      failValue (.mismatch (.invalidLength index shape.expectedList))
    else listFields record (index + 1) first rest

def endObject : Reader Unit := do
  match ← peekSolid with
  | none => failNext .endInObject
  | some b =>
    if b = byte '\x7d' then skip
    else if b = byte ',' then failNext .trailingComma
    else failNext .trailingCharacters

def endList : Reader Unit := do
  match ← peekSolid with
  | none => failNext .endInList
  | some b =>
    if b = byte ']' then skip
    else if b = byte ',' then
      skip
      match ← peekSolid with
      | some b => if b = byte ']' then failNext .trailingComma else failNext .trailingCharacters
      | none => failNext .trailingCharacters
    else failNext .trailingCharacters

/-- Reads the closing bracket too, also when something inside was wrong; what was wrong first is
reported. -/
def closing (inside : Reader α) (close : Reader Unit) : Reader α := do
  let outcome ← (observing inside)
  match outcome with
  | .ok value =>
    close
    pure value
  | .error mishap =>
    let _ ← observing close
    throw mishap
where
  observing {β : Type} (reader : Reader β) : Reader (Except Mishap β) :=
    tryCatchThe Mishap (.ok <$> reader) fun mishap => pure (.error mishap)

/-- A whole record. -/
def record : Reader σ := placed do
  let b ← valueStart
  if b = byte '[' then
    skip
    closing (listFields shape shape.start 0 true shape.fields) endList
  else if b = byte '\x7b' then
    skip
    let limit := (← get).rest.length + 1
    closing (objectFields shape [] shape.start limit true) endObject
  else wrongKind shape.expected

end Records

end ModelForge.Json.Reader
