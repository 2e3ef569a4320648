import ModelForge.Json.Problem

/-! Reading the bytes of a JSON document. A problem found while reading has a place at once: that
of the last byte taken, or of the byte looked at next. A problem with a value that was read well
has none, and is given the place that the reader has reached when the value is finished. -/
namespace ModelForge.Json

/-- The number of bytes taken, and the bytes left. -/
structure Cursor where
  taken : Nat
  rest : List UInt8

/-- A problem with the number of bytes up to its place. -/
structure Mishap where
  problem : Problem
  place : Option Nat

/-- A mishap leaves the cursor where it arose. -/
abbrev Reader := ExceptT Mishap (StateM Cursor)

namespace Reader

def byte (c : Char) : UInt8 := c.toNat.toUInt8

def isDigit (b : UInt8) : Bool := byte '0' ≤ b && b ≤ byte '9'

def digit (b : UInt8) : Nat := (b - byte '0').toNat

/-- A problem with what has been taken. -/
def failTaken (problem : Problem) : Reader α := do
  throw ⟨problem, some (← get).taken⟩

/-- A problem with the next byte, or with the end. -/
def failNext (problem : Problem) : Reader α := do
  let cursor ← get
  throw ⟨problem, some (if cursor.rest.isEmpty then cursor.taken else cursor.taken + 1)⟩

/-- A problem with a value, to be placed later. -/
def failValue (problem : Problem) : Reader α := throw ⟨problem, none⟩

/-- Gives a problem without a place the one that has been reached. -/
def placed (reader : Reader α) : Reader α :=
  tryCatchThe Mishap reader fun mishap =>
    match mishap.place with
    | some _ => throw mishap
    | none => failTaken mishap.problem

def peek : Reader (Option UInt8) := do pure (← get).rest.head?

def skip : Reader Unit :=
  modify fun cursor =>
    match cursor.rest with
    | [] => cursor
    | _ :: rest => ⟨cursor.taken + 1, rest⟩

def next : Reader (Option UInt8) := do
  let found ← peek
  skip
  pure found

/-- Takes bytes while they are of a kind. -/
def takeWhile (kind : UInt8 → Bool) : Reader (List UInt8) := do
  let cursor ← get
  let found := cursor.rest.takeWhile kind
  set (⟨cursor.taken + found.length, cursor.rest.dropWhile kind⟩ : Cursor)
  pure found

def isSpace (b : UInt8) : Bool :=
  b == byte ' ' || b == byte '\n' || b == byte '\t' || b == byte '\r'

/-- The next byte that is no blank. -/
def peekSolid : Reader (Option UInt8) := do
  let _ ← takeWhile isSpace
  peek

/-- The rest of a word. -/
def word : List Char → Reader Unit
  | [] => pure ()
  | c :: rest => do
    match ← next with
    | none => failTaken .endInValue
    | some b => if b = byte c then word rest else failTaken .expectedWord

end Reader

/-- The place after a number of bytes: a line, counted from one, and a column in it. -/
def placeOf (input : List UInt8) (count : Nat) : Nat × Nat :=
  let before := input.take count
  let line := before.countP (· = Reader.byte '\n')
  let column := (before.reverse.takeWhile (· ≠ Reader.byte '\n')).length
  (line + 1, column)

/-- Reads a whole document. -/
def readDocument (value : Reader α) (input : List UInt8) : Except Error α :=
  let reader : Reader α := do
    let value ← Reader.placed value
    match ← Reader.peekSolid with
    | some _ => Reader.failNext .trailingCharacters
    | none => pure value
  match (reader.run.run ⟨0, input⟩).1 with
  | .ok value => .ok value
  | .error mishap =>
    let (line, column) := placeOf input (mishap.place.getD input.length)
    .error ⟨mishap.problem, line, column⟩

end ModelForge.Json
