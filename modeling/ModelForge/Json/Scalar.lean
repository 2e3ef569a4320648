import ModelForge.Decimal.Printer
import ModelForge.Json.Reader

/-! Strings and numbers in a JSON document. -/
namespace ModelForge.Json.Reader

/-- The value of a hexadecimal digit. -/
def hexValue? (b : UInt8) : Option Nat :=
  if isDigit b then some (digit b)
  else if byte 'a' ≤ b ∧ b ≤ byte 'f' then some ((b - byte 'a').toNat + 10)
  else if byte 'A' ≤ b ∧ b ≤ byte 'F' then some ((b - byte 'A').toNat + 10)
  else none

/-- Four hexadecimal digits. -/
def hexUnit : Reader Nat := do
  let cursor ← get
  match cursor.rest with
  | a :: b :: c :: d :: rest =>
    set (⟨cursor.taken + 4, rest⟩ : Cursor)
    match hexValue? a, hexValue? b, hexValue? c, hexValue? d with
    | some a, some b, some c, some d => pure (((a * 16 + b) * 16 + c) * 16 + d)
    | _, _, _, _ => failTaken .invalidEscape
  | rest =>
    set (⟨cursor.taken + rest.length, []⟩ : Cursor)
    failTaken .endInString

def nextInString : Reader UInt8 := do
  match ← next with
  | some b => pure b
  | none => failTaken .endInString

/-- One byte that has to come next inside the escape of a surrogate pair. -/
def pairByte (expected : Char) : Reader Unit := do
  match ← peek with
  | none => failTaken .endInString
  | some b =>
    skip
    if b = byte expected then pure () else failTaken .endOfEscape

/-- The character behind a `\u`. Two surrogates make one character. -/
def escapedCharacter : Reader Char := do
  let first ← hexUnit
  if 0xdc00 ≤ first ∧ first ≤ 0xdfff then failTaken .loneSurrogate
  else if first < 0xd800 ∨ 0xdbff < first then pure (Char.ofNat first)
  else
    pairByte '\\'
    pairByte 'u'
    let second ← hexUnit
    if second < 0xdc00 ∨ 0xdfff < second then failTaken .loneSurrogate
    else pure (Char.ofNat ((first - 0xd800) * 0x400 + (second - 0xdc00) + 0x10000))

def bytesOf (c : Char) : List UInt8 := (String.singleton c).toUTF8.data.toList

/-- The bytes that an escape stands for. -/
def escaped : Reader (List UInt8) := do
  let b ← nextInString
  if b = byte '"' ∨ b = byte '\\' ∨ b = byte '/' then pure [b]
  else if b = byte 'b' then pure [8]
  else if b = byte 'f' then pure [12]
  else if b = byte 'n' then pure [10]
  else if b = byte 'r' then pure [13]
  else if b = byte 't' then pure [9]
  else if b = byte 'u' then bytesOf <$> escapedCharacter
  else failTaken .invalidEscape

def isPlain (b : UInt8) : Bool := b != byte '"' && b != byte '\\' && 0x20 ≤ b

/-- The bytes of a string after its opening quote. -/
def stringBytes : Nat → Reader (List UInt8)
  | 0 => failTaken .endInString
  | limit + 1 => do
    let plain ← takeWhile isPlain
    match ← peek with
    | none => failTaken .endInString
    | some b =>
      skip
      if b = byte '"' then pure plain
      else if b = byte '\\' then
        let inside ← escaped
        pure (plain ++ inside ++ (← stringBytes limit))
      else failTaken .controlCharacter

/-- A string after its opening quote. Bytes that are no text are a problem in front of the closing
quote. -/
def string : Reader String := do
  let bytes ← stringBytes ((← get).rest.length + 1)
  match String.fromUTF8? ⟨bytes.toArray⟩ with
  | some s => pure s
  | none => throw ⟨.invalidCodePoint, some ((← get).taken - 1)⟩

/-- Passes over a string after its opening quote. -/
def skipString : Nat → Reader Unit
  | 0 => failTaken .endInString
  | limit + 1 => do
    let _ ← takeWhile isPlain
    match ← peek with
    | none => failTaken .endInString
    | some b =>
      if b = byte '"' then skip
      else if b = byte '\\' then
        skip
        let b ← nextInString
        if b = byte 'u' then
          let _ ← hexUnit
        else if !("\"\\/bfnrt".toList.map byte).contains b then failTaken .invalidEscape
        skipString limit
      else failTaken .controlCharacter

inductive Number where
  | integer (n : Int)
  | decimal (x : Float)

def Number.found : Number → Found
  | integer n => .integer n
  | decimal x => .decimal (Decimal.compact x)

/-- The greatest significand that is kept exactly; further digits only count as places. -/
def greatestSignificand : Nat := Nat.pow 2 64 - 1

/-- `significand · 10^exponent` in binary steps of at most `10^308`. -/
def scale : Nat → Float → Int → Option Float
  | 0, x, _ => some x
  | steps + 1, x, exponent =>
    if exponent.natAbs ≤ 308 then
      let power := Float.ofScientific 1 false exponent.natAbs
      if 0 ≤ exponent then
        let x := x * power
        if x.isInf then none else some x
      else some (x / power)
    else if x == 0 then some x
    else if 0 ≤ exponent then none
    else scale steps (x / Float.ofScientific 1 false 308) (exponent + 308)

def decimalOf (positive : Bool) (significand : Nat) (exponent : Int) : Reader Number := do
  match scale (exponent.natAbs + 1) (Float.ofNat significand) exponent with
  | some x => pure (.decimal (if positive then x else -x))
  | none => failTaken .numberOutOfRange

/-- Adds digits to a significand while it stays exact; gives it with the number of digits added
and whether digits were left out. -/
def addDigits (significand count : Nat) : List UInt8 → Nat × Nat × Nat
  | [] => (significand, count, 0)
  | b :: rest =>
    let more := significand * 10 + digit b
    if greatestSignificand < more then (significand, count, rest.length + 1)
    else addDigits more (count + 1) rest

def greatestExponent : Nat := Nat.pow 2 31 - 1

/-- Whether an exponent is positive, its sign being optional. -/
def exponentSign : Reader Bool := do
  let sign ← peek
  if sign = some (byte '+') then
    skip
    pure true
  else if sign = some (byte '-') then
    skip
    pure false
  else pure true

/-- An exponent, or the number of digits behind the one that makes it too great. -/
def exponentOf (n : Nat) : List UInt8 → Nat ⊕ Nat
  | [] => .inl n
  | b :: rest =>
    let more := n * 10 + digit b
    if greatestExponent < more then .inr rest.length else exponentOf more rest

/-- The exponent of a number, from its `e` on. Too great an exponent leaves zero as it is and makes
anything else vanish or overflow. -/
def exponentPart (positive : Bool) (significand : Nat) (start : Int) : Reader Number := do
  skip
  let positiveExponent ← exponentSign
  match ← next with
  | none => failTaken .endInValue
  | some first =>
    if !isDigit first then failTaken .invalidNumber
    else
      let more ← takeWhile isDigit
      match exponentOf (digit first) more with
      | .inl exponent =>
        decimalOf positive significand
          (if positiveExponent then start + exponent else start - exponent)
      | .inr surplus =>
        if significand ≠ 0 ∧ positiveExponent then
          throw ⟨.numberOutOfRange, some ((← get).taken - surplus)⟩
        else pure (.decimal (if positive then 0 else -0.0))

def startsExponent (b : Option UInt8) : Bool := b == some (byte 'e') || b == some (byte 'E')

/-- The fraction of a number, from its point on. -/
def fractionPart (positive : Bool) (significand : Nat) (start : Int) : Reader Number := do
  skip
  let digits ← takeWhile isDigit
  if digits.isEmpty then
    match ← peek with
    | some _ => failNext .invalidNumber
    | none => failNext .endInValue
  else
    let (significand, count, _) := addDigits significand 0 digits
    let exponent := start - count
    if startsExponent (← peek) then exponentPart positive significand exponent
    else decimalOf positive significand exponent

/-- A number after its sign. Integers keep 64 bits; a negative zero is a decimal. -/
def number (positive : Bool) : Reader Number := do
  match ← next with
  | none => failTaken .endInValue
  | some first =>
    if !isDigit first then failTaken .invalidNumber
    else
      let more ← if first = byte '0' then pure [] else takeWhile isDigit
      match ← peek with
      | some b => if first = byte '0' ∧ isDigit b then failNext .invalidNumber
      | none => pure ()
      let (significand, _, dropped) := addDigits (digit first) 0 more
      let following ← peek
      if following = some (byte '.') then fractionPart positive significand dropped
      else if startsExponent following then exponentPart positive significand dropped
      else if dropped ≠ 0 then decimalOf positive significand dropped
      else if positive then pure (.integer significand)
      else if significand = 0 ∨ Nat.pow 2 63 < significand then
        pure (.decimal (-(Float.ofNat significand)))
      else pure (.integer (-significand))

/-- Passes over the digits and exponent of a number whose value does not matter. -/
def skipExponent : Reader Unit := do
  skip
  match ← peek with
  | some b => if b = byte '+' ∨ b = byte '-' then skip
  | none => pure ()
  match ← next with
  | some b => if isDigit b then let _ ← takeWhile isDigit else failTaken .invalidNumber
  | none => failTaken .invalidNumber

def skipNumber : Reader Unit := do
  match ← next with
  | none => failTaken .invalidNumber
  | some first =>
    if !isDigit first then failTaken .invalidNumber
    else
      if first = byte '0' then
        match ← peek with
        | some b => if isDigit b then failNext .invalidNumber
        | none => pure ()
      else
        let _ ← takeWhile isDigit
      let following ← peek
      if following = some (byte '.') then
        skip
        let digits ← takeWhile isDigit
        if digits.isEmpty then failNext .invalidNumber
        else if startsExponent (← peek) then skipExponent
      else if startsExponent following then skipExponent

end ModelForge.Json.Reader
