import ModelForge.Decimal.Printer
import ModelForge.Document.Mismatch

/-! What a scalar without quotes means: nothing, a truth value, a number, or its text. -/
namespace ModelForge.Yaml.Plain

def isNull (s : String) : Bool := ["null", "Null", "NULL", "~"].contains s

def truth? (s : String) : Option Bool :=
  if ["true", "True", "TRUE"].contains s then some true
  else if ["false", "False", "FALSE"].contains s then some false
  else none

/-- The value of a digit in a base of at most sixteen. -/
def digit? (base : Nat) (c : Char) : Option Nat :=
  let value :=
    if c.isDigit then c.toNat - '0'.toNat
    else if 'a' ≤ c ∧ c ≤ 'f' then c.toNat - 'a'.toNat + 10
    else if 'A' ≤ c ∧ c ≤ 'F' then c.toNat - 'A'.toNat + 10
    else base
  if value < base then some value else none

/-- At least one digit and nothing else. -/
def natural? (base : Nat) (s : List Char) : Option Nat :=
  if s.isEmpty then none
  else (s.mapM (digit? base)).map (·.foldl (fun n d => base * n + d) 0)

/-- Bases are marked as in `0x1F`, `0o17` and `0b11`. -/
def based? (s : List Char) : Option Nat :=
  match s with
  | '0' :: 'x' :: digits => natural? 16 digits
  | '0' :: 'o' :: digits => natural? 8 digits
  | '0' :: 'b' :: digits => natural? 2 digits
  | _ => none

def withoutSign : List Char → List Char
  | '-' :: rest => rest
  | '+' :: rest => rest
  | s => s

/-- Digits behind a zero are a text and no number. -/
def isZeroPadded (s : List Char) : Bool :=
  match withoutSign s with
  | '0' :: c :: rest => (c :: rest).all Char.isDigit
  | _ => false

def integer? (s : List Char) : Option Int :=
  match s with
  | '-' :: rest =>
    match based? rest with
    | some n => some (-n)
    | none => if isZeroPadded s then none else (natural? 10 rest).map fun n => -(n : Int)
  | _ =>
    let rest := match s with
      | '+' :: rest => rest
      | _ => s
    match based? rest with
    | some n => some n
    | none => if isZeroPadded s then none else (natural? 10 rest).map Int.ofNat

/-- The magnitude `digits · 10^exponent` of a decimal number. -/
structure Magnitude where
  digits : Nat
  exponent : Int

def exponent? (s : List Char) : Option Int :=
  match s with
  | [] => some 0
  | e :: rest =>
    if e = 'e' ∨ e = 'E' then
      match rest with
      | '-' :: digits => (natural? 10 digits).map fun n => -(n : Int)
      | '+' :: digits => (natural? 10 digits).map Int.ofNat
      | digits => (natural? 10 digits).map Int.ofNat
    else none

/-- Digits with an optional point among them and an optional exponent. -/
def magnitude? (s : List Char) : Option Magnitude :=
  let whole := s.takeWhile Char.isDigit
  let rest := s.dropWhile Char.isDigit
  let (fraction, rest) := match rest with
    | '.' :: more => (more.takeWhile Char.isDigit, more.dropWhile Char.isDigit)
    | _ => ([], rest)
  match natural? 10 (whole ++ fraction), exponent? rest with
  | some digits, some exponent => some ⟨digits, exponent - fraction.length⟩
  | _, _ => none

/-- Whether a magnitude is so small that it rounds to zero. -/
def Magnitude.vanishes (m : Magnitude) : Bool :=
  m.digits = 0 ∨ m.exponent + (toString m.digits).length < -330

/-- Whether a magnitude rounds to a double. What reaches the middle between the greatest double and
the next power of two does not. -/
def Magnitude.isFinite (m : Magnitude) : Bool :=
  if m.vanishes then true
  else if 310 < m.exponent + (toString m.digits).length then false
  else
    let limit := Nat.pow 2 1024 - Nat.pow 2 970
    if 0 ≤ m.exponent then m.digits * Nat.pow 10 m.exponent.toNat < limit
    else m.digits < limit * Nat.pow 10 (-m.exponent).toNat

def Magnitude.toFloat (m : Magnitude) : Float :=
  if m.vanishes then 0
  else Float.ofScientific m.digits (m.exponent < 0) m.exponent.natAbs

/-- A number with a fraction always shows its point. -/
def decimalText (x : Float) : String :=
  let text := Decimal.plain x
  if x.isFinite ∧ ¬ text.toList.contains '.' then text ++ ".0" else text

/-- The digits of a decimal number, as they are shown. -/
def decimal? (s : List Char) : Option String :=
  let unsigned := match s with
    | '+' :: rest => rest
    | _ => s
  let text := String.ofList s
  if [".inf", ".Inf", ".INF"].contains (String.ofList unsigned) then some "inf"
  else if ["-.inf", "-.Inf", "-.INF"].contains text then some "-inf"
  else if [".nan", ".NaN", ".NAN"].contains text then some "NaN"
  else
    match magnitude? (withoutSign s) with
    | none => none
    | some m =>
      if m.isFinite then
        some (decimalText (if s.head? = some '-' then -m.toFloat else m.toFloat))
      else none

/-- Whether an integer has at most 64 bits. -/
def isNarrow (n : Int) : Bool := -Int.pow 2 63 ≤ n && n < Int.pow 2 64

/-- Whether an integer has at most 128 bits. -/
def isWide (n : Int) : Bool := -Int.pow 2 127 ≤ n && n < Int.pow 2 128

/-- An integer of a text, if it has at most 128 bits. -/
def integerOf? (s : String) : Option Found :=
  match integer? s.toList with
  | some n =>
    if isNarrow n then some (.integer n) else if isWide n then some (.wideInteger n) else none
  | none => none

/-- What a scalar without quotes is. -/
def found (s : String) : Found :=
  if s.isEmpty ∨ isNull s then .nothing
  else
    match truth? s, integerOf? s with
    | some b, _ => .truth b
    | none, some integer => integer
    | none, none =>
      match if isZeroPadded s.toList then none else decimal? s.toList with
      | some digits => .decimal digits
      | none => .text s

end ModelForge.Yaml.Plain
