import ModelForge.Decimal.Shortest

/-! The ways in which a floating point number is written: in full, or with an exponent when the
number is very large or very small. -/
namespace ModelForge.Decimal

/-- Digits with a decimal point before the one at `point`, zeros filled in on either side. -/
def positional (digits : List Char) (point : Int) : List Char × List Char :=
  if point ≤ 0 then (['0'], List.replicate (-point).toNat '0' ++ digits)
  else
    let whole := digits.take point.toNat
    (whole ++ List.replicate (point.toNat - whole.length) '0', digits.drop point.toNat)

/-- Sign and magnitude of a double; `none` for what is no number. -/
def parts? (tie : Tie) (x : Float) : Option (Bool × Scaled) :=
  let bits := x.toBits.toNat
  (Binary.ofBits? bits).map fun b => (Nat.pow 2 63 ≤ bits, b.shortest tie)

/-- Every digit, and a point only before a fraction. -/
def plain (x : Float) : String :=
  match parts? .up x with
  | none => if x.isNaN then "NaN" else if x < 0 then "-inf" else "inf"
  | some (negative, scaled) =>
    let (digits, exponent) := scaled.leading
    let (whole, fraction) := positional digits (exponent + 1)
    let sign := if negative then ['-'] else []
    String.ofList (sign ++ whole ++ if fraction.isEmpty then [] else '.' :: fraction)

/-- When a number is written with an exponent, and what the exponent looks like. -/
structure Notation where
  tie : Tie
  /-- The least exponent of a number that is written in full. -/
  least : Int
  /-- The greatest exponent of a number that is written in full. -/
  greatest : Int
  exponentDigits : Nat
  /-- Whether an exponent that is not negative has a sign. -/
  showsPlus : Bool

/-- In full, with `.0` behind a whole number, or one digit, a fraction and an exponent. -/
def written (form : Notation) (x : Float) : String :=
  match parts? form.tie x with
  | none => plain x
  | some (negative, scaled) =>
    let (digits, exponent) := scaled.leading
    let sign := if negative then ['-'] else []
    if form.least ≤ exponent ∧ exponent ≤ form.greatest then
      let (whole, fraction) := positional digits (exponent + 1)
      String.ofList (sign ++ whole ++ '.' :: if fraction.isEmpty then ['0'] else fraction)
    else
      let fraction := if digits.length ≤ 1 then [] else '.' :: digits.drop 1
      let power := (toString exponent.natAbs).toList
      let power := List.replicate (form.exponentDigits - power.length) '0' ++ power
      let powerSign := if exponent < 0 then ['-'] else if form.showsPlus then ['+'] else []
      String.ofList (sign ++ digits.take 1 ++ fraction ++ 'e' :: powerSign ++ power)

/-- In full from `10^-5` to below `10^16`; an exponent has a sign and at least two digits. What is
no number is null. -/
def compact (x : Float) : String :=
  if x.isFinite then written ⟨.even, -5, 15, 2, true⟩ x else "null"

/-- In full from `10^-4` to below `10^16`; an exponent is as short as it can be. -/
def spelled (x : Float) : String := written ⟨.up, -4, 15, 1, false⟩ x

end ModelForge.Decimal
