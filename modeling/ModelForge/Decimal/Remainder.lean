import ModelForge.Decimal.Shortest

/-! What is left of a double after it has been divided by another one. Both are integers in units
of the smaller of their two last places, so the remainder is exact. -/
namespace ModelForge.Decimal

/-- The remainder of two magnitudes. -/
def Binary.remainder (a b : Binary) : Nat × Int :=
  let unit := min a.exponent b.exponent
  let units (x : Binary) : Nat := x.mantissa * Nat.pow 2 (x.exponent - unit).toNat
  (units a % units b, unit)

/-- Whether the sign of a double is set, also that of a zero. -/
def isNegative (x : Float) : Bool := Nat.pow 2 63 ≤ x.toBits.toNat

/-- The remainder has the sign of the dividend; there is none for a divisor of zero. -/
def remainder (x y : Float) : Float :=
  match Binary.ofBits? x.toBits.toNat, Binary.ofBits? y.toBits.toNat with
  | some a, some b =>
    if b.mantissa = 0 then 0 / 0
    else
      let (units, exponent) := a.remainder b
      let magnitude := (Float.ofNat units).scaleB exponent
      if isNegative x then -magnitude else magnitude
  | some _, none => if y.isNaN then y else x
  | none, _ => 0 / 0

end ModelForge.Decimal
