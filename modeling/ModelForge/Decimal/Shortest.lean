/-! The shortest decimal that reads back as a given binary fraction. A double is `m · 2^q`; the
reals that round to it form an interval whose ends count when `m` is even. The first decimal grid
with a point in the interval fixes the number of digits, and of two such points the nearer one
wins; when neither is nearer, printers differ. All of it is exact arithmetic on natural
numbers. -/
namespace ModelForge.Decimal

/-- The value `digits · 10^exponent`. -/
structure Scaled where
  digits : Nat
  exponent : Int
deriving DecidableEq, Repr

/-- A magnitude `m · 2^q`, with the distance down to its neighbour halved when `m` is the least
mantissa of its binade. -/
structure Binary where
  mantissa : Nat
  exponent : Int
  isBinadeStart : Bool

/-- The finite magnitude that a double's bits encode. -/
def Binary.ofBits? (bits : Nat) : Option Binary :=
  let biased : Nat := bits / Nat.pow 2 52 % 2048
  let fraction : Nat := bits % Nat.pow 2 52
  if biased = 2047 then none
  else if biased = 0 then some ⟨fraction, -1074, false⟩
  else some ⟨Nat.pow 2 52 + fraction, (biased : Int) - 1075, fraction = 0 ∧ 1 < biased⟩

/-- A positive rational number. -/
structure Ratio where
  num : Nat
  den : Nat

def Ratio.le (a b : Ratio) : Bool := a.num * b.den ≤ b.num * a.den

/-- `n · base^e` as a fraction. -/
def Ratio.scaled (n base : Nat) (e : Int) : Ratio :=
  if 0 ≤ e then ⟨n * base.pow e.toNat, 1⟩ else ⟨n, base.pow (-e).toNat⟩

/-- How often a power of ten goes into a fraction. -/
def Ratio.floorAt (value : Ratio) (power : Int) : Nat :=
  if 0 ≤ power then value.num / (value.den * Nat.pow 10 power.toNat)
  else value.num * Nat.pow 10 (-power).toNat / value.den

/-- The exponent of the leading decimal digit. -/
def Ratio.magnitude (value : Ratio) : Int :=
  if value.den ≤ value.num then ((toString (value.num / value.den)).length : Int) - 1
  else
    let inverse := value.den / value.num
    let guess : Int := -((toString inverse).length : Int)
    if (Ratio.scaled 1 10 (guess + 1)).le value then guess + 1 else guess

/-- The reals that round to a magnitude. -/
structure Interval where
  low : Ratio
  value : Ratio
  high : Ratio
  closed : Bool

def Binary.interval (b : Binary) : Interval :=
  let at' (quarters : Nat) := Ratio.scaled quarters 2 (b.exponent - 2)
  ⟨at' (4 * b.mantissa - if b.isBinadeStart then 1 else 2), at' (4 * b.mantissa),
    at' (4 * b.mantissa + 2), b.mantissa % 2 = 0⟩

def Interval.holds (interval : Interval) (x : Ratio) : Bool :=
  if interval.closed then interval.low.le x && x.le interval.high
  else !x.le interval.low && !interval.high.le x

/-- Which of two points wins that lie equally near: the upper one, or the one that is even. -/
inductive Tie where
  | up
  | even
deriving DecidableEq, Repr

/-- The point of a decimal grid nearest to the value, if one lies in the interval. -/
def Interval.onGrid? (interval : Interval) (tie : Tie) (power : Int) : Option Scaled :=
  let below := interval.value.floorAt power
  let point (n : Nat) := Ratio.scaled n 10 power
  let lowFits := below ≠ 0 ∧ interval.holds (point below)
  let highFits := interval.holds (point (below + 1))
  let middle := Ratio.scaled (10 * below + 5) 10 (power - 1)
  let lowWins := !middle.le interval.value
    || (interval.value.le middle && tie == .even && below % 2 == 0)
  if lowFits ∧ (¬ highFits ∨ lowWins) then some ⟨below, power⟩
  else if highFits then some ⟨below + 1, power⟩
  else none

/-- Tries ever finer grids. -/
def Interval.search (interval : Interval) (tie : Tie) (power : Int) : Nat → Scaled
  | 0 => ⟨interval.value.floorAt power, power⟩
  | grids + 1 =>
    match interval.onGrid? tie power with
    | some found => found
    | none => interval.search tie (power - 1) grids

/-- The shortest decimal of a magnitude. -/
def Binary.shortest (b : Binary) (tie : Tie) : Scaled :=
  if b.mantissa = 0 then ⟨0, 0⟩
  else b.interval.search tie b.interval.value.magnitude 17

/-- The digits without the zeros at their end, and the exponent of the first digit. -/
def Scaled.leading (s : Scaled) : List Char × Int :=
  let all := (toString s.digits).toList
  let kept := (all.reverse.dropWhile (· = '0')).reverse
  if kept.isEmpty then (['0'], 0) else (kept, s.exponent + all.length - 1)

end ModelForge.Decimal
