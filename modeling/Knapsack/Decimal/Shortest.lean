/-!
The shortest decimal that reads back as a given double. A double is `m · 2^q`; the reals nearer to it
than to its neighbours form an interval, ends included exactly when `m` is even. For one digit, two
digits, and so on, the two points of the decimal grid next to the value are tried, and the first
grid with a point in the interval gives the digits. All comparisons are between natural numbers:
values are counted in units of `2^-1076`, of which every double and every end of an interval is a
whole number.
-/

namespace Knapsack.Decimal

/-- The number `digits · 10^exponent`. -/
structure Point where
  digits : Nat
  exponent : Int
deriving DecidableEq, Repr

/-- A value and the ends of its interval, in units of `2^-1076`. -/
structure Interval where
  value : Nat
  low : Nat
  high : Nat
  closed : Bool
deriving DecidableEq, Repr

def unit : Nat := Nat.pow 2 1076

/-- The interval of the finite double with these bits, its sign left aside. -/
def Interval.ofBits (bits : UInt64) : Interval :=
  let fraction := bits.toNat % Nat.pow 2 52
  let field := bits.toNat / Nat.pow 2 52 % Nat.pow 2 11
  let m := if field = 0 then fraction else fraction + Nat.pow 2 52
  -- `m · 2^q` with `q = shift - 1074`, and four units make one step of the quarter grid
  let shift := if field = 0 then 0 else field - 1
  let below := if fraction = 0 ∧ 1 < field then 1 else 2
  let step := Nat.pow 2 shift
  ⟨4 * m * step, (4 * m - below) * step, (4 * m + 2) * step, m % 2 = 0⟩

/-- Twice a side: the two numbers to compare when `units` is measured against `point`. -/
def sides (units : Nat) (point : Point) : Nat × Nat :=
  if point.exponent < 0 then
    (units * Nat.pow 10 (-point.exponent).toNat, point.digits * unit)
  else
    (units, point.digits * Nat.pow 10 point.exponent.toNat * unit)

def Interval.holds (interval : Interval) (point : Point) : Bool :=
  let (low, p) := sides interval.low point
  let (high, _) := sides interval.high point
  if interval.closed then low ≤ p && p ≤ high else low < p && p < high

/-- How far a point is from the value; comparable between points of one exponent. -/
def Interval.distance (interval : Interval) (point : Point) : Nat :=
  let (v, p) := sides interval.value point
  (v - p) + (p - v)

/-- The exponent of the first digit of a positive value. -/
def Interval.magnitude (interval : Interval) : Int :=
  (Nat.toDigits 10 (interval.value * Nat.pow 10 400 / unit)).length - 401

/-- The nearer of the grid points next to the value that lie in the interval; of two equally near
ones the even one. -/
def Interval.onGrid? (interval : Interval) (exponent : Int) : Option Point :=
  let (v, step) := sides interval.value ⟨1, exponent⟩
  let lower : Point := ⟨v / step, exponent⟩
  let upper : Point := ⟨v / step + 1, exponent⟩
  match interval.holds lower, interval.holds upper with
  | true, true =>
    let below := interval.distance lower
    let above := interval.distance upper
    some (if above < below ∨ (above = below ∧ upper.digits % 2 = 0) then upper else lower)
  | true, false => some lower
  | false, true => some upper
  | false, false => none

/-- The point of the coarsest grid that has one in the interval. Seventeen digits always suffice. -/
def Interval.shortest (interval : Interval) : Point :=
  let grids := (List.range 17).map fun (n : Nat) => interval.magnitude - n
  (grids.findSome? interval.onGrid?).getD ⟨interval.value / unit, 0⟩

end Knapsack.Decimal
