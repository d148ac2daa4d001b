import Dialogue.Decimal.Binary64

/-! The shortest decimal that lies nearest to a given floating-point number. A decimal stands
for the number when no other floating-point number is nearer to it; the two halfway points
belong to the number exactly when its mantissa is even. -/
namespace Dialogue.Decimal

def digitCount (n : Nat) : Nat := if n = 0 then 0 else (Nat.toDigits 10 n).length

/-- Numerator and denominator of `m * 2 ^ e`. -/
def fraction (m : Nat) (e : Int) : Nat × Nat :=
  if 0 ≤ e then (m * Nat.pow 2 e.toNat, 1) else (m, Nat.pow 2 (-e).toNat)

/-- The place of the decimal point: the `p` with `10 ^ (p - 1) ≤ num / den < 10 ^ p`. -/
def pointPlace (num den : Nat) : Int :=
  if den ≤ num then digitCount (num / den) else 1 - (digitCount ((den - 1) / num) : Int)

/-- The decimals that stand for a number, between `low` and `high` over `den`. -/
structure Interval where
  low : Nat
  value : Nat
  high : Nat
  den : Nat
  closed : Bool

/-- The interval of `m * 2 ^ e`; below a power of two the numbers lie twice as dense. -/
def Interval.of (m : Nat) (e : Int) : Interval :=
  let below := if m == Nat.pow 2 52 && e != -1074 then 1 else 2
  let (_, den) := fraction 1 (e - 2)
  let scale := (fraction 1 (e - 2)).1
  ⟨(4 * m - below) * scale, 4 * m * scale, (4 * m + 2) * scale, den, m % 2 == 0⟩

namespace Interval

/-- `d * 10 ^ k` lies in the interval. -/
def holds (i : Interval) (d : Nat) (k : Int) : Bool :=
  let (up, down) := if 0 ≤ k then (Nat.pow 10 k.toNat, 1) else (1, Nat.pow 10 (-k).toNat)
  let x := d * up * i.den
  let lo := i.low * down
  let hi := i.high * down
  if i.closed then lo ≤ x && x ≤ hi else lo < x && x < hi

/-- The neighbour of the value on the grid of multiples of `10 ^ k` that stands for it and is
nearer to it; of two equally near ones the even. -/
def onGrid (i : Interval) (k : Int) : Option Nat :=
  let (up, down) := if 0 ≤ k then (Nat.pow 10 k.toNat, 1) else (1, Nat.pow 10 (-k).toNat)
  let unit := up * i.den
  let d := i.value * down / unit
  let rest := i.value * down % unit
  let below := i.holds d k
  let above := i.holds (d + 1) k
  if below && above then
    if 2 * rest < unit then some d
    else if unit < 2 * rest then some (d + 1)
    else some (if d % 2 == 0 then d else d + 1)
  else if below then some d
  else if above then some (d + 1)
  else none

end Interval

/-- Digits and exponent of the shortest decimal for `m * 2 ^ e`, where `m` is positive:
the coarsest grid with a neighbour that stands for the value. Seventeen digits always do. -/
def shortest (m : Nat) (e : Int) : Nat × Int :=
  let i := Interval.of m e
  let p := pointPlace i.value i.den
  let grids := (List.range 17).map fun n : Nat => p - (n + 1)
  (grids.findSome? fun k => (i.onGrid k).map (·, k)).getD (i.value, 0)

/-- The same decimal without zeros at its end. -/
def stripZeros : Nat → Nat → Int → Nat × Int
  | 0, d, k => (d, k)
  | fuel + 1, d, k => if d != 0 && d % 10 == 0 then stripZeros fuel (d / 10) (k + 1) else (d, k)

end Dialogue.Decimal
