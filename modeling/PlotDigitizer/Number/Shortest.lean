/-
The fewest decimal digits that read back as a given double.

The numbers that round to the double `m * 2^e` fill an interval around it,
with its end points exactly if `m` is even. On the decimal grid of `n`
significant digits only the two neighbours of the double can be the point of
the interval nearest to it; `shortest` takes the first grid, counted from one
digit on, with a neighbour in the interval, and on it the nearer neighbour, an
exact tie going to the even last digit. All comparisons are between natural
numbers.
-/
import PlotDigitizer.Number.Binary64

namespace PlotDigitizer

/-- The decimal number `digits * 10^exponent`. -/
structure Decimal where
  digits : Nat
  exponent : Int
deriving Repr, DecidableEq

namespace Decimal

/-- The same number without zeros at the end of its digits. The first
argument bounds their count. -/
def trim : Nat → Decimal → Decimal
  | 0, d => d
  | room + 1, d =>
    if d.digits % 10 = 0 ∧ d.digits ≠ 0 then trim room ⟨d.digits / 10, d.exponent + 1⟩ else d

/-- The numbers that round to one double, as fractions over `unit`: from
`low` to `high`, the double itself being `value`. -/
structure Interval where
  low : Nat
  value : Nat
  high : Nat
  closed : Bool
  unit : Nat

/-- The interval of the double `m * 2^e`, for `m` positive. Below the smallest
mantissa of a binade the neighbour is only half as far away. -/
def Interval.of (m : Nat) (e : Int) : Interval :=
  let up := (e - 2).toNat
  let gap := if m = Nat.pow 2 52 ∧ -1074 < e then 1 else 2
  { low := (4 * m - gap) <<< up
    value := (4 * m) <<< up
    high := (4 * m + 2) <<< up
    closed := m % 2 = 0
    unit := 1 <<< (2 - e).toNat }

/-- Whether `n * 10^k` lies in the interval. -/
def Interval.contains (i : Interval) (n : Nat) (k : Int) : Bool :=
  let point := n * Nat.pow 10 k.toNat * i.unit
  let shrink := Nat.pow 10 (-k).toNat
  if i.closed then i.low * shrink ≤ point && point ≤ i.high * shrink
  else i.low * shrink < point && point < i.high * shrink

/-- How many tenfold steps bring `num / den` to one or above, if at most
`room` do. -/
def stepsToOne (num den : Nat) : Nat → Nat
  | 0 => 0
  | room + 1 => if den ≤ num then 0 else stepsToOne (num * 10) den room + 1

/-- The power of ten at the first digit of `num / den`, which is positive. -/
def leading (num den : Nat) : Int :=
  if den ≤ num then ((Nat.toDigits 10 (num / den)).length : Int) - 1
  else -(stepsToOne num den (den.log2 + 1) : Int)

/-- The neighbour of the interval's value on the grid `10^k` that the interval
holds and that is nearest to the value. -/
def Interval.onGrid? (i : Interval) (k : Int) : Option Decimal :=
  let num := i.value * Nat.pow 10 (-k).toNat
  let den := i.unit * Nat.pow 10 k.toNat
  let floor := num / den
  let rest := 2 * (num - floor * den)
  let upper := den < rest || (rest == den && floor % 2 == 1)
  match i.contains floor k, i.contains (floor + 1) k with
  | true, true => some ⟨if upper then floor + 1 else floor, k⟩
  | true, false => some ⟨floor, k⟩
  | false, true => some ⟨floor + 1, k⟩
  | false, false => none

/-- The first grid that has a point in the interval, from exponent `k` down. -/
def Interval.search (i : Interval) : Nat → Int → Option Decimal
  | 0, _ => none
  | room + 1, k =>
    match i.onGrid? k with
    | some d => some d
    | none => i.search room (k - 1)

/-- The shortest decimal that reads back as `m * 2^e`. Seventeen digits always
do. -/
def shortest (m : Nat) (e : Int) : Decimal :=
  if m = 0 then ⟨0, 0⟩
  else
    let i := Interval.of m e
    match i.search 17 (leading i.value i.unit) with
    | some d => d.trim 20
    | none => ⟨0, 0⟩

end Decimal
end PlotDigitizer
