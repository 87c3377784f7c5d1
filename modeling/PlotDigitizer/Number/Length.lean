/-
The length of a vector of two doubles.

Its components are first multiplied by a power of two, so that the greater one
lies between a half and one. Their squares are summed up with all that rounding
cuts off from the terms, and the square root of the sum is corrected by what
its own square misses. The result is the double nearest to the length, or now
and then the one next to it.

Components below every power of two whose inverse is a double are divided by
the greater one instead, and the root is not corrected.
-/
import PlotDigitizer.Number.Binary64

namespace PlotDigitizer.Binary64

/-- A double as the sum of two doubles with half its bits each. -/
def halves (x : Float) : Float × Float :=
  let t := x * 134217729
  let high := t - (t - x)
  (high, x - high)

/-- What rounding cuts off when `x` is added to a total not less than it. -/
def cutOff (total x : Float) : Float := total - (total + x) + x

/-- A sum of squares on top of one, and what rounding cut off from its terms:
the squares of upper halves, the products of both halves, and the squares of
lower ones. -/
structure SquareSum where
  total : Float := 1
  upper : Float := 0
  mixed : Float := 0
  lower : Float := 0

namespace SquareSum

/-- The sum with the square of `x` added, or taken away if `sign` is -1. -/
def add (s : SquareSum) (sign x : Float) : SquareSum :=
  let (high, low) := halves x
  let a := sign * high * high
  let b := sign * 2 * high * low
  let c := sign * low * low
  let t := s.total + a
  let u := t + b
  { total := u + c
    upper := s.upper + cutOff s.total a
    mixed := s.mixed + cutOff t b
    lower := s.lower + cutOff u c }

def value (s : SquareSum) : Float := s.total - 1 + (s.upper + s.mixed + s.lower)

end SquareSum

/-- The least exponent of a power of two above a positive double. -/
def exponentAbove (x : Float) : Int :=
  match parts x with
  | .finite _ m e => m.log2 + 1 + e
  | _ => 0

/-- The length of a vector with components that are not negative, of which
`greatest` is positive and the greatest. -/
def lengthOf (x y greatest : Float) : Float :=
  let e := exponentAbove greatest
  if e < -1023 then
    let p := x / greatest * (x / greatest)
    let q := y / greatest * (y / greatest)
    let total := 1 + p
    greatest * (total + q - 1 + (cutOff 1 p + cutOff total q)).sqrt
  else
    let scale := nearest 1 (-e)
    let s := (({} : SquareSum).add 1 (x * scale)).add 1 (y * scale)
    let root := s.value.sqrt
    (root + (s.add (-1) root).value / (2 * root)) / scale

/-- The length of the vector `(x, y)`. An infinite component makes it infinite,
whatever the other one is. -/
def hypot (x y : Float) : Float :=
  match parts x, parts y with
  | .infinite _, _ | _, .infinite _ => infinity
  | .undefined, _ | _, .undefined => nan
  | _, _ =>
    let a := x.abs
    let b := y.abs
    let greatest := if a < b then b else a
    if greatest == 0 then 0 else lengthOf a b greatest

end PlotDigitizer.Binary64
