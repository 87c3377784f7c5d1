/-
Flattening settings as they are given from outside.

Whole numbers are compared exactly, so a limit that is a whole number becomes
the largest double not above it: the doubles greater than the one are those
greater than the other. A depth limit that is no whole number is rounded up.
-/
import PlotDigitizer.Bezier.Flatten
import PlotDigitizer.Number.Double

namespace PlotDigitizer

/-- A value as a limit on lengths and ratios. -/
def Limit.ofValue (v : Value Float) : Limit Float :=
  match v, v.whole? with
  | .real x, _ => .ok x
  | _, some n => .ok (Binary64.below n)
  | _, none => .error v.kind

/-- Deeper than any curve of doubles is split. -/
def unboundedDepth : Int := 65536

/-- A value as a limit on depths: a depth is below the limit if it is below
the value. -/
def Limit.depthOfValue (v : Value Float) : Limit Int :=
  match v, v.whole? with
  | .real x, _ => .ok ((Binary64.ceiling? x).getD (if 0 < x then unboundedDepth else 0))
  | _, some n => .ok n
  | _, none => .error v.kind

namespace Flattening

/-- The settings in force where none are given. -/
def default : Flattening Float where
  tolerance := .ok 0.01
  maxDepth := .ok 10
  minDepth := .ok 3
  chordEpsilon := .ok 1e-12

/-- The settings a record gives, the default ones where it has no field. -/
def ofValue (v : Value Float) : Flattening Float where
  tolerance := ((v.field? "tolerance").map Limit.ofValue).getD default.tolerance
  maxDepth := ((v.field? "max_depth").map Limit.depthOfValue).getD default.maxDepth
  minDepth := ((v.field? "min_subdivisions").map Limit.depthOfValue).getD default.minDepth
  chordEpsilon := ((v.field? "chord_epsilon").map Limit.ofValue).getD default.chordEpsilon

end Flattening
end PlotDigitizer
