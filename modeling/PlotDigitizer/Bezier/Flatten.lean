/-
Flattening a cubic into a polyline.

A piece of the curve is split at its middle parameter as long as the curve
point there deviates from the chord by more than a tolerance, relative to the
chord. Every curve is split a number of times before that question is asked:
the middle of an S-shaped curve lies on its chord. Beyond that floor neither a
vanished chord nor a piece at the depth limit is split.

The limits come from outside and may be values that do not compare with
numbers. Such a value is kept as its kind, and stops the flattening at the
first comparison that needs it.
-/
import PlotDigitizer.Bezier.Cubic
import PlotDigitizer.Value

namespace PlotDigitizer

/-- A limit, or the kind of a value that is none. -/
abbrev Limit (β : Type) := Except Kind β

/-- How closely a curve is followed. -/
structure Flattening (α : Type) where
  /-- The deviation from the chord, relative to it, that is accepted. -/
  tolerance : Limit α
  /-- No piece at this depth is split for its deviation. -/
  maxDepth : Limit Int
  /-- Every piece above this depth is split. -/
  minDepth : Limit Int
  /-- A chord not longer than this has vanished. -/
  chordEpsilon : Limit α

/-- How two values are compared. -/
inductive Comparison where
  | atMost
  | below
  | above
deriving Repr, DecidableEq

def Comparison.sign : Comparison → String
  | .atMost => "<="
  | .below => "<"
  | .above => ">"

/-- Why a curve was not flattened. -/
inductive FlattenError where
  | incomparable (comparison : Comparison) (left right : Kind)
  /-- A chord of no length was not held to have vanished. -/
  | divisionByZero
deriving Repr, DecidableEq

def FlattenError.message : FlattenError → String
  | .incomparable c left right =>
    "'" ++ c.sign ++ "' not supported between instances of '" ++ left.name ++ "' and '"
      ++ right.name ++ "'"
  | .divisionByZero => "float division by zero"

variable {α : Type}

section
variable [Zero α] [Sub α] [Mul α] [Div α] [BEq α] [LE α] [DecidableLE α] [Euclidean α]

/-- How far the curve point `mid` deviates from the chord, relative to the
chord's length. A vanished chord has no direction: then it is the distance of
`mid` from its start. -/
def flatness (epsilon : α) (mid start stop : Point α) : Except FlattenError α :=
  let chord := start.distance stop
  if chord ≤ epsilon then .ok (start.distance mid)
  else if chord == 0 then .error .divisionByZero
  else .ok (mid.lineDistance start stop / chord)

variable [LT α] [DecidableLT α]

/-- Whether the piece from `start` to `stop` at a depth is split. -/
def Flattening.splits (f : Flattening α) (depth : Nat) (mid start stop : Point α) :
    Except FlattenError Bool := do
  let epsilon ← f.chordEpsilon.mapError (.incomparable .atMost .real)
  let deviation ← flatness epsilon mid start stop
  let maxDepth ← f.maxDepth.mapError (.incomparable .above · .int)
  let tolerance ← f.tolerance.mapError (.incomparable .above .real)
  if tolerance < deviation ∧ (depth : Int) < maxDepth ∧ epsilon < start.distance stop then
    return true
  let minDepth ← f.minDepth.mapError (.incomparable .below .int)
  return (depth : Int) < minDepth

variable [Add α] [Neg α] [OfNat α 2] [OfNat α 3] [OfNat α 6]

/-- The polyline of the piece between the parameters `lo` and `hi`: of every
part that is not split its start and its middle, in order. The first number
bounds the depth below. -/
def Flattening.pieces (f : Flattening α) (c : Cubic α) :
    Nat → Nat → α → α → Point α → Point α → Except FlattenError (List (Point α))
  | room, depth, lo, hi, start, stop =>
    let middle := (lo + hi) / 2
    let mid := c.point middle
    match f.splits depth mid start stop, room with
    | .error e, _ => .error e
    | .ok false, _ | .ok true, 0 => .ok [start, mid]
    | .ok true, room + 1 => do
      let left ← f.pieces c room (depth + 1) lo middle start mid
      let right ← f.pieces c room (depth + 1) middle hi mid stop
      return left ++ right

/-- No piece is split at this depth. -/
def Flattening.depthBound (f : Flattening α) : Nat :=
  let bound (l : Limit Int) : Nat := match l with
    | .ok n => n.toNat
    | .error _ => 0
  max (bound f.maxDepth) (bound f.minDepth)

variable [One α]

/-- The polyline of a cubic, from its first point to its last, both as they
are given. -/
def Cubic.flatten (f : Flattening α) (c : Cubic α) : Except FlattenError (List (Point α)) :=
  (f.pieces c f.depthBound 0 0 1 c.p0 c.p3).map (· ++ [c.p3])

end
end PlotDigitizer
