/-
Assembling curves from painted paths.

Each move begins a new curve. Lines add their end point to it, cubics their
flattened polyline from the pen on, less every point that repeats the one
before it; closing adds the first point again, unless the curve is there
already.
-/
import PlotDigitizer.Bezier.Flatten
import PlotDigitizer.Curve
import PlotDigitizer.Drawing.Path

namespace PlotDigitizer

/-- The curve being assembled, and those before it. -/
structure Assembly (α : Type) where
  curves : Array (List (Point α)) := #[]
  points : Array (Point α) := #[]
  pen : Point α
  /-- Whether closing added the last of the points, which then is the first
  one again even where its coordinates do not compare. -/
  returned : Bool := false

namespace Assembly
variable {α : Type}

/-- Ends the curve. One without points is none. -/
def flush (s : Assembly α) : Assembly α :=
  if s.points.isEmpty then s
  else { s with curves := s.curves.push s.points.toList, points := #[] }

/-- Adds a point, and moves the pen there. -/
def add (s : Assembly α) (p : Point α) : Assembly α :=
  { s with points := s.points.push p, pen := p, returned := false }

variable [BEq α]

/-- Adds a point unless it repeats the last one. -/
def addNew (s : Assembly α) (p : Point α) : Assembly α :=
  if s.points.back?.any (· == p) then s
  else { s with points := s.points.push p, returned := false }

/-- Whether the last point is the first one. -/
def isBack (s : Assembly α) (first : Point α) : Bool :=
  s.returned || s.points.size == 1 || s.points.back?.any (· == first)

def close (s : Assembly α) : Assembly α :=
  match s.points[0]? with
  | none => s
  | some first =>
    if s.isBack first then { s with pen := first }
    else { s with points := s.points.push first, pen := first, returned := true }

variable [Zero α] [One α] [Add α] [Sub α] [Mul α] [Div α] [Neg α]
  [OfNat α 2] [OfNat α 3] [OfNat α 6]
  [LE α] [DecidableLE α] [LT α] [DecidableLT α] [Euclidean α]

def follow (f : Flattening α) (s : Assembly α) : Command α → Except FlattenError (Assembly α)
  | .move p => .ok (s.flush.add p)
  | .line p => .ok (s.add p)
  | .cubic c₁ c₂ p => do
    let polyline ← (Cubic.mk s.pen c₁ c₂ p).flatten f
    return { polyline.foldl addNew s with pen := p }
  | .close => .ok s.close

end Assembly

section
variable {α : Type} [BEq α] [Zero α] [One α] [Add α] [Sub α] [Mul α] [Div α] [Neg α]
  [OfNat α 2] [OfNat α 3] [OfNat α 6]
  [LE α] [DecidableLE α] [LT α] [DecidableLT α] [Euclidean α]

/-- The polylines of a path, each with at least one point. -/
def Path.polylines (f : Flattening α) (p : Path α) :
    Except FlattenError (List (List (Point α))) := do
  let start : Assembly α := { pen := .origin }
  let s ← p.commands.foldlM (Assembly.follow f) start
  return s.flush.curves.toList

/-- The curves of a path at a position, not yet numbered. -/
def Path.curves (f : Flattening α) (p : Path α) (pathIndex : Nat) :
    Except FlattenError (List (Curve α)) := do
  let polylines ← p.polylines f
  return polylines.map fun points => { points, paint := p.paint, pathIndex }

/-- The curves of all paths, numbered in the order in which they are made. -/
def assemble (f : Flattening α) (paths : List (Path α)) : Except FlattenError (List (Curve α)) := do
  let curves ← paths.zipIdx.mapM fun (p, i) => p.curves f i
  return curves.flatten.zipIdx.map fun (c, i) => { c with index := i }

end
end PlotDigitizer
