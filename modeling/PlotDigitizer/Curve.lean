/-
Curves: connected polylines on a page.
-/
import PlotDigitizer.Drawing.Operator
import PlotDigitizer.Plane.Box

namespace PlotDigitizer

/-- What is recorded of a curve so that it can be picked. -/
structure Features (α : Type) where
  pointCount : Nat
  box : Box α
  length : α
  isClosed : Bool
deriving Repr

structure Curve (α : Type) where
  points : List (Point α)
  paint : Paint := .unknown
  /-- The position of the path that the curve is part of. -/
  pathIndex : Nat := 0
  /-- The position among all curves of an extraction. -/
  index : Int := 0
  features : Option (Features α) := none
deriving Repr

namespace Curve
variable {α : Type}

def box [Zero α] [BEq α] [LT α] [DecidableLT α] (c : Curve α) : Box α := .ofPoints c.points

/-- A curve of at least three points that ends where it begins. -/
def isClosed [BEq α] (c : Curve α) : Bool :=
  2 < c.points.length &&
    match c.points.head?, c.points.getLast? with
    | some p, some q => p == q
    | _, _ => false

section
variable [Zero α] [Add α] [Sub α] [Mul α] [Euclidean α]

/-- The length of a straight piece as the root of a sum of squares. -/
def step (p q : Point α) : α :=
  let dx := q.x - p.x
  let dy := q.y - p.y
  Euclidean.sqrt (dx * dx + dy * dy)

/-- The sum of the pieces of a polyline that goes on from `p`, added to `sum`
one by one. -/
def lengthFrom (sum : α) (p : Point α) : List (Point α) → α
  | [] => sum
  | q :: rest => lengthFrom (sum + step p q) q rest

def length (c : Curve α) : α :=
  match c.points with
  | [] => 0
  | p :: rest => lengthFrom 0 p rest

variable [BEq α] [LT α] [DecidableLT α]

/-- The curve with its features recorded. -/
def described (c : Curve α) : Curve α :=
  { c with
    features := some
      { pointCount := c.points.length
        box := c.box
        length := c.length
        isClosed := c.isClosed } }

end

/-- The first curve of a list that goes by an index. -/
def find? (curves : List (Curve α)) (index : Int) : Option (Curve α) :=
  curves.find? (·.index == index)

end Curve
end PlotDigitizer
