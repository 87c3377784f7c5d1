/-
Cubic Bézier curves.
-/
import PlotDigitizer.Plane.Point

namespace PlotDigitizer

/-- A cubic by its end points `p0` and `p3` and its control points. -/
structure Cubic (α : Type) where
  p0 : Point α
  p1 : Point α
  p2 : Point α
  p3 : Point α
deriving Repr, DecidableEq

namespace Cubic
variable {α : Type} [Zero α] [Add α] [Sub α] [Mul α] [Neg α] [OfNat α 3] [OfNat α 6]

/-- The point of the cubic at parameter `t`: the polynomial in `t` by nested
multiplication, over the complex numbers. -/
def point (c : Cubic α) (t : α) : Point α :=
  let cubed := -c.p0 + .scale 3 (c.p1 - c.p2) + c.p3
  let squared := .scale 3 (c.p0 + c.p2) - .scale 6 c.p1 + .scale t cubed
  c.p0 + .scale t (.scale 3 (c.p1 - c.p0) + .scale t squared)

end Cubic
end PlotDigitizer
