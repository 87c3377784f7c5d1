/-
Affine maps of the plane, and the stack on which a drawing saves them.
-/
import PlotDigitizer.Plane.Point

namespace PlotDigitizer

/-- The map `(x, y) ↦ (a*x + c*y + e, b*x + d*y + f)`. -/
structure Affine (α : Type) where
  a : α
  b : α
  c : α
  d : α
  e : α
  f : α
deriving Repr, DecidableEq

namespace Affine
variable {α : Type}

instance [Zero α] [One α] : One (Affine α) := ⟨⟨1, 0, 0, 1, 0, 0⟩⟩

def apply [Add α] [Mul α] (t : Affine α) (p : Point α) : Point α :=
  ⟨t.a * p.x + t.c * p.y + t.e, t.b * p.x + t.d * p.y + t.f⟩

/-- `s` after `t`. -/
def comp [Add α] [Mul α] (s t : Affine α) : Affine α where
  a := s.a * t.a + s.c * t.b
  b := s.b * t.a + s.d * t.b
  c := s.a * t.c + s.c * t.d
  d := s.b * t.c + s.d * t.d
  e := s.a * t.e + s.c * t.f + s.e
  f := s.b * t.e + s.d * t.f + s.f

/-- The map in force after the most recent of the `saved` ones is restored, and
those that stay saved. With none saved the current map stays in force. -/
def restore (current : Affine α) (saved : List (Affine α)) : Affine α × List (Affine α) :=
  match saved with
  | [] => (current, [])
  | t :: rest => (t, rest)

end Affine
end PlotDigitizer
