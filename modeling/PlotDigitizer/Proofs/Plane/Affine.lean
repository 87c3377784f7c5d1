/-
Affine maps in exact arithmetic: they compose as maps do.
-/
import Mathlib.Tactic.Ring
import PlotDigitizer.Plane.Affine

namespace PlotDigitizer.Affine

variable {α : Type} [CommRing α]

theorem apply_comp (s t : Affine α) (p : Point α) : (s.comp t).apply p = s.apply (t.apply p) := by
  simp only [apply, comp, Point.mk.injEq]
  constructor <;> ring

theorem comp_assoc (s t u : Affine α) : (s.comp t).comp u = s.comp (t.comp u) := by
  simp only [comp, Affine.mk.injEq]
  refine ⟨?_, ?_, ?_, ?_, ?_, ?_⟩ <;> ring

theorem one_def : (1 : Affine α) = ⟨1, 0, 0, 1, 0, 0⟩ := rfl

theorem one_comp (t : Affine α) : (1 : Affine α).comp t = t := by
  simp [one_def, comp]

theorem comp_one (t : Affine α) : t.comp 1 = t := by
  simp [one_def, comp]

end PlotDigitizer.Affine
