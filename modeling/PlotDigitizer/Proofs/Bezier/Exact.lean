/-
The points of a cubic in exact arithmetic.

Nested multiplication gives the polynomial it stands for (`Cubic.point_x`,
`Cubic.point_y`). So the curve begins at its first point and ends at its last,
and halving meets the same parameters from wherever it comes: a vertex of the
subdivision is the point of the curve at its dyadic fraction
(`Cubic.vertex_eq`).
-/
import Mathlib.Algebra.Ring.CharZero
import PlotDigitizer.Proofs.Bezier.Subdivision

namespace PlotDigitizer

variable {α : Type}

section
variable [CommRing α]

theorem Point.scale_x (k : α) (p : Point α) : (scale k p).x = k * p.x := by simp [scale]

theorem Point.scale_y (k : α) (p : Point α) : (scale k p).y = k * p.y := by simp [scale]

namespace Cubic
variable (c : Cubic α)

theorem point_x (u : α) : (c.point u).x = c.p0.x + u * (3 * (c.p1.x - c.p0.x)
    + u * (3 * (c.p0.x + c.p2.x) - 6 * c.p1.x + u * (-c.p0.x + 3 * (c.p1.x - c.p2.x) + c.p3.x))) := by
  simp only [point, Point.add_x, Point.sub_x, Point.neg_x, Point.scale_x]

theorem point_y (u : α) : (c.point u).y = c.p0.y + u * (3 * (c.p1.y - c.p0.y)
    + u * (3 * (c.p0.y + c.p2.y) - 6 * c.p1.y + u * (-c.p0.y + 3 * (c.p1.y - c.p2.y) + c.p3.y))) := by
  simp only [point, Point.add_y, Point.sub_y, Point.neg_y, Point.scale_y]

theorem point_zero : c.point 0 = c.p0 := by
  refine Point.eq_of_coordinates ?_ ?_
  · rw [point_x, zero_mul, add_zero]
  · rw [point_y, zero_mul, add_zero]

theorem point_one : c.point 1 = c.p3 := by
  refine Point.eq_of_coordinates ?_ ?_
  · rw [point_x]
    ring
  · rw [point_y]
    ring

end Cubic
end

section
variable [Field α] [CharZero α]

theorem dyadic_eq {level : Nat} {index : Nat} (h : index ≤ 2 ^ level) :
    (dyadic level index : α) = index / 2 ^ level := by
  induction level generalizing index with
  | zero =>
    obtain rfl | rfl : index = 0 ∨ index = 1 := by omega
    · simp [dyadic]
    · simp [dyadic]
  | succ level ih =>
    rw [Nat.pow_succ] at h
    rcases Nat.even_or_odd' index with ⟨half, rfl | rfl⟩
    · rw [dyadic_even, ih (by omega), pow_succ]
      push_cast
      field_simp
    · rw [dyadic_odd, ih (by omega), ih (by omega), pow_succ]
      push_cast
      field_simp
      ring

namespace Cubic
variable (c : Cubic α)

/-- The curve runs from its first point to its last, so those are no exception
among its points. -/
theorem vertex_eq {level index : Nat} (h : index ≤ 2 ^ level) :
    c.vertex level index = c.point (index / 2 ^ level) := by
  rw [vertex]
  split
  · rename_i hzero
    rw [hzero, Nat.cast_zero, zero_div, point_zero]
  · split
    · rename_i hone
      have hparameter : ((index : ℕ) : α) / 2 ^ level = 1 := by
        rw [hone]
        push_cast
        exact div_self (pow_ne_zero level two_ne_zero)
      rw [hparameter, point_one]
    · rw [dyadic_eq h]

theorem start_eq (q : Piece) : c.start q = c.point q.lo := by
  rw [start, vertex_eq c q.index_lt.le, Piece.lo]
  push_cast
  rfl

theorem stop_eq (q : Piece) : c.stop q = c.point q.hi := by
  rw [stop, vertex_eq c q.index_lt, Piece.hi]
  push_cast
  rfl

theorem middle_eq_point (q : Piece) : c.middle q = c.point ((q.lo + q.hi) / 2) := by
  have hindex : 2 * q.index + 1 ≤ 2 ^ (q.level + 1) := by
    have := q.index_lt
    rw [Nat.pow_succ]
    omega
  have hmid : (q.mid : α) = ((q.lo : α) + q.hi) / 2 := by
    rw [q.mid_eq]
    push_cast
    rfl
  rw [middle, vertex_eq c hindex, ← hmid, Piece.mid]
  push_cast
  rfl

end Cubic
end

end PlotDigitizer
