/-
The plane along a chord and across it, over the reals.

Lengths are the true ones here. What a point lies along a chord and what it
lies across it, both times the chord's length, are its coordinates in a turned
system (`Point.distance_mul_le`); along the polyline through a middle point
they go straight from one corner to the next (`Point.exists_isOnPath`).
-/
import Mathlib.Analysis.Convex.Segment
import Mathlib.Analysis.Real.Sqrt
import PlotDigitizer.Proofs.Bezier.Flatten

namespace PlotDigitizer

noncomputable instance : Euclidean ℝ where
  abs x := |x|
  sqrt := Real.sqrt
  hypot x y := √(x ^ 2 + y ^ 2)

theorem coversZero_real {epsilon : ℝ} (h : 0 ≤ epsilon) : CoversZero epsilon := by
  intro x hx
  rwa [beq_iff_eq.1 hx]

namespace Point

theorem distance_nonneg (p q : Point ℝ) : 0 ≤ p.distance q := Real.sqrt_nonneg _

theorem sq_distance (p q : Point ℝ) : p.distance q ^ 2 = (q.x - p.x) ^ 2 + (q.y - p.y) ^ 2 :=
  Real.sq_sqrt (by positivity)

theorem distance_comm (p q : Point ℝ) : p.distance q = q.distance p := by
  show √((q.x - p.x) ^ 2 + (q.y - p.y) ^ 2) = √((p.x - q.x) ^ 2 + (p.y - q.y) ^ 2)
  rw [sub_sq_comm, sub_sq_comm q.y]

theorem cross_comm (p start stop : Point ℝ) : p.cross stop start = -p.cross start stop := by
  simp only [cross]
  ring

theorem distance_level {b : ℝ} (hb : 0 ≤ b) : (⟨0, 0⟩ : Point ℝ).distance ⟨b, 0⟩ = b := by
  show √((b - 0) ^ 2 + (0 - 0) ^ 2) = b
  rw [sub_zero, sub_zero, zero_pow two_ne_zero, add_zero, Real.sqrt_sq hb]

theorem abs_sub_x_le (p q : Point ℝ) : |q.x - p.x| ≤ p.distance q :=
  Real.abs_le_sqrt (le_add_of_nonneg_right (sq_nonneg _))

theorem abs_sub_y_le (p q : Point ℝ) : |q.y - p.y| ≤ p.distance q :=
  Real.abs_le_sqrt (le_add_of_nonneg_left (sq_nonneg _))

/-- How far `p` lies along a chord from its start, times the chord's length. -/
def along (p start stop : Point ℝ) : ℝ :=
  (stop.x - start.x) * (p.x - start.x) + (stop.y - start.y) * (p.y - start.y)

theorem along_start (start stop : Point ℝ) : start.along start stop = 0 := by simp [along]

theorem cross_start (start stop : Point ℝ) : start.cross start stop = 0 := by simp [cross]

theorem along_stop (start stop : Point ℝ) : stop.along start stop = start.distance stop ^ 2 := by
  rw [sq_distance, along]
  ring

theorem cross_stop (start stop : Point ℝ) : stop.cross start stop = 0 := by
  rw [cross]
  ring

theorem distance_mul_le (p z start stop : Point ℝ) :
    p.distance z * start.distance stop
      ≤ |p.along start stop - z.along start stop| + |p.cross start stop - z.cross start stop| := by
  have hsq : (p.distance z * start.distance stop) ^ 2
      = (p.along start stop - z.along start stop) ^ 2 + (p.cross start stop - z.cross start stop) ^ 2 := by
    rw [mul_pow, sq_distance, sq_distance]
    simp only [along, cross]
    ring
  refine le_of_sq_le_sq ?_ (by positivity)
  rw [hsq, add_sq, sq_abs, sq_abs]
  linarith [mul_nonneg (abs_nonneg (p.along start stop - z.along start stop))
    (abs_nonneg (p.cross start stop - z.cross start stop))]

/-- The point that divides the way from `p` to `q` as `s` does the way from 0 to 1. -/
def between (p q : Point ℝ) (s : ℝ) : Point ℝ := ⟨p.x + s * (q.x - p.x), p.y + s * (q.y - p.y)⟩

theorem along_between (p q start stop : Point ℝ) (s : ℝ) : (p.between q s).along start stop
    = p.along start stop + s * (q.along start stop - p.along start stop) := by
  simp only [between, along]
  ring

theorem cross_between (p q start stop : Point ℝ) (s : ℝ) : (p.between q s).cross start stop
    = p.cross start stop + s * (q.cross start stop - p.cross start stop) := by
  simp only [between, cross]
  ring

/-- On the polyline from `start` by way of `m` to `stop`. -/
def IsOnPath (z start m stop : Point ℝ) : Prop :=
  ∃ s : ℝ, 0 ≤ s ∧ s ≤ 1 ∧ (z = start.between m s ∨ z = m.between stop s)

/-- A number between two others divides the way from the one to the other. -/
theorem exists_divides {a b t : ℝ} (ha : a ≤ t) (hb : t ≤ b) :
    ∃ s : ℝ, 0 ≤ s ∧ s ≤ 1 ∧ a + s * (b - a) = t := by
  have ht : t ∈ segment ℝ a b := Icc_subset_segment ⟨ha, hb⟩
  rw [segment_eq_image'] at ht
  obtain ⟨s, ⟨h0, h1⟩, hs⟩ := ht
  exact ⟨s, h0, h1, hs⟩

/-- The polyline passes every place along its chord, no further across it than
its middle point lies. -/
theorem exists_isOnPath (start m stop : Point ℝ) {a : ℝ} (h0 : 0 ≤ a) (h1 : a ≤ start.distance stop ^ 2) :
    ∃ z : Point ℝ, z.IsOnPath start m stop ∧ z.along start stop = a ∧
      ∃ s : ℝ, 0 ≤ s ∧ s ≤ 1 ∧ z.cross start stop = s * m.cross start stop := by
  rcases le_total a (m.along start stop) with hm | hm
  · obtain ⟨s, hs0, hs1, hs⟩ := exists_divides h0 hm
    refine ⟨start.between m s, ⟨s, hs0, hs1, .inl rfl⟩, ?_, s, hs0, hs1, ?_⟩
    · rw [along_between, along_start, hs]
    · rw [cross_between, cross_start]
      ring
  · obtain ⟨s, hs0, hs1, hs⟩ := exists_divides hm h1
    refine ⟨m.between stop s, ⟨s, hs0, hs1, .inr rfl⟩, ?_, 1 - s, by linarith, by linarith, ?_⟩
    · rw [along_between, along_stop, hs]
    · rw [cross_between, cross_stop]
      ring

theorem IsOnPath.level {z : Point ℝ} {a b : ℝ} (h : z.IsOnPath ⟨0, 0⟩ ⟨a, 0⟩ ⟨b, 0⟩) (ha : 0 ≤ a)
    (hab : a ≤ b) : z.y = 0 ∧ z.x ≤ b := by
  obtain ⟨s, hs0, hs1, rfl | rfl⟩ := h
  · have hx : s * a ≤ a := mul_le_of_le_one_left ha hs1
    simp only [between]
    exact ⟨by ring, by linarith⟩
  · have hx : s * (b - a) ≤ b - a := mul_le_of_le_one_left (sub_nonneg.2 hab) hs1
    simp only [between]
    exact ⟨by ring, by linarith⟩

end Point
end PlotDigitizer
