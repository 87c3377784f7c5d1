/-
A cubic lies between its control points, in exact arithmetic.

The polynomial that nested multiplication evaluates is an average of the four
points, with weights that depend on the parameter alone (`Cubic.point_x_eq`,
`Cubic.point_y_eq`). Between 0 and 1 none of the weights is negative, so a box
that contains the four points contains the curve (`Cubic.Within.point`). And
flattening never leaves that stretch of the curve: every point of a polyline is
the point at some such parameter (`Cubic.exists_parameter`).
-/
import PlotDigitizer.Proofs.Bezier.Exact
import PlotDigitizer.Proofs.Plane.Box

namespace PlotDigitizer

variable {α : Type}

/-! ## Averages of four scalars -/

namespace Cubic
variable [CommRing α] (c : Cubic α)

theorem point_x_eq (u : α) : (c.point u).x =
    (1 - u) ^ 3 * c.p0.x + 3 * u * (1 - u) ^ 2 * c.p1.x + 3 * u ^ 2 * (1 - u) * c.p2.x + u ^ 3 * c.p3.x := by
  rw [point_x]
  ring

theorem point_y_eq (u : α) : (c.point u).y =
    (1 - u) ^ 3 * c.p0.y + 3 * u * (1 - u) ^ 2 * c.p1.y + 3 * u ^ 2 * (1 - u) * c.p2.y + u ^ 3 * c.p3.y := by
  rw [point_y]
  ring

end Cubic

variable [Field α] [LinearOrder α] [IsStrictOrderedRing α]

section
variable {a b c d m u : α}

theorem le_average (h0 : 0 ≤ u) (h1 : u ≤ 1) (ha : m ≤ a) (hb : m ≤ b) (hc : m ≤ c) (hd : m ≤ d) :
    m ≤ (1 - u) ^ 3 * a + 3 * u * (1 - u) ^ 2 * b + 3 * u ^ 2 * (1 - u) * c + u ^ 3 * d := by
  have hrest : 0 ≤ 1 - u := sub_nonneg.2 h1
  calc m = (1 - u) ^ 3 * m + 3 * u * (1 - u) ^ 2 * m + 3 * u ^ 2 * (1 - u) * m + u ^ 3 * m := by ring
    _ ≤ _ := by gcongr

theorem average_le (h0 : 0 ≤ u) (h1 : u ≤ 1) (ha : a ≤ m) (hb : b ≤ m) (hc : c ≤ m) (hd : d ≤ m) :
    (1 - u) ^ 3 * a + 3 * u * (1 - u) ^ 2 * b + 3 * u ^ 2 * (1 - u) * c + u ^ 3 * d ≤ m := by
  have hrest : 0 ≤ 1 - u := sub_nonneg.2 h1
  calc _ ≤ (1 - u) ^ 3 * m + 3 * u * (1 - u) ^ 2 * m + 3 * u ^ 2 * (1 - u) * m + u ^ 3 * m := by gcongr
    _ = m := by ring

end

/-! ## The box of the control points -/

namespace Cubic
variable {c : Cubic α}

/-- The end points and the control points are in the box. -/
structure Within (c : Cubic α) (b : Box α) : Prop where
  p0 : b.Contains c.p0
  p1 : b.Contains c.p1
  p2 : b.Contains c.p2
  p3 : b.Contains c.p3

/-- A box around the end points and the control points is one around the
curve. -/
theorem Within.point {b : Box α} (h : c.Within b) {u : α} (h0 : 0 ≤ u) (h1 : u ≤ 1) :
    b.Contains (c.point u) where
  left := c.point_x_eq u ▸ le_average h0 h1 h.p0.left h.p1.left h.p2.left h.p3.left
  bottom := c.point_y_eq u ▸ le_average h0 h1 h.p0.bottom h.p1.bottom h.p2.bottom h.p3.bottom
  right := c.point_x_eq u ▸ average_le h0 h1 h.p0.right h.p1.right h.p2.right h.p3.right
  top := c.point_y_eq u ▸ average_le h0 h1 h.p0.top h.p1.top h.p2.top h.p3.top

end Cubic

/-! ## The polyline -/

theorem le_halfway {lo hi : α} (h : lo ≤ hi) : lo ≤ (lo + hi) / 2 ∧ (lo + hi) / 2 ≤ hi := by
  constructor <;> linarith

variable [Euclidean α] {f : Flattening α} {c : Cubic α}

/-- The points of a piece are points of the curve between its parameters. -/
theorem Flattening.exists_parameter {room depth : Nat} {lo hi : α} {start stop : Point α}
    {ps : List (Point α)} (h : f.pieces c room depth lo hi start stop = .ok ps) (hle : lo ≤ hi)
    (hstart : c.point lo = start) : ∀ p ∈ ps, ∃ u, lo ≤ u ∧ u ≤ hi ∧ c.point u = p := by
  fun_induction Flattening.pieces generalizing ps with
  | case1 => cases h
  | case2 | case3 =>
    obtain rfl := Except.ok.inj h
    intro p hp
    rcases List.mem_pair.1 hp with rfl | rfl
    · exact ⟨_, le_rfl, hle, hstart⟩
    · exact ⟨_, (le_halfway hle).1, (le_halfway hle).2, rfl⟩
  | case4 _ lo hi _ _ middle _ _ _ ihleft =>
    rename_i ihright
    obtain ⟨left, hleft, h⟩ := bind_eq_ok.1 h
    obtain ⟨right, hright, h⟩ := bind_eq_ok.1 h
    obtain rfl := pure_eq_ok.1 h
    obtain ⟨hlo, hhi⟩ : lo ≤ middle ∧ middle ≤ hi := le_halfway hle
    intro p hp
    rcases List.mem_append.1 hp with hp | hp
    · obtain ⟨u, hu0, hu1, hu⟩ := ihleft hleft hlo hstart p hp
      exact ⟨u, hu0, hu1.trans hhi, hu⟩
    · obtain ⟨u, hu0, hu1, hu⟩ := ihright hright hhi rfl p hp
      exact ⟨u, hlo.trans hu0, hu1, hu⟩

/-- **A polyline is on its curve**: each of its points is the point of the curve
at some parameter between 0 and 1. -/
theorem Cubic.exists_parameter {ps : List (Point α)} (h : c.flatten f = .ok ps) :
    ∀ p ∈ ps, ∃ u, 0 ≤ u ∧ u ≤ 1 ∧ c.point u = p := by
  obtain ⟨qs, hqs, rfl⟩ := flatten_eq_ok.1 h
  intro p hp
  rcases List.mem_append.1 hp with hp | hp
  · exact Flattening.exists_parameter hqs zero_le_one c.point_zero p hp
  · exact ⟨1, zero_le_one, le_rfl, c.point_one.trans (List.mem_singleton.1 hp).symm⟩

theorem Cubic.Within.flatten {b : Box α} (hc : c.Within b) {ps : List (Point α)} (h : c.flatten f = .ok ps) :
    ∀ p ∈ ps, b.Contains p := by
  intro p hp
  obtain ⟨u, hu0, hu1, rfl⟩ := Cubic.exists_parameter h p hp
  exact hc.point hu0 hu1

end PlotDigitizer
