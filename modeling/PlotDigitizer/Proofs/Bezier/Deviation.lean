/-
How far a cubic strays from its polyline, in exact arithmetic.

Flatness is measured at the middle of a piece. What lies across the chord is a
cubic polynomial along the piece that vanishes at both ends, and its value at
the middle fixes all of it but the part that vanishes there as well
(`Cubic.cross_point`). That part is what a piece can swing out to either side
unnoticed: no more than `Cubic.swing`, which shrinks with the third power of
the piece's width. Nothing is measured along the chord, so a piece may run
past its ends by `Cubic.overrun`. With the two allowed for, the polyline
honours its tolerance (`Cubic.isFollowed`), and without either it need not
(`Cubic.not_isFollowed_exactly`).
-/
import Mathlib.Tactic.Positivity
import PlotDigitizer.Proofs.Bezier.Chord
import PlotDigitizer.Proofs.Bezier.Exact

namespace PlotDigitizer

theorem Piece.width_real (q : Piece) : (q.hi : ℝ) - q.lo = 1 / 2 ^ q.level := by
  rw [q.hi_eq]
  push_cast
  ring

/-! ## Across the chord -/

namespace Cubic
variable (c : Cubic ℝ)

/-- The third difference of the four points: a sixth of the curve's third
derivative. -/
noncomputable def third : Point ℝ :=
  ⟨-c.p0.x + 3 * (c.p1.x - c.p2.x) + c.p3.x, -c.p0.y + 3 * (c.p1.y - c.p2.y) + c.p3.y⟩

/-- A cubic through its ends and its middle, and what is left to it. -/
theorem point_interpolates (a b s : ℝ) :
    (c.point (a + s * (b - a))).x - (c.point a).x
      = s * (2 * s - 1) * ((c.point b).x - (c.point a).x)
        + 4 * s * (1 - s) * ((c.point ((a + b) / 2)).x - (c.point a).x)
        + s * (1 - s) * (1 - 2 * s) / 2 * (b - a) ^ 3 * c.third.x ∧
    (c.point (a + s * (b - a))).y - (c.point a).y
      = s * (2 * s - 1) * ((c.point b).y - (c.point a).y)
        + 4 * s * (1 - s) * ((c.point ((a + b) / 2)).y - (c.point a).y)
        + s * (1 - s) * (1 - 2 * s) / 2 * (b - a) ^ 3 * c.third.y := by
  simp only [point_x, point_y, third]
  constructor <;> ring

/-- Across the chord the third difference, times the chord's length. -/
noncomputable def thirdCross (q : Piece) : ℝ :=
  ((c.stop q).x - (c.start q).x) * c.third.y - ((c.stop q).y - (c.start q).y) * c.third.x

theorem cross_point (q : Piece) (s : ℝ) :
    (c.point (q.lo + s * (q.hi - q.lo))).cross (c.start q) (c.stop q)
      = 4 * s * (1 - s) * (c.middle q).cross (c.start q) (c.stop q)
        + s * (1 - s) * (1 - 2 * s) / 2 * ((q.hi : ℝ) - q.lo) ^ 3 * c.thirdCross q := by
  obtain ⟨hx, hy⟩ := c.point_interpolates q.lo q.hi s
  simp only [Point.cross, thirdCross, c.start_eq, c.stop_eq, c.middle_eq_point, hx, hy]
  ring

/-- The greatest value of the cubic that vanishes at both ends and in the middle. -/
theorem abs_wave_le {s : ℝ} (h0 : 0 ≤ s) (h1 : s ≤ 1) : |s * (1 - s) * (1 - 2 * s)| ≤ √3 / 18 := by
  have hthree : √3 ^ 2 = 3 := Real.sq_sqrt (by norm_num)
  refine abs_le_of_sq_le_sq ?_ (by positivity)
  -- In `w = s * (1 - s)` the gap is `4 * (w - 1/6)^2 * (w + 1/12)`.
  have hw : 0 ≤ s * (1 - s) := mul_nonneg h0 (by linarith)
  have hgap : 0 ≤ 4 * (s * (1 - s) - 1 / 6) ^ 2 * (s * (1 - s) + 1 / 12) := by positivity
  rw [div_pow, hthree]
  linarith [hgap]

/-! ## Within a piece -/

noncomputable def chord (q : Piece) : ℝ := (c.start q).distance (c.stop q)

/-- How far a piece can swing out across its chord with its middle on it. -/
noncomputable def swing (q : Piece) : ℝ :=
  √3 / 36 * ((q.hi : ℝ) - q.lo) ^ 3 * |c.thirdCross q| / c.chord q

/-- How far the foot of a point on the chord lies beyond the chord's ends. -/
noncomputable def overrun (q : Piece) (u : ℝ) : ℝ :=
  let along := (c.point u).along (c.start q) (c.stop q)
  max 0 (max (-along) (along - c.chord q ^ 2)) / c.chord q

theorem abs_sub_clamp {a b : ℝ} (hb : 0 ≤ b) : |a - max 0 (min a b)| = max 0 (max (-a) (a - b)) := by
  rcases le_total a 0 with ha | ha
  · rw [min_eq_left (ha.trans hb), max_eq_left ha, sub_zero, abs_of_nonpos ha,
      max_eq_left (by linarith : a - b ≤ -a), max_eq_right (by linarith)]
  · rcases le_total a b with hab | hab
    · rw [min_eq_left hab, max_eq_right ha, sub_self, abs_zero,
        max_eq_left (max_le (by linarith) (by linarith))]
    · rw [min_eq_right hab, max_eq_right hb, abs_of_nonneg (by linarith),
        max_eq_right (by linarith : -a ≤ a - b), max_eq_right (by linarith)]

/-- Across the chord a point lies between the polyline and its middle, but for
what the piece swings out. -/
theorem abs_cross_sub_le (q : Piece) {s r : ℝ} (hs0 : 0 ≤ s) (hs1 : s ≤ 1) (hr0 : 0 ≤ r) (hr1 : r ≤ 1) :
    |(c.point (q.lo + s * (q.hi - q.lo))).cross (c.start q) (c.stop q)
        - r * (c.middle q).cross (c.start q) (c.stop q)|
      ≤ |(c.middle q).cross (c.start q) (c.stop q)|
        + √3 / 36 * ((q.hi : ℝ) - q.lo) ^ 3 * |c.thirdCross q| := by
  have hwidth : (0 : ℝ) ≤ (q.hi : ℝ) - q.lo := by
    rw [q.width_real]
    positivity
  have hs : 0 ≤ s * (1 - s) := mul_nonneg hs0 (by linarith)
  have hshare : |4 * s * (1 - s) - r| ≤ 1 := by
    rw [abs_le]
    constructor
    · linarith
    · linarith [sq_nonneg (2 * s - 1)]
  set across := (c.middle q).cross (c.start q) (c.stop q)
  calc _ = |(4 * s * (1 - s) - r) * across
            + s * (1 - s) * (1 - 2 * s) * (((q.hi : ℝ) - q.lo) ^ 3 / 2 * c.thirdCross q)| := by
        rw [cross_point]
        congr 1
        ring
    _ ≤ |4 * s * (1 - s) - r| * |across|
          + |s * (1 - s) * (1 - 2 * s)| * (((q.hi : ℝ) - q.lo) ^ 3 / 2 * |c.thirdCross q|) := by
        refine (abs_add_le _ _).trans_eq ?_
        rw [abs_mul, abs_mul _ (_ * c.thirdCross q), abs_mul _ (c.thirdCross q),
          abs_of_nonneg (show 0 ≤ ((q.hi : ℝ) - q.lo) ^ 3 / 2 by positivity)]
    _ ≤ 1 * |across| + √3 / 18 * (((q.hi : ℝ) - q.lo) ^ 3 / 2 * |c.thirdCross q|) := by
        have hwave := abs_wave_le hs0 hs1
        gcongr
    _ = _ := by ring

/-- The points of a piece lie as close to its polyline as its middle lies to
its chord, but for what they swing out and run past the ends. -/
theorem exists_near (q : Piece) (hchord : 0 < c.chord q) {tolerance : ℝ}
    (hflat : |(c.middle q).cross (c.start q) (c.stop q)| ≤ tolerance * c.chord q ^ 2) {u : ℝ}
    (hlo : q.lo ≤ u) (hhi : u ≤ q.hi) :
    ∃ z : Point ℝ, z.IsOnPath (c.start q) (c.middle q) (c.stop q) ∧
      (c.point u).distance z ≤ tolerance * c.chord q + (c.swing q + c.overrun q u) := by
  obtain ⟨s, hs0, hs1, rfl⟩ := Point.exists_divides hlo hhi
  set p := c.point (q.lo + s * (q.hi - q.lo))
  have hclamp := abs_sub_clamp (a := p.along (c.start q) (c.stop q)) (sq_nonneg (c.chord q))
  obtain ⟨z, hz, halong, r, hr0, hr1, hcross⟩ := Point.exists_isOnPath (c.start q) (c.middle q) (c.stop q)
    (le_max_left 0 (min (p.along (c.start q) (c.stop q)) (c.chord q ^ 2)))
    (max_le (sq_nonneg (c.chord q)) (min_le_right _ _))
  refine ⟨z, hz, le_of_mul_le_mul_right ?_ hchord⟩
  calc p.distance z * c.chord q
      ≤ |p.along (c.start q) (c.stop q) - z.along (c.start q) (c.stop q)|
          + |p.cross (c.start q) (c.stop q) - z.cross (c.start q) (c.stop q)| :=
        Point.distance_mul_le p z (c.start q) (c.stop q)
    _ ≤ c.overrun q (q.lo + s * (q.hi - q.lo)) * c.chord q
          + (tolerance * c.chord q ^ 2 + c.swing q * c.chord q) := by
        refine add_le_add ?_ ?_
        · rw [halong, hclamp, overrun, div_mul_cancel₀ _ hchord.ne']
        · rw [hcross, swing, div_mul_cancel₀ _ hchord.ne']
          exact (c.abs_cross_sub_le q hs0 hs1 hr0 hr1).trans (by linarith)
    _ = (tolerance * c.chord q + (c.swing q + c.overrun q (q.lo + s * (q.hi - q.lo)))) * c.chord q := by
        ring

/-- Eighths of the parameters leave of the third difference this much. -/
theorem swing_le (q : Piece) (hlevel : 3 ≤ q.level) (hchord : 0 < c.chord q) :
    c.swing q ≤ √3 / 18432 * Point.origin.distance c.third := by
  have hwidth : (1 : ℝ) / 2 ^ q.level ≤ 1 / 2 ^ 3 :=
    one_div_le_one_div_of_le (by positivity) (pow_le_pow_right₀ (by norm_num) hlevel)
  have hcross : |c.thirdCross q| ≤ c.chord q * Point.origin.distance c.third := by
    refine abs_le_of_sq_le_sq ?_ (mul_nonneg hchord.le (Point.distance_nonneg _ _))
    rw [mul_pow, chord, Point.sq_distance, Point.sq_distance]
    simp only [thirdCross, Point.origin, sub_zero]
    linarith [sq_nonneg (((c.stop q).x - (c.start q).x) * c.third.x
      + ((c.stop q).y - (c.start q).y) * c.third.y)]
  rw [swing, q.width_real, div_le_iff₀ hchord]
  calc √3 / 36 * (1 / 2 ^ q.level) ^ 3 * |c.thirdCross q|
      ≤ √3 / 36 * (1 / 2 ^ 3) ^ 3 * (c.chord q * Point.origin.distance c.third) := by gcongr
    _ = √3 / 18432 * Point.origin.distance c.third * c.chord q := by ring

/-! ## The polyline -/

/-- A piece deviates from its chord by no more than the tolerance, and the
chord has not vanished. -/
def IsFlat (c : Cubic ℝ) (tolerance epsilon : ℝ) (q : Piece) : Prop :=
  (∃ d, flatness epsilon (c.middle q) (c.start q) (c.stop q) = .ok d ∧ d ≤ tolerance) ∧
    epsilon < c.chord q

/-- Of every piece that was kept for its flatness, the points lie within the
tolerance of its polyline, relative to its chord, and `slack`. -/
def IsFollowed (c : Cubic ℝ) (tolerance : ℝ) (maxDepth minDepth : Int) (epsilon : ℝ)
    (slack : Piece → ℝ → ℝ) : Prop :=
  ∃ t : Subdivision, (Flattening.ofLimits tolerance maxDepth minDepth epsilon).Subdivides c .unit t ∧
    c.flatten (.ofLimits tolerance maxDepth minDepth epsilon) = .ok (c.polyline (t.pieces .unit)) ∧
    ∀ q ∈ t.pieces .unit, c.IsFlat tolerance epsilon q → ∀ u : ℝ, q.lo ≤ u → u ≤ q.hi →
      ∃ z : Point ℝ, z.IsOnPath (c.start q) (c.middle q) (c.stop q) ∧
        (c.point u).distance z ≤ tolerance * c.chord q + slack q u

variable {c} {tolerance epsilon : ℝ} {maxDepth minDepth : Int} {q : Piece}

theorem isFlat_iff (he : 0 ≤ epsilon) : c.IsFlat tolerance epsilon q ↔
    |(c.middle q).cross (c.start q) (c.stop q)| ≤ tolerance * c.chord q ^ 2 ∧ epsilon < c.chord q := by
  refine and_congr_left fun hchord => ?_
  have hpositive : 0 < c.chord q := he.trans_lt hchord
  obtain ⟨-, hflatness⟩ :=
    (flatness_of_coversZero (coversZero_real he) (c.middle q) (c.start q) (c.stop q)).2 hchord.not_ge
  rw [hflatness]
  simp only [Except.ok.injEq, exists_eq_left']
  rw [div_div, ← sq]
  exact div_le_iff₀ (pow_pos hpositive 2)

/-- **The polyline honours its tolerance**, but for what a piece can swing out
across its chord or run past its ends. Three halvings leave little to swing
out with. -/
theorem isFollowed (c : Cubic ℝ) (tolerance : ℝ) (maxDepth : Int) (hmin : 3 ≤ minDepth) (he : 0 ≤ epsilon) :
    c.IsFollowed tolerance maxDepth minDepth epsilon (fun q u => c.swing q + c.overrun q u) ∧
    c.IsFollowed tolerance maxDepth minDepth epsilon
      (fun q u => √3 / 18432 * Point.origin.distance c.third + c.overrun q u) := by
  obtain ⟨t, ht⟩ := (Flattening.isSound_ofLimits tolerance maxDepth minDepth
    (coversZero_real he)).exists_subdivides c .unit
  have hnear : ∀ q ∈ t.pieces .unit, c.IsFlat tolerance epsilon q → ∀ u : ℝ, q.lo ≤ u → u ≤ q.hi →
      ∃ z : Point ℝ, z.IsOnPath (c.start q) (c.middle q) (c.stop q) ∧
        (c.point u).distance z ≤ tolerance * c.chord q + (c.swing q + c.overrun q u) := by
    intro q _ hflat u hlo hhi
    obtain ⟨hmiddle, hchord⟩ := (isFlat_iff he).1 hflat
    exact c.exists_near q (he.trans_lt hchord) hmiddle hlo hhi
  refine ⟨⟨t, ht, ht.flatten_eq, hnear⟩, t, ht, ht.flatten_eq, fun q hq hflat u hlo hhi => ?_⟩
  obtain ⟨z, hz, hle⟩ := hnear q hq hflat u hlo hhi
  have hlevel : 3 ≤ q.level := by
    have := (ht.levels q hq).1
    omega
  have hswing := c.swing_le q hlevel (he.trans_lt hflat.2)
  exact ⟨z, hz, by linarith⟩

/-- An arch swings out by no more than a five-hundredth. -/
theorem isFollowed_arch :
    let arch : Cubic ℝ := ⟨⟨0, 0⟩, ⟨0, 10⟩, ⟨10, 10⟩, ⟨10, 0⟩⟩
    (3 : Int) ≤ 3 ∧ (0 : ℝ) ≤ 1 / 10 ^ 12 ∧
    arch.IsFollowed (1 / 100) 10 3 (1 / 10 ^ 12) (fun q u => √3 / 18432 * 20 + arch.overrun q u) := by
  intro arch
  have hmin : (3 : Int) ≤ 3 := by decide
  have hepsilon : (0 : ℝ) ≤ 1 / 10 ^ 12 := by positivity
  have hthird : Point.origin.distance arch.third = 20 := by
    show √((_ - 0) ^ 2 + (_ - 0) ^ 2) = 20
    rw [Real.sqrt_eq_iff_mul_self_eq_of_pos (by norm_num)]
    norm_num [third, arch]
  have hfollowed := (arch.isFollowed (1 / 100) 10 hmin hepsilon).2
  rw [hthird] at hfollowed
  exact ⟨hmin, hepsilon, hfollowed⟩

end Cubic

/-! ## Tolerances that are missed -/

/-- From 0 to an eighth. -/
def Piece.eighth : Piece := Piece.unit.lower.lower.lower

theorem Piece.lo_eighth : (Piece.eighth.lo : ℝ) = 0 := by
  simp [Piece.eighth, Piece.unit, Piece.lower, Piece.lo]

theorem Piece.hi_eighth : (Piece.eighth.hi : ℝ) = 1 / 8 := by
  simp [Piece.eighth, Piece.unit, Piece.lower, Piece.hi]
  norm_num

namespace Cubic
variable {c : Cubic ℝ} {tolerance epsilon : ℝ} {maxDepth : Int}

theorem IsFlat.not_bends {q : Piece} (h : c.IsFlat tolerance epsilon q) : ¬c.Bends tolerance epsilon q := by
  obtain ⟨⟨d, hd, hle⟩, -⟩ := h
  rintro ⟨⟨d', hd', hlt⟩, -⟩
  rw [hd, Except.ok.injEq] at hd'
  linarith

/-- A flat first eighth is not halved again. -/
theorem IsFlat.eighth_mem_pieces (h : c.IsFlat tolerance epsilon .eighth) {t : Subdivision}
    (ht : (Flattening.ofLimits tolerance maxDepth 3 epsilon).Subdivides c .unit t) :
    Piece.eighth ∈ t.pieces .unit := by
  obtain ⟨_, t₁, rfl, hhalf, -⟩ := ht.exists_halved (by decide)
  obtain ⟨_, t₂, rfl, hquarter, -⟩ := hhalf.exists_halved (by decide)
  obtain ⟨_, t₃, rfl, hkept, -⟩ := hquarter.exists_halved (by decide)
  obtain rfl := hkept.eq_kept (by decide) h.not_bends
  exact List.mem_append_left _ (List.mem_append_left _ (List.mem_append_left _ List.mem_cons_self))

/-- The polyline of the first eighth lies on the axis, from the origin by way
of `a` to `b`. -/
structure IsLevel (c : Cubic ℝ) (a b : ℝ) : Prop where
  nonneg : 0 ≤ a
  le : a ≤ b
  start : c.start .eighth = ⟨0, 0⟩
  middle : c.middle .eighth = ⟨a, 0⟩
  stop : c.stop .eighth = ⟨b, 0⟩

namespace IsLevel
variable {a b : ℝ} (h : c.IsLevel a b)
include h

theorem chord_eq : c.chord .eighth = b := by
  rw [chord, h.start, h.stop, Point.distance_level (h.nonneg.trans h.le)]

theorem isFlat (htolerance : 0 ≤ tolerance) (he : 0 ≤ epsilon) (hb : epsilon < b) :
    c.IsFlat tolerance epsilon .eighth := by
  rw [isFlat_iff he, h.chord_eq, h.start, h.middle, h.stop]
  refine ⟨?_, hb⟩
  simp only [Point.cross, sub_zero, mul_zero, zero_mul, abs_zero]
  positivity

/-- It must be followed, so no point of it may be far from the axis. -/
theorem not_isFollowed (htolerance : 0 ≤ tolerance) (he : 0 ≤ epsilon) (hb : epsilon < b) {u : ℝ}
    (hu : 0 ≤ u) (hu' : u ≤ 1 / 8) {slack : Piece → ℝ → ℝ}
    (hfar : ∀ z : Point ℝ, z.y = 0 → z.x ≤ b →
      tolerance * b + slack .eighth u < (c.point u).distance z) :
    ¬c.IsFollowed tolerance maxDepth 3 epsilon slack := by
  rintro ⟨t, ht, -, hfollowed⟩
  have hflat := h.isFlat htolerance he hb
  rw [← Piece.lo_eighth] at hu
  rw [← Piece.hi_eighth] at hu'
  obtain ⟨z, hz, hle⟩ := hfollowed .eighth (hflat.eighth_mem_pieces ht) hflat u hu hu'
  rw [h.start, h.middle, h.stop] at hz
  obtain ⟨hy, hx⟩ := hz.level h.nonneg h.le
  rw [h.chord_eq] at hle
  exact (hfar z hy hx).not_ge hle

end IsLevel

/-- Its first eighth is S-shaped: it crosses its chord in the middle. -/
noncomputable def wiggle : Cubic ℝ := ⟨⟨0, 0⟩, ⟨8, 32⟩, ⟨16, -704⟩, ⟨24, 10080⟩⟩

/-- Its first eighth runs along a line and turns round, past the point where
it stops. -/
noncomputable def overshoot : Cubic ℝ := ⟨⟨0, 0⟩, ⟨192, 0⟩, ⟨-640, 0⟩, ⟨-2496, 0⟩⟩

theorem isLevel_wiggle : wiggle.IsLevel (3 / 2) 3 := by
  refine ⟨by norm_num, by norm_num, ?_, ?_, ?_⟩
  all_goals
    simp only [start_eq, middle_eq_point, stop_eq, Piece.lo_eighth, Piece.hi_eighth]
    exact Point.eq_of_coordinates (by norm_num [point_x, wiggle]) (by norm_num [point_y, wiggle])

theorem isLevel_overshoot : overshoot.IsLevel 24 24 := by
  refine ⟨by norm_num, by norm_num, ?_, ?_, ?_⟩
  all_goals
    simp only [start_eq, middle_eq_point, stop_eq, Piece.lo_eighth, Piece.hi_eighth]
    exact Point.eq_of_coordinates (by norm_num [point_x, overshoot]) (by norm_num [point_y, overshoot])

theorem point_wiggle : wiggle.point (1 / 32) = ⟨3 / 4, 9 / 8⟩ :=
  Point.eq_of_coordinates (by norm_num [point_x, wiggle]) (by norm_num [point_y, wiggle])

theorem point_overshoot : overshoot.point (3 / 32) = ⟨27, 0⟩ :=
  Point.eq_of_coordinates (by norm_num [point_x, overshoot]) (by norm_num [point_y, overshoot])

theorem overrun_wiggle : wiggle.overrun .eighth (1 / 32) = 0 := by
  rw [overrun, isLevel_wiggle.chord_eq, isLevel_wiggle.start, isLevel_wiggle.stop, point_wiggle]
  norm_num [Point.along]

theorem swing_overshoot : overshoot.swing .eighth = 0 := by
  have hthird : overshoot.thirdCross .eighth = 0 := by norm_num [thirdCross, third, overshoot]
  rw [swing, hthird, abs_zero, mul_zero, zero_div]

/-- A fiftieth of the chord of `wiggle` is less than it swings out, and a
fiftieth of that of `overshoot` is less than it runs past the end. Neither
allowance stands in for the other. -/
theorem not_isFollowed_exactly :
    ¬wiggle.IsFollowed (1 / 50) 4 3 (1 / 10 ^ 12) (fun _ _ => 0) ∧
    ¬wiggle.IsFollowed (1 / 50) 4 3 (1 / 10 ^ 12) wiggle.overrun ∧
    ¬overshoot.IsFollowed (1 / 50) 4 3 (1 / 10 ^ 12) (fun q _ => overshoot.swing q) := by
  have hout : ∀ z : Point ℝ, z.y = 0 → 9 / 8 ≤ (wiggle.point (1 / 32)).distance z := by
    intro z hy
    rw [point_wiggle]
    have hdistance := (abs_le.1 (Point.abs_sub_y_le ⟨3 / 4, 9 / 8⟩ z)).1
    simp only [hy] at hdistance
    linarith
  have hpast : ∀ z : Point ℝ, z.x ≤ 24 → 3 ≤ (overshoot.point (3 / 32)).distance z := by
    intro z hx
    rw [point_overshoot]
    have hdistance := (abs_le.1 (Point.abs_sub_x_le ⟨27, 0⟩ z)).1
    simp only at hdistance
    linarith
  have hepsilon : (0 : ℝ) ≤ 1 / 10 ^ 12 := by positivity
  refine ⟨isLevel_wiggle.not_isFollowed (u := 1 / 32) (by norm_num) hepsilon (by norm_num) (by norm_num)
      (by norm_num) fun z hy _ => (hout z hy).trans_lt' ?_,
    isLevel_wiggle.not_isFollowed (u := 1 / 32) (by norm_num) hepsilon (by norm_num) (by norm_num)
      (by norm_num) fun z hy _ => (hout z hy).trans_lt' ?_,
    isLevel_overshoot.not_isFollowed (u := 3 / 32) (by norm_num) hepsilon (by norm_num) (by norm_num)
      (by norm_num) fun z _ hx => (hpast z hx).trans_lt' ?_⟩
  · norm_num
  · rw [overrun_wiggle]
    norm_num
  · rw [swing_overshoot]
    norm_num

end Cubic
end PlotDigitizer
