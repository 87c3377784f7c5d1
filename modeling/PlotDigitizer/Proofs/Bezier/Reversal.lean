/-
A cubic drawn the other way round, in exact arithmetic.

Flattening looks at a piece from its start: a piece that is kept leaves its
start and its middle behind, the deviation over a vanished chord is measured
from the start, and the end of the curve is added last. None of this shows in
the polyline. A piece is split exactly if its mirror image is
(`Cubic.bends_mirror`), so the tree of the curve drawn backwards is the mirror
image of the tree (`Flattening.Subdivides.mirror`), and of that the starts and
middles are the middles and stops of the pieces (`Cubic.points_mirror`). Hence
the polyline is the same, backwards (`Cubic.flatten_reversed`).
-/
import PlotDigitizer.Proofs.Bezier.Chord
import PlotDigitizer.Proofs.Bezier.Exact

namespace PlotDigitizer

/-! ## Mirror images -/

/-- The piece at the same place counted from the other end. -/
def Piece.mirror (q : Piece) : Piece :=
  ⟨q.level, 2 ^ q.level - 1 - q.index, by have := q.index_lt; omega⟩

namespace Piece

theorem mirror_unit : Piece.unit.mirror = .unit := rfl

theorem lower_mirror (q : Piece) : q.mirror.lower = q.upper.mirror := by
  have := q.index_lt
  simp only [mirror, lower, upper, mk.injEq, true_and, Nat.pow_succ]
  omega

theorem upper_mirror (q : Piece) : q.mirror.upper = q.lower.mirror := by
  have := q.index_lt
  simp only [mirror, lower, upper, mk.injEq, true_and, Nat.pow_succ]
  omega

end Piece

/-- The tree with the halves of every piece exchanged. -/
def Subdivision.mirror : Subdivision → Subdivision
  | kept => kept
  | halved l u => halved u.mirror l.mirror

/-- The curve drawn from its last point to its first. -/
def Cubic.reversed {α : Type} (c : Cubic α) : Cubic α := ⟨c.p3, c.p2, c.p1, c.p0⟩

namespace Cubic
variable (c : Cubic ℝ)

/-! ## Points of the curve drawn backwards -/

theorem point_reversed (u : ℝ) : c.reversed.point (1 - u) = c.point u := by
  refine Point.eq_of_coordinates ?_ ?_
  · simp only [point_x, reversed]
    ring
  · simp only [point_y, reversed]
    ring

theorem vertex_reversed {level index mirrored : Nat} (h : mirrored + index = 2 ^ level) :
    c.reversed.vertex level mirrored = c.vertex level index := by
  have hsum : (mirrored : ℝ) + index = 2 ^ level := by exact_mod_cast h
  have hpos : (2 : ℝ) ^ level ≠ 0 := by positivity
  have hparameter : (mirrored : ℝ) / 2 ^ level = 1 - index / 2 ^ level := by
    field_simp
    linarith
  rw [vertex_eq _ (by omega), vertex_eq _ (by omega), hparameter, point_reversed]

theorem start_mirror (q : Piece) : c.reversed.start q.mirror = c.stop q := by
  have := q.index_lt
  exact c.vertex_reversed (by simp only [Piece.mirror]; omega)

theorem stop_mirror (q : Piece) : c.reversed.stop q.mirror = c.start q := by
  have := q.index_lt
  exact c.vertex_reversed (by simp only [Piece.mirror]; omega)

theorem middle_mirror (q : Piece) : c.reversed.middle q.mirror = c.middle q := by
  have := q.index_lt
  exact c.vertex_reversed (by simp only [Piece.mirror, Nat.pow_succ]; omega)

/-- What a mirrored piece leaves behind, and the end it leaves to the next one,
are what the piece leaves behind and its end, backwards. -/
theorem points_mirror (t : Subdivision) (q : Piece) :
    (t.mirror.pieces q.mirror).flatMap (fun r => [c.reversed.start r, c.reversed.middle r]) ++ [c.start q]
      = ((t.pieces q).flatMap (fun r => [c.start r, c.middle r]) ++ [c.stop q]).reverse := by
  induction t generalizing q with
  | kept =>
    simp only [Subdivision.mirror, Subdivision.pieces, List.flatMap_singleton]
    rw [start_mirror, middle_mirror]
    rfl
  | halved l u ihl ihu =>
    have hl := ihl q.lower
    have hu := ihu q.upper
    -- The halves meet in the middle, which each of them has once.
    rw [c.start_lower, c.stop_lower] at hl
    rw [c.start_upper, c.stop_upper] at hu
    simp only [Subdivision.mirror, Subdivision.pieces, Piece.lower_mirror, Piece.upper_mirror,
      List.flatMap_append]
    rw [List.append_assoc, hl, List.reverse_concat, List.append_cons, hu, ← List.reverse_append,
      ← List.append_assoc]

theorem polyline_mirror (t : Subdivision) :
    c.reversed.polyline (t.mirror.pieces .unit) = (c.polyline (t.pieces .unit)).reverse := by
  have hstart : c.start .unit = c.reversed.p3 := by simp [start, vertex, Piece.unit, reversed]
  have hstop : c.stop .unit = c.p3 := by simp [stop, vertex, Piece.unit]
  have h := c.points_mirror t .unit
  rwa [Piece.mirror_unit, hstart, hstop] at h

/-! ## Pieces that bend -/

/-- A chord that has not vanished looks the same from both ends. -/
theorem flatness_comm {epsilon : ℝ} (he : 0 ≤ epsilon) {start stop : Point ℝ}
    (hchord : epsilon < start.distance stop) (mid : Point ℝ) :
    flatness epsilon mid stop start = flatness epsilon mid start stop := by
  have hchord' : epsilon < stop.distance start := Point.distance_comm start stop ▸ hchord
  rw [((flatness_of_coversZero (coversZero_real he) mid stop start).2 hchord'.not_ge).2,
    ((flatness_of_coversZero (coversZero_real he) mid start stop).2 hchord.not_ge).2,
    Point.distance_comm stop, Point.cross_comm]
  show Except.ok (|(-_ : ℝ)| / _ / _) = Except.ok (|_| / _ / _)
  rw [abs_neg]

variable {tolerance epsilon : ℝ}

/-- A piece bends exactly if its mirror image does: where the deviations from
the two ends differ the chord has vanished, and then neither bends. -/
theorem bends_mirror (he : 0 ≤ epsilon) (q : Piece) :
    c.reversed.Bends tolerance epsilon q.mirror ↔ c.Bends tolerance epsilon q := by
  simp only [Bends, start_mirror, stop_mirror, middle_mirror, Point.distance_comm (c.stop q)]
  refine and_congr_left fun hchord => ?_
  rw [flatness_comm he hchord]

end Cubic

/-! ## The tree, and the polyline -/

variable {c : Cubic ℝ} {tolerance epsilon : ℝ} {maxDepth minDepth : Int}

theorem Flattening.splitsPiece_mirror (he : 0 ≤ epsilon) {q : Piece} {b : Bool}
    (h : (ofLimits tolerance maxDepth minDepth epsilon).splitsPiece c q = .ok b) :
    (ofLimits tolerance maxDepth minDepth epsilon).splitsPiece c.reversed q.mirror = .ok b := by
  obtain ⟨b', h'⟩ := (isSound_ofLimits tolerance maxDepth minDepth (coversZero_real he)).exists_splits
    q.mirror.level (c.reversed.middle q.mirror) (c.reversed.start q.mirror) (c.reversed.stop q.mirror)
  have hiff : b' = true ↔ b = true := by
    rw [splitsPiece_ofLimits h, splitsPiece_ofLimits h', c.bends_mirror he]
    rfl
  rwa [Bool.eq_iff_iff.2 hiff] at h'

/-- The curve drawn backwards is cut up like the curve, backwards. -/
theorem Flattening.Subdivides.mirror (he : 0 ≤ epsilon) {q : Piece} {t : Subdivision}
    (h : (ofLimits tolerance maxDepth minDepth epsilon).Subdivides c q t) :
    (ofLimits tolerance maxDepth minDepth epsilon).Subdivides c.reversed q.mirror t.mirror := by
  induction h with
  | kept h => exact .kept (splitsPiece_mirror he h)
  | halved h _ _ ihl ihu =>
    refine .halved (splitsPiece_mirror he h) ?_ ?_
    · rw [Piece.lower_mirror]
      exact ihu
    · rw [Piece.upper_mirror]
      exact ihl

/-- **Either way the same polyline.** Every cubic is flattened, and drawn from
its last point to its first it has the same polyline, backwards: whatever the
tolerance and the depth limits are, and also where chords vanish, as those of
loops do. -/
theorem Cubic.flatten_reversed (c : Cubic ℝ) (tolerance : ℝ) (maxDepth minDepth : Int) (he : 0 ≤ epsilon) :
    ∃ ps, c.flatten (.ofLimits tolerance maxDepth minDepth epsilon) = .ok ps ∧
      c.reversed.flatten (.ofLimits tolerance maxDepth minDepth epsilon) = .ok ps.reverse := by
  obtain ⟨t, ht⟩ := (Flattening.isSound_ofLimits tolerance maxDepth minDepth
    (coversZero_real he)).exists_subdivides c .unit
  have hmirror := ht.mirror he
  rw [Piece.mirror_unit] at hmirror
  refine ⟨_, ht.flatten_eq, ?_⟩
  rw [hmirror.flatten_eq, c.polyline_mirror]

/-- A loop, whose chord vanishes as a whole. It is lopsided, so that the curve
backwards is another one. -/
noncomputable def Cubic.lopsidedLoop : Cubic ℝ := ⟨⟨0, 0⟩, ⟨1, 0⟩, ⟨-1, 1⟩, ⟨0, 0⟩⟩

theorem Cubic.flatten_reversed_lopsidedLoop :
    (0 : ℝ) ≤ 1 / 10 ^ 12 ∧ lopsidedLoop.reversed ≠ lopsidedLoop ∧
    ∃ ps, lopsidedLoop.flatten (.ofLimits (1 / 100) 10 0 (1 / 10 ^ 12)) = .ok ps ∧
      lopsidedLoop.reversed.flatten (.ofLimits (1 / 100) 10 0 (1 / 10 ^ 12)) = .ok ps.reverse := by
  have hepsilon : (0 : ℝ) ≤ 1 / 10 ^ 12 := by positivity
  have hne : lopsidedLoop.reversed ≠ lopsidedLoop := by
    simp [lopsidedLoop, reversed]
  exact ⟨hepsilon, hne, lopsidedLoop.flatten_reversed (1 / 100) 10 0 hepsilon⟩

end PlotDigitizer
