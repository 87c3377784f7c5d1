/-
The polyline of a cubic of doubles.

Whatever the four points are, the polyline follows the pieces that the unit
interval is cut into (`Cubic.flatten_structure`). The parameters of its points
come out of halving doubles, which is exact for the first 53 halvings
(`parts_dyadic`): so far the parameters are those of the pieces.
-/
import PlotDigitizer.Proofs.Bezier.Subdivision
import PlotDigitizer.Proofs.Number.Exact

namespace PlotDigitizer

open Binary64 (parts value isFinite)

/-- Halving is exact as long as the parameters have 53 bits. -/
theorem parts_dyadic {level : Nat} (hlevel : level ≤ 53) {index : Nat} (hindex : index ≤ 2 ^ level) :
    ∃ m e, parts (dyadic level index : Float) = .finite false m e ∧ (m : ℚ) * 2 ^ e = index / 2 ^ level := by
  induction level generalizing index with
  | zero =>
    have hzero : parts (0 : Float) = .finite false 0 (-1074) := by decide +kernel
    have hone : parts (1 : Float) = .finite false (2 ^ 52) (-52) := by decide +kernel
    obtain rfl | rfl : index = 0 ∨ index = 1 := by omega
    · exact ⟨0, -1074, hzero, by norm_num⟩
    · exact ⟨2 ^ 52, -52, hone, by norm_num⟩
  | succ level ih =>
    rw [Nat.pow_succ] at hindex
    rcases Nat.even_or_odd' index with ⟨half, rfl | rfl⟩
    · obtain ⟨m, e, hparts, hvalue⟩ := ih (by omega) (show half ≤ 2 ^ level by omega)
      refine ⟨m, e, by rw [dyadic_even, hparts], ?_⟩
      rw [hvalue, pow_succ]
      push_cast
      field_simp
    · obtain ⟨m, e, hlo, hlo'⟩ := ih (by omega) (show half ≤ 2 ^ level by omega)
      obtain ⟨n, f, hhi, hhi'⟩ := ih (by omega) (show half + 1 ≤ 2 ^ level by omega)
      -- The sum of the two has one bit more than they have.
      have hbits : 2 * half + 1 < 2 ^ 53 :=
        (show 2 * half + 1 < 2 ^ (level + 1) by rw [Nat.pow_succ]; omega).trans_le
          (Nat.pow_le_pow_right (by decide) hlevel)
      obtain ⟨k, g, hk, hvalue, hsum, hhalf⟩ :=
        Binary64.exists_canonical (Nat.succ_pos (2 * half)) hbits (show level ≤ 1000 by omega)
      have hadd := Binary64.parts_add hlo hhi hsum hk (by
        rw [hlo', hhi', hvalue]
        push_cast
        ring)
      refine ⟨k, g - 1, by rw [dyadic_odd, Binary64.parts_half hadd hk hhalf], ?_⟩
      rw [zpow_sub_one₀ (by norm_num), ← mul_assoc, hvalue, pow_succ]
      push_cast
      field_simp

theorem isFinite_dyadic {level : Nat} (hlevel : level ≤ 53) {index : Nat} (hindex : index ≤ 2 ^ level) :
    isFinite (dyadic level index) = true ∧ value (dyadic level index) = index / 2 ^ level := by
  obtain ⟨m, e, hparts, hvalue⟩ := parts_dyadic hlevel hindex
  refine ⟨Binary64.isFinite_iff.2 ⟨false, m, e, hparts⟩, ?_⟩
  rw [Binary64.value_of_parts hparts, ← hvalue]
  rfl

/-- **The polyline of a cubic.** Every cubic of doubles is flattened, and its
polyline follows pieces that lie side by side from zero to one: it has of each
piece the point at its start, which for the first one is `p0` as it is given,
and the point at its middle; and then `p3`. The pieces come from at least as
many halvings as the settings ask for and no more than they allow, so their
count is bounded both ways, and the parameters of the points increase. A piece
that could have been halved once more does not bend, and one that was halved
although it need not have been does. The parameters of up to 52 halvings are
exact, those of the middles of their pieces included. -/
theorem Cubic.flatten_structure (c : Cubic Float) (tolerance : Float) (maxDepth minDepth : Int)
    {epsilon : Float} (he : 0 ≤ epsilon) :
    ∃ t : Subdivision,
      let pieces := t.pieces .unit
      let least := minDepth.toNat
      let greatest := max least maxDepth.toNat
      c.flatten (.ofLimits tolerance maxDepth minDepth epsilon) = .ok (c.polyline pieces) ∧
      Tiles 0 pieces 1 ∧
      (∀ q ∈ pieces, least ≤ q.level ∧ q.level ≤ greatest) ∧
      (c.polyline pieces).length = 2 * pieces.length + 1 ∧
      2 ^ least ≤ pieces.length ∧ pieces.length ≤ 2 ^ greatest ∧
      (Tiles.parameters pieces 1).Pairwise (· < ·) ∧
      (∀ q ∈ pieces, (q.level : Int) < maxDepth → ¬c.Bends tolerance epsilon q) ∧
      (∀ q ∈ t.cuts .unit, least ≤ q.level → c.Bends tolerance epsilon q ∧ (q.level : Int) < maxDepth) ∧
      ∀ q ∈ pieces,
        c.start q = (if q.index = 0 then c.p0 else c.point (dyadic q.level q.index)) ∧
        c.middle q = c.point (dyadic (q.level + 1) (2 * q.index + 1)) ∧
        (q.level ≤ 52 →
          isFinite (dyadic q.level q.index) = true ∧ value (dyadic q.level q.index) = q.lo ∧
          isFinite (dyadic (q.level + 1) (2 * q.index + 1)) = true ∧
          value (dyadic (q.level + 1) (2 * q.index + 1)) = q.mid) := by
  obtain ⟨t, ht⟩ := (Flattening.isSound_ofLimits tolerance maxDepth minDepth
    (coversZero_of_nonneg he)).exists_subdivides c .unit
  have htiles := t.tiles_unit
  obtain ⟨hlow, hhigh⟩ := htiles.length_bounds ht.levels
  refine ⟨t, ht.flatten_eq, htiles, ht.levels, c.length_polyline _, hlow, hhigh, htiles.pairwise_parameters,
    ht.not_bends, ht.bends, fun q _ => ⟨?_, ?_, fun hlevel => ?_⟩⟩
  · rw [Cubic.start, Cubic.vertex, if_neg (c := q.index = 2 ^ q.level) q.index_lt.ne]
  · rw [c.middle_eq, dyadic_odd]
  · obtain ⟨hstart, hlo⟩ := isFinite_dyadic (show q.level ≤ 53 by omega) q.index_lt.le
    have hindex : 2 * q.index + 1 ≤ 2 ^ (q.level + 1) := by
      have := q.index_lt
      rw [Nat.pow_succ]
      omega
    obtain ⟨hmiddle, hmid⟩ := isFinite_dyadic (show q.level + 1 ≤ 53 by omega) hindex
    refine ⟨hstart, hlo, hmiddle, hmid.trans ?_⟩
    rw [Piece.mid]
    push_cast
    rfl

/-- By the settings in force where none are given, an arch has the middles and
the starts of 8 to 1024 pieces, and its end. -/
theorem Cubic.flatten_arch :
    let arch : Cubic Float := ⟨⟨0, 0⟩, ⟨0, 10⟩, ⟨10, 10⟩, ⟨10, 0⟩⟩
    (0 : Float) ≤ 1e-12 ∧ ∃ t : Subdivision,
      arch.flatten (.ofLimits 0.01 10 3 1e-12) = .ok (arch.polyline (t.pieces .unit)) ∧
      Tiles 0 (t.pieces .unit) 1 ∧ 8 ≤ (t.pieces .unit).length ∧ (t.pieces .unit).length ≤ 1024 := by
  intro arch
  have hepsilon : (0 : Float) ≤ 1e-12 := by decide +kernel
  obtain ⟨t, hflatten, htiles, -, -, hlow, hhigh, -⟩ := arch.flatten_structure 0.01 10 3 hepsilon
  exact ⟨hepsilon, t, hflatten, htiles, hlow, hhigh⟩

end PlotDigitizer
