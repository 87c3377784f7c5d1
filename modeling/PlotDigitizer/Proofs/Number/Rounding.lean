/-
Rounding in the model of doubles.

An operation on doubles computes a mantissa and an exponent, with what it cut
off, and rounds them onto the doubles. The first rounding decides
(`roundWithAccuracy_eq`), and the result packs as a finite double exactly if
the number that was rounded is below the threshold of overflow
(`packs_iff_lt_overflow`). A mantissa is counted in halves of its unit here,
the round bit being one: a half unit is all that rounding to the nearest asks
for.
-/
import Mathlib
import PlotDigitizer.Number.Binary64

namespace PlotDigitizer.Binary64

open Float.Model (Format UnpackedFloat totalExponent)
open Float.Model.UnpackedFloat

/-! ## Half units -/

/-- A mantissa with its round bit, as a number of half units. -/
def halfUnits (em : ExtendedMantissa) : Nat := 2 * em.mantissa + em.roundBit.toNat

theorem halfUnits_exact (m : Nat) : halfUnits (.ofMantissaAndAccuracy m .exact) = 2 * m := rfl

theorem halfUnits_ofMantissaAndAccuracy (m : Nat) (a : Accuracy) :
    halfUnits (.ofMantissaAndAccuracy m a) / 2 = m := by
  match a with
  | .exact | .inexact .lt | .inexact .eq | .inexact .gt =>
    simp only [halfUnits, ExtendedMantissa.ofMantissaAndAccuracy, Bool.toNat_true, Bool.toNat_false]
    omega

theorem halfUnits_shiftRight (em : ExtendedMantissa) (k : Nat) : halfUnits (em >>> k) = halfUnits em / 2 ^ k := by
  induction k with
  | zero => exact (Nat.div_one _).symm
  | succ k ih =>
    have hshift : halfUnits (em >>> (k + 1)) = (em >>> k).mantissa := by
      have hmod := Nat.mod_two_eq_zero_or_one (em >>> k).mantissa
      show 2 * ((em >>> k).mantissa / 2) + ((em >>> k).mantissa % 2 != 0).toNat = _
      rcases hmod with h | h <;> simp [h] <;> omega
    have hdiv : halfUnits (em >>> k) / 2 = (em >>> k).mantissa := by
      have := Bool.toNat_lt (em >>> k).roundBit
      rw [halfUnits]
      omega
    rw [hshift, ← hdiv, ih, Nat.div_div_eq_div_mul, pow_succ]

/-- A quotient with what is left over has the half units of twice the number. -/
theorem halfUnits_accuracyOfFraction (q : Nat) {r d : Nat} (hr : r < d) :
    halfUnits (.ofMantissaAndAccuracy q (accuracyOfFraction r d)) = 2 * (d * q + r) / d := by
  have hd : 0 < d := by omega
  rw [Nat.mul_add, Nat.mul_left_comm, Nat.mul_add_div hd, accuracyOfFraction]
  split
  · rename_i h
    simp [h, halfUnits, ExtendedMantissa.ofMantissaAndAccuracy]
  · rcases lt_trichotomy (2 * r) d with h | h | h
    · rw [compare_lt_iff_lt.2 h, Nat.div_eq_of_lt h]
      rfl
    · rw [compare_eq_iff_eq.2 h, h, Nat.div_self hd]
      rfl
    · have hone : 2 * r / d = 1 := Nat.div_eq_of_lt_le (by omega) (by omega)
      rw [compare_gt_iff_gt.2 h, hone]
      rfl

/-- Rounding reaches an even number from half a unit below it on. -/
theorem le_roundedMantissa_iff (em : ExtendedMantissa) {n : Nat} (hn : n % 2 = 0) :
    n ≤ em.roundedMantissa ↔ 2 * n ≤ halfUnits em + 1 := by
  obtain ⟨m, r, s⟩ := em
  cases r <;> cases s <;>
    simp only [ExtendedMantissa.roundedMantissa, ExtendedMantissa.accuracy,
      Accuracy.roundToNearestEven, halfUnits, Bool.toNat_true, Bool.toNat_false] <;>
    omega

theorem roundedMantissa_le (em : ExtendedMantissa) : em.roundedMantissa ≤ halfUnits em / 2 + 1 := by
  obtain ⟨m, r, s⟩ := em
  cases r <;> cases s <;>
    simp only [ExtendedMantissa.roundedMantissa, ExtendedMantissa.accuracy,
      Accuracy.roundToNearestEven, halfUnits, Bool.toNat_true, Bool.toNat_false] <;>
    omega

/-! ## The first rounding -/

/-- The exponent that a mantissa is brought to. -/
def target (m : Nat) (e : Int) : Int := max (m.log2 + e - 52) (-1074)

theorem targetExponent_eq (m : Nat) (e : Int) :
    Format.binary64.targetExponent (totalExponent m e) = target m e := by
  simp only [Format.targetExponent, totalExponent, Format.mantissaBits, Format.minExponent, target]
  omega

/-- A mantissa rounded at the exponent that it is brought to. -/
def rounded (m : Nat) (e : Int) (a : Accuracy) : Nat :=
  (ExtendedMantissa.ofMantissaAndAccuracy m a >>> (target m e - e).toNat).roundedMantissa

theorem rounded_le (m : Nat) (e : Int) (a : Accuracy) : rounded m e a ≤ 2 ^ 53 := by
  have hlog : m < 2 ^ 53 * 2 ^ (target m e - e).toNat := by
    rw [← pow_add]
    refine lt_of_lt_of_le Nat.lt_log2_self (Nat.pow_le_pow_right (by decide) ?_)
    simp only [target]
    omega
  have hfloor := Nat.div_lt_of_lt_mul (Nat.mul_comm _ _ ▸ hlog)
  have hle := roundedMantissa_le (ExtendedMantissa.ofMantissaAndAccuracy m a >>> (target m e - e).toNat)
  rw [halfUnits_shiftRight, Nat.div_right_comm, halfUnits_ofMantissaAndAccuracy] at hle
  exact hle.trans hfloor

/-- The first rounding decides: its mantissa fits, or is a power of two that
goes with the next exponent. -/
theorem roundWithAccuracy_eq {m : Nat} {e : Int} (he : e ≤ target m e) (s : Sign) (a : Accuracy) :
    roundWithAccuracy .binary64 s m e a =
      if h : rounded m e a = 0 then .zero s
      else if rounded m e a < 2 ^ 53 then .finite s (rounded m e a) (target m e) (Nat.pos_of_ne_zero h)
      else .finite s (2 ^ 52) (target m e + 1) (by decide) := by
  have hfirst : e + ((target m e - e).toNat : Int) = target m e := by omega
  rw [roundWithAccuracy]
  simp only [shiftToTargetExponent, shiftToExponent, targetExponent_eq, hfirst, ← rounded.eq_1]
  by_cases hlt : rounded m e a < 2 ^ 53
  · have hlog : (rounded m e a).log2 ≤ 52 := by
      by_cases hzero : rounded m e a = 0
      · rw [hzero]
        decide
      · have := (Nat.log2_lt hzero).2 hlt
        omega
    have hshift : (target (rounded m e a) (target m e) - target m e).toNat = 0 := by
      simp only [target]
      omega
    simp only [hshift, hlt, if_true, Nat.cast_zero, add_zero]
    rfl
  · have heq : rounded m e a = 2 ^ 53 := (rounded_le m e a).antisymm (not_lt.1 hlt)
    have hshift : (target (2 ^ 53) (target m e) - target m e).toNat = 1 := by
      simp only [target, Nat.log2_two_pow]
      omega
    simp only [heq, hshift]
    rfl

/-! ## Packing -/

/-- Packing makes a finite double of it. -/
def Packs : UnpackedFloat → Prop
  | .zero _ => True
  | .finite _ _ e _ => e ≤ 971
  | .infinity _ | .notANumber => False

theorem packs_roundWithAccuracy {m : Nat} {e : Int} (he : e ≤ target m e) (s : Sign) (a : Accuracy) :
    Packs (roundWithAccuracy .binary64 s m e a) ↔ rounded m e a = 0 ∨ target m e ≤ 970 ∨
      (target m e = 971 ∧ rounded m e a < 2 ^ 53) := by
  rw [roundWithAccuracy_eq he]
  split
  · rename_i h
    simp [Packs, h]
  · rename_i h
    split
    · rename_i hlt
      simp only [Packs, h, hlt, and_true, false_or]
      omega
    · rename_i hlt
      simp only [Packs, h, hlt, and_false, or_false, false_or]
      omega

theorem isFinite_unpack_iff (b : BitVec 64) :
    (unpack .binary64 b).isFinite = true ↔ @unpackExponent .binary64 b ≠ -1#11 := by
  simp only [unpack]
  split
  · rename_i h
    simp only [h, ne_eq, not_true, iff_false]
    split <;> simp [UnpackedFloat.isFinite]
  · rename_i h
    simp only [ne_eq, h, not_false_eq_true, iff_true]
    split
    · split <;> rfl
    · rfl

theorem isFinite_unpack_pack_iff (u : UnpackedFloat) :
    (unpack .binary64 (pack .binary64 u)).isFinite = true ↔ Packs u := by
  rw [isFinite_unpack_iff]
  cases u with
  | notANumber => simp [Packs, pack, packedNaN]
  | infinity s => simp [Packs, pack, packedInfinity]
  | zero s => simp [Packs, pack, packedZero]
  | finite s m e hm =>
    have hbiased : 2 ^ 11 ≤ (e + ((2 ^ (11 - 1) - 1 : Nat) : Int) + (52 : Nat)).toNat + 1 ↔ 972 ≤ e := by
      norm_num
      omega
    simp only [Packs, pack, Format.exponentBias, hbiased]
    by_cases hbig : 972 ≤ e
    · simp only [hbig, if_true, packedInfinity, unpackExponent_packComponents]
      simp only [ne_eq, not_true, false_iff]
      omega
    · have hsmall : e ≤ 971 := by omega
      simp only [hbig, if_false, hsmall, iff_true]
      split
      · rw [unpackExponent_packComponents, ne_eq, ← BitVec.toNat_inj]
        intro h
        have hlt : (e + ((2 ^ (11 - 1) - 1 : Nat) : Int) + (52 : Nat)).toNat < 2047 := by
          norm_num
          omega
        have hall : (-1#11).toNat = 2047 := rfl
        rw [BitVec.toNat_ofNat, Nat.mod_eq_of_lt (hlt.trans (by decide)), hall] at h
        omega
      · rw [unpackExponent_packComponents]
        decide

/-! ## Overflow -/

theorem two_zpow_pos (e : Int) : (0 : ℚ) < 2 ^ e := zpow_pos (by norm_num) e

theorem two_zpow_le {e f : Int} (h : e ≤ f) : (2 : ℚ) ^ e ≤ 2 ^ f := zpow_le_zpow_right₀ (by norm_num) h

theorem two_zpow_add (e f : Int) : (2 : ℚ) ^ (e + f) = 2 ^ e * 2 ^ f := zpow_add₀ (by norm_num) e f

/-- The least number that rounds to infinity: halfway from the greatest double
to the next power of two. -/
def overflow : ℚ := 2 ^ 1024 - 2 ^ 970

/-- It has this many half units of the greatest double. -/
theorem overflow_eq : overflow = (2 ^ 54 - 1) * 2 ^ (970 : Int) := by
  have hpow : (2 : ℚ) ^ (970 : Int) = 2 ^ 970 := zpow_natCast 2 970
  rw [overflow, hpow, sub_mul, one_mul, ← pow_add]

theorem overflow_pos : 0 < overflow := by
  rw [overflow_eq]
  exact mul_pos (by norm_num) (two_zpow_pos _)

section
variable {m : Nat} {e : Int} {a : Accuracy} {v : ℚ}

theorem lt_overflow_of_target_lt (ht : target m e < 971)
    (hlt : v < (halfUnits (.ofMantissaAndAccuracy m a) + 1) * 2 ^ (e - 1)) : v < overflow := by
  have hhalves := halfUnits_ofMantissaAndAccuracy m a
  have hmant : (halfUnits (.ofMantissaAndAccuracy m a) : ℚ) + 1 ≤ 2 ^ ((m.log2 : Int) + 2) := by
    have hnat : halfUnits (.ofMantissaAndAccuracy m a) + 1 ≤ 2 ^ (m.log2 + 2) := by
      have := Nat.lt_log2_self (n := m)
      rw [pow_succ]
      omega
    exact_mod_cast hnat
  calc v < (halfUnits (.ofMantissaAndAccuracy m a) + 1) * 2 ^ (e - 1) := hlt
    _ ≤ 2 ^ ((m.log2 : Int) + 2) * 2 ^ (e - 1) := mul_le_mul_of_nonneg_right hmant (two_zpow_pos _).le
    _ = 2 ^ ((m.log2 : Int) + 2 + (e - 1)) := (two_zpow_add _ _).symm
    _ ≤ 2 ^ ((53 : Int) + 970) := two_zpow_le (by simp only [target] at ht; omega)
    _ = 2 ^ (53 : Int) * 2 ^ (970 : Int) := two_zpow_add _ _
    _ < overflow := by
      rw [overflow_eq]
      exact mul_lt_mul_of_pos_right (by norm_num) (two_zpow_pos _)

/-- At the greatest exponent, the mantissa overflows as the number does. -/
theorem rounded_lt_iff (he : e ≤ target m e) (ht : target m e = 971)
    (hle : (halfUnits (.ofMantissaAndAccuracy m a) : ℚ) * 2 ^ (e - 1) ≤ v)
    (hlt : v < (halfUnits (.ofMantissaAndAccuracy m a) + 1) * 2 ^ (e - 1)) :
    rounded m e a < 2 ^ 53 ↔ v < overflow := by
  have hreach : 2 ^ 53 ≤ rounded m e a ↔
      (2 ^ 54 - 1) * 2 ^ (target m e - e).toNat ≤ halfUnits (.ofMantissaAndAccuracy m a) := by
    rw [rounded, le_roundedMantissa_iff _ (by decide), halfUnits_shiftRight,
      ← Nat.le_div_iff_mul_le (Nat.two_pow_pos (target m e - e).toNat)]
    omega
  have hexp : e - 1 + ((target m e - e).toNat : Int) = 970 := by omega
  have hover : overflow = ((2 ^ 54 - 1) * 2 ^ (target m e - e).toNat : Nat) * (2 : ℚ) ^ (e - 1) := by
    rw [overflow_eq, ← hexp, two_zpow_add, zpow_natCast]
    push_cast
    ring
  have hunit := two_zpow_pos (e - 1)
  rw [← not_le, hreach, not_le, hover]
  constructor
  · intro h
    have hcast : (halfUnits (.ofMantissaAndAccuracy m a) : ℚ) + 1
        ≤ ((2 ^ 54 - 1) * 2 ^ (target m e - e).toNat : Nat) := by exact_mod_cast h
    exact hlt.trans_le (mul_le_mul_of_nonneg_right hcast hunit.le)
  · intro h
    exact_mod_cast lt_of_mul_lt_mul_right (hle.trans_lt h) hunit.le

/-- Above the greatest exponent the mantissa has all its 53 bits. -/
theorem log2_add_of_target_gt (ht : 971 < target m e) : (m.log2 : Int) + e = target m e + 52 := by
  simp only [target] at ht ⊢
  omega

theorem rounded_ne_zero (he : e ≤ target m e) (ht : 971 < target m e) (hm : m ≠ 0) :
    rounded m e a ≠ 0 := by
  have hhalves := halfUnits_ofMantissaAndAccuracy m a
  have hlog := log2_add_of_target_gt ht
  have hexp : m.log2 = 52 + (target m e - e).toNat := by omega
  have hbits : 2 ^ m.log2 ≤ m := Nat.log2_self_le hm
  rw [hexp, pow_add] at hbits
  have hdiv : 2 ^ 53 ≤ halfUnits (.ofMantissaAndAccuracy m a) / 2 ^ (target m e - e).toNat := by
    rw [Nat.le_div_iff_mul_le (Nat.two_pow_pos _)]
    omega
  have hkeep : 2 ^ 52 ≤ rounded m e a := by
    rw [rounded, le_roundedMantissa_iff _ (by decide), halfUnits_shiftRight]
    omega
  omega

theorem overflow_le_of_target_gt (ht : 971 < target m e) (hm : m ≠ 0)
    (hle : (halfUnits (.ofMantissaAndAccuracy m a) : ℚ) * 2 ^ (e - 1) ≤ v) : overflow ≤ v := by
  have hhalves := halfUnits_ofMantissaAndAccuracy m a
  have hbits : 2 ^ m.log2 ≤ m := Nat.log2_self_le hm
  have hlog := log2_add_of_target_gt ht
  have hmant : (2 : ℚ) ^ ((m.log2 : Int) + 1) ≤ halfUnits (.ofMantissaAndAccuracy m a) := by
    have hnat : 2 ^ (m.log2 + 1) ≤ halfUnits (.ofMantissaAndAccuracy m a) := by
      rw [pow_succ]
      omega
    exact_mod_cast hnat
  calc overflow ≤ 2 ^ (54 : Int) * 2 ^ (970 : Int) := by
        rw [overflow_eq]
        exact mul_le_mul_of_nonneg_right (by norm_num) (two_zpow_pos _).le
    _ = 2 ^ ((54 : Int) + 970) := (two_zpow_add _ _).symm
    _ ≤ 2 ^ ((m.log2 : Int) + 1 + (e - 1)) := two_zpow_le (by omega)
    _ = 2 ^ ((m.log2 : Int) + 1) * 2 ^ (e - 1) := two_zpow_add _ _
    _ ≤ halfUnits (.ofMantissaAndAccuracy m a) * 2 ^ (e - 1) :=
      mul_le_mul_of_nonneg_right hmant (two_zpow_pos _).le
    _ ≤ v := hle

/-- **What is rounded overflows from the threshold on.** A number that is
known to half a unit packs, rounded, exactly if it is below. -/
theorem packs_iff_lt_overflow (he : e ≤ target m e) (s : Sign)
    (hle : (halfUnits (.ofMantissaAndAccuracy m a) : ℚ) * 2 ^ (e - 1) ≤ v)
    (hlt : v < (halfUnits (.ofMantissaAndAccuracy m a) + 1) * 2 ^ (e - 1)) :
    Packs (roundWithAccuracy .binary64 s m e a) ↔ v < overflow := by
  rw [packs_roundWithAccuracy he]
  rcases lt_trichotomy (target m e) 971 with ht | ht | ht
  · exact iff_of_true (.inr (.inl (by omega))) (lt_overflow_of_target_lt ht hlt)
  · rw [← rounded_lt_iff he ht hle hlt]
    omega
  · -- No mantissa, no exponent above the greatest.
    have hm : m ≠ 0 := by
      rintro rfl
      simp only [target, Nat.log2_zero] at he ht
      omega
    have hzero : rounded m e a ≠ 0 := rounded_ne_zero he ht hm
    exact iff_of_false (by omega) (not_lt.2 (overflow_le_of_target_gt ht hm hle))

end

theorem packs_exact_iff {m : Nat} {e : Int} (he : e ≤ target m e) (s : Sign) :
    Packs (roundWithAccuracy .binary64 s m e .exact) ↔ (m : ℚ) * 2 ^ e < overflow := by
  have hv : ((2 * m : Nat) : ℚ) * 2 ^ (e - 1) = m * 2 ^ e := by
    rw [zpow_sub_one₀ (by norm_num)]
    push_cast
    ring
  have hunit := two_zpow_pos (e - 1)
  refine packs_iff_lt_overflow he s ?_ ?_
  · rw [halfUnits_exact, hv]
  · rw [halfUnits_exact, add_one_mul, hv]
    linarith

theorem log2_mul_two_pow {m : Nat} (hm : 0 < m) (d : Nat) : (m * 2 ^ d).log2 = m.log2 + d := by
  have hself := Nat.log2_self_le hm.ne'
  have hlt := Nat.lt_log2_self (n := m)
  rw [Nat.log2_eq_iff (by positivity), pow_add, Nat.add_right_comm, pow_add]
  exact ⟨Nat.mul_le_mul_right _ hself, Nat.mul_lt_mul_of_pos_right hlt (Nat.two_pow_pos d)⟩

theorem packs_round_iff {m : Nat} (hm : 0 < m) (e : Int) (s : Sign) :
    Packs (UnpackedFloat.round .binary64 s m e) ↔ (m : ℚ) * 2 ^ e < overflow := by
  simp only [UnpackedFloat.round, decreaseExponent, targetExponent_eq]
  generalize hk : (e - target m e).toNat = k
  have hlog : (m <<< k).log2 = m.log2 + k := by rw [Nat.shiftLeft_eq, log2_mul_two_pow hm]
  have htarget : target (m <<< k) (e - k) = target m e := by
    simp only [target, hlog]
    omega
  have hv : ((m <<< k : Nat) : ℚ) * 2 ^ (e - k) = m * 2 ^ e := by
    rw [Nat.shiftLeft_eq, zpow_sub₀ (by norm_num), zpow_natCast]
    push_cast
    rw [mul_assoc, mul_div_cancel₀ _ (by positivity)]
  rw [packs_exact_iff (by omega), hv]

theorem packs_normalize_iff (n : Int) (e : Int) (s : Sign) :
    Packs (UnpackedFloat.normalize .binary64 n e s) ↔ |(n : ℚ) * 2 ^ e| < overflow := by
  have hv : |(n : ℚ) * 2 ^ e| = (n.natAbs : ℚ) * 2 ^ e := by
    rw [abs_mul, abs_of_pos (two_zpow_pos e), Nat.cast_natAbs, Int.cast_abs]
  rw [UnpackedFloat.normalize, hv]
  split
  · rename_i h
    have hn : n < 0 := compare_lt_iff_lt.1 h
    have habs : (-n).toNat = n.natAbs := by omega
    rw [habs, packs_round_iff (by omega)]
  · rename_i h
    have hn : n = 0 := compare_eq_iff_eq.1 h
    simp [Packs, hn, overflow_pos]
  · rename_i h
    have hn : 0 < n := compare_gt_iff_gt.1 h
    have habs : n.toNat = n.natAbs := by omega
    rw [habs, packs_round_iff (by omega)]

/-- The mantissa of a quotient has enough bits to be rounded. -/
theorem le_target_div {m n k : Nat} {g : Int} (hm : 0 < m) (hn : 0 < n)
    (h : g ≤ -1074 ∨ 53 + n.log2 ≤ m.log2 + k) : g ≤ target (m * 2 ^ k / n) g := by
  rcases h with hlow | hbits
  · simp only [target]
    omega
  · have hlong : 2 ^ 52 ≤ m * 2 ^ k / n := by
      rw [Nat.le_div_iff_mul_le hn]
      calc 2 ^ 52 * n ≤ 2 ^ 52 * 2 ^ (n.log2 + 1) := Nat.mul_le_mul_left _ Nat.lt_log2_self.le
        _ = 2 ^ (52 + (n.log2 + 1)) := (pow_add 2 _ _).symm
        _ ≤ 2 ^ (m.log2 + k) := Nat.pow_le_pow_right (by decide) (by omega)
        _ = 2 ^ m.log2 * 2 ^ k := pow_add 2 _ _
        _ ≤ m * 2 ^ k := Nat.mul_le_mul_right _ (Nat.log2_self_le hm.ne')
    have hlog : 52 ≤ (m * 2 ^ k / n).log2 := (Nat.le_log2 (by omega)).2 hlong
    simp only [target]
    omega

theorem packs_div_iff (s t : Sign) {m n : Nat} (e f : Int) (hm : 0 < m) (hn : 0 < n) :
    Packs (div .binary64 (.finite s m e hm) (.finite t n f hn)) ↔
      (m : ℚ) * 2 ^ e / (n * 2 ^ f) < overflow := by
  have hcore : Format.binary64.targetExponent (totalExponent m e - totalExponent n f)
      = max (m.log2 + e - n.log2 - f - 53) (-1074) := by
    simp only [Format.targetExponent, totalExponent, Format.mantissaBits, Format.minExponent]
    omega
  simp only [div, divCore, hcore]
  generalize hexp : min (e - f) (max (m.log2 + e - n.log2 - f - 53) (-1074)) = g
  generalize hshift : (e - f - g).toNat = k
  have hsum : e - f = g + k := by omega
  rw [Nat.shiftLeft_eq]
  have hhalves := halfUnits_accuracyOfFraction (m * 2 ^ k / n) (Nat.mod_lt (m * 2 ^ k) hn)
  rw [Nat.div_add_mod] at hhalves
  have hvalue : (m : ℚ) * 2 ^ e / (n * 2 ^ f) = ((2 * (m * 2 ^ k) : Nat) : ℚ) / n * 2 ^ (g - 1) := by
    have he : (2 : ℚ) ^ e = 2 ^ f * (2 ^ g * 2 ^ k) := by
      rw [← zpow_natCast, ← two_zpow_add, ← two_zpow_add, ← hsum, add_sub_cancel]
    rw [he, zpow_sub_one₀ (by norm_num)]
    push_cast
    field_simp
  have hn' : (0 : ℚ) < n := Nat.cast_pos.2 hn
  rw [hvalue]
  refine packs_iff_lt_overflow (le_target_div hm hn (by omega)) _ ?_ ?_
  · have hle : 2 * (m * 2 ^ k) / n * n ≤ 2 * (m * 2 ^ k) := Nat.div_mul_le_self _ _
    rw [hhalves]
    refine mul_le_mul_of_nonneg_right ((le_div_iff₀ hn').2 ?_) (two_zpow_pos _).le
    exact_mod_cast hle
  · have hlt : 2 * (m * 2 ^ k) < (2 * (m * 2 ^ k) / n + 1) * n :=
      (Nat.div_lt_iff_lt_mul hn).1 (Nat.lt_succ_self _)
    rw [hhalves]
    refine mul_lt_mul_of_pos_right ((div_lt_iff₀ hn').2 ?_) (two_zpow_pos _)
    exact_mod_cast hlt

end PlotDigitizer.Binary64
