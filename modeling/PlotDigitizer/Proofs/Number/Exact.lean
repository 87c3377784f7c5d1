/-
Operations that cut nothing off.

A number that is a double is its own rounding (`roundWithAccuracy_exact`). So
the sum of two doubles is exact where it is a double (`parts_add`), and so is
the half of one (`parts_half`).
-/
import PlotDigitizer.Proofs.Number.Bits

namespace PlotDigitizer.Binary64

open Float.Model (Format UnpackedFloat totalExponent)
open Float.Model.UnpackedFloat

/-! ## Rounding a double -/

/-- Zeros that are shifted out leave nothing behind. -/
theorem exact_shiftRight (m d : Nat) :
    (ExtendedMantissa.ofMantissaAndAccuracy (m * 2 ^ d) .exact) >>> d
      = ExtendedMantissa.ofMantissaAndAccuracy m .exact := by
  induction d generalizing m with
  | zero => exact congrArg (ExtendedMantissa.ofMantissaAndAccuracy · .exact) (Nat.mul_one m)
  | succ d ih =>
    rw [pow_succ', ← Nat.mul_assoc]
    show ExtendedMantissa.shiftRightOne
      (ExtendedMantissa.ofMantissaAndAccuracy (m * 2 * 2 ^ d) .exact >>> d) = _
    rw [ih]
    simp [ExtendedMantissa.shiftRightOne, ExtendedMantissa.ofMantissaAndAccuracy]

theorem Canonical.target_eq {m : Nat} {e : Int} (hc : Canonical m e) (hm : 0 < m) (d : Nat) :
    target (m * 2 ^ d) (e - d) = e := by
  obtain ⟨hlt, hleast, -, hfull⟩ := hc
  have hlog : m.log2 ≤ 52 := Nat.lt_succ_iff.1 ((Nat.log2_lt hm.ne').2 hlt)
  rw [target, log2_mul_two_pow hm]
  rcases hfull with hfull | rfl
  · have : 52 ≤ m.log2 := (Nat.le_log2 hm.ne').2 hfull
    omega
  · omega

/-- **A double is its own rounding**, with however many zeros behind it. -/
theorem roundWithAccuracy_exact {m : Nat} {e : Int} (hc : Canonical m e) (hm : 0 < m)
    (s : Sign) (d : Nat) :
    roundWithAccuracy .binary64 s (m * 2 ^ d) (e - d) .exact = .finite s m e hm := by
  have htarget := hc.target_eq hm d
  have hrounded : rounded (m * 2 ^ d) (e - d) .exact = m := by
    rw [rounded, htarget, show (e - (e - d)).toNat = d by omega, exact_shiftRight]
    rfl
  rw [roundWithAccuracy_eq (by omega), dif_neg (by omega), if_pos (by rw [hrounded]; exact hc.lt)]
  simp only [hrounded, htarget]

/-- Two ways to write a number are one with zeros behind the mantissas. -/
theorem mantissa_eq {m n : Nat} {e f : Int} (h : (n : ℚ) * 2 ^ f = m * 2 ^ e) :
    n * 2 ^ (f - e).toNat = m * 2 ^ (e - f).toNat := by
  have hf : f = min e f + ((f - e).toNat : Int) := by omega
  have he : e = min e f + ((e - f).toNat : Int) := by omega
  have hpow : (n : ℚ) * 2 ^ (f - e).toNat * 2 ^ min e f = m * 2 ^ (e - f).toNat * 2 ^ min e f := by
    rw [mul_assoc, mul_assoc, ← zpow_natCast, ← zpow_natCast, ← two_zpow_add, ← two_zpow_add,
      add_comm _ (min e f), add_comm _ (min e f), ← hf, ← he]
    exact h
  exact_mod_cast mul_right_cancel₀ (two_zpow_pos _).ne' hpow

/-- So is it in any other mantissa and exponent. -/
theorem round_exact {m n : Nat} {e f : Int} (hc : Canonical m e) (hm : 0 < m)
    (h : (n : ℚ) * 2 ^ f = m * 2 ^ e) (s : Sign) :
    UnpackedFloat.round .binary64 s n f = .finite s m e hm := by
  have hmantissa := mantissa_eq h
  have hn : 0 < n := by
    refine Nat.pos_of_ne_zero fun hzero => ?_
    rw [hzero, Nat.zero_mul] at hmantissa
    exact absurd hmantissa (Nat.mul_pos hm (Nat.two_pow_pos _)).ne
  have hlog := congrArg Nat.log2 hmantissa
  rw [log2_mul_two_pow hn, log2_mul_two_pow hm] at hlog
  have htarget : target n f = e := by
    have htarget := hc.target_eq hm 0
    simp only [target, pow_zero, mul_one, Nat.cast_zero, sub_zero] at htarget ⊢
    omega
  have hexponent : f - ((f - e).toNat : Int) = e - ((e - f).toNat : Int) := by omega
  simp only [UnpackedFloat.round, targetExponent_eq, htarget, decreaseExponent, Nat.shiftLeft_eq, hmantissa,
    hexponent]
  exact roundWithAccuracy_exact hc hm s _

/-! ## Parts of positive doubles -/

theorem unpack_of_parts {x : Float} {m : Nat} {e : Int} (h : parts x = .finite false m e) :
    (m = 0 ∧ x.toModel.unpack = .zero .positive) ∨ ∃ hm, x.toModel.unpack = .finite .positive m e hm := by
  rw [parts_eq] at h
  cases hx : x.toModel.unpack with
  | notANumber | infinity s =>
    rw [hx] at h
    exact Parts.noConfusion h
  | zero s =>
    rw [hx, Parts.ofUnpacked, Parts.finite.injEq] at h
    obtain ⟨hs, rfl, -⟩ := h
    cases s with
    | positive => exact .inl ⟨rfl, rfl⟩
    | negative => exact Bool.noConfusion hs
  | finite s m' e' hm =>
    rw [hx, Parts.ofUnpacked, Parts.finite.injEq] at h
    obtain ⟨hs, rfl, rfl⟩ := h
    cases s with
    | positive => exact .inr ⟨hm, rfl⟩
    | negative => exact Bool.noConfusion hs

theorem parts_pack {m : Nat} {e : Int} (hc : Canonical m e) (hm : 0 < m) :
    parts (.ofModel (.pack (.finite .positive m e hm))) = .finite false m e := by
  have hparts := parts_ofBits hc
  rcases unpack_of_parts hparts with ⟨rfl, -⟩ | ⟨_, hunpack⟩
  · exact (lt_irrefl _ hm).elim
  · rw [← hunpack, ofModel_pack_unpack]
    exact hparts

/-- A whole number of 53 bits over a power of two is a double, and so is its
half. -/
theorem exists_canonical {n : Nat} (hn : 0 < n) (hlt : n < 2 ^ 53) {level : Nat} (hlevel : level ≤ 1000) :
    ∃ (k : Nat) (g : Int), 0 < k ∧ (k : ℚ) * 2 ^ g = n / 2 ^ level ∧ Canonical k g ∧ Canonical k (g - 1) := by
  have hlog : n.log2 ≤ 52 := Nat.lt_succ_iff.1 ((Nat.log2_lt hn.ne').2 hlt)
  have hfull : 2 ^ 52 ≤ n * 2 ^ (52 - n.log2) ∧ n * 2 ^ (52 - n.log2) < 2 ^ 53 := by
    rw [← Nat.log2_eq_iff (by positivity), log2_mul_two_pow hn]
    omega
  refine ⟨n * 2 ^ (52 - n.log2), -(level : Int) - (52 - n.log2 : Nat), by positivity, ?_, ?_, ?_⟩
  · rw [zpow_sub₀ (by norm_num), zpow_neg, zpow_natCast, zpow_natCast]
    push_cast
    field_simp
  · exact ⟨hfull.2, by omega, by omega, .inl hfull.1⟩
  · exact ⟨hfull.2, by omega, by omega, .inl hfull.1⟩

/-! ## Exact operations -/

section
variable {x y : Float} {k m n : Nat} {e f g : Int}

theorem add_exact (hm : 0 < m) (hn : 0 < n) (hc : Canonical k g) (hk : 0 < k)
    (h : (m : ℚ) * 2 ^ e + n * 2 ^ f = k * 2 ^ g) :
    UnpackedFloat.add .binary64 (.finite .positive m e hm) (.finite .positive n f hn)
      = .finite .positive k g hk := by
  have hm' := apply_decreaseExponent .positive m (min_le_left e f)
  have hn' := apply_decreaseExponent .positive n (min_le_right e f)
  show UnpackedFloat.normalize .binary64 (((decreaseExponent m e (min e f)).1 : Int)
    + ((decreaseExponent n f (min e f)).1 : Int)) (min e f) .positive = _
  rw [← Nat.cast_add]
  simp only [Sign.apply, Int.cast_natCast] at hm' hn'
  have hvalue : (((decreaseExponent m e (min e f)).1 + (decreaseExponent n f (min e f)).1 : Nat) : ℚ)
      * 2 ^ min e f = k * 2 ^ g := by
    rw [Nat.cast_add, add_mul, hm', hn', h]
  generalize (decreaseExponent m e (min e f)).1 + (decreaseExponent n f (min e f)).1 = sum at hvalue ⊢
  have hpos : sum ≠ 0 := by
    rintro rfl
    rw [Nat.cast_zero, zero_mul] at hvalue
    exact absurd hvalue (mul_pos (Nat.cast_pos.2 hk) (two_zpow_pos g)).ne
  have hcompare : compare (sum : Int) 0 = .gt := compare_gt_iff_gt.2 (by omega)
  simp only [UnpackedFloat.normalize, hcompare, Int.toNat_natCast]
  exact round_exact hc hk hvalue .positive

/-- A sum of doubles that is one itself is exact. -/
theorem parts_add (hx : parts x = .finite false m e) (hy : parts y = .finite false n f)
    (hc : Canonical k g) (hk : 0 < k) (h : (m : ℚ) * 2 ^ e + n * 2 ^ f = k * 2 ^ g) :
    parts (x + y) = .finite false k g := by
  have hadd : x + y = .ofModel (.pack (UnpackedFloat.add .binary64 x.toModel.unpack y.toModel.unpack)) := rfl
  have hcx := canonical_of_parts hx
  have hcy := canonical_of_parts hy
  have hsum : UnpackedFloat.add .binary64 x.toModel.unpack y.toModel.unpack = .finite .positive k g hk := by
    rcases unpack_of_parts hx with ⟨rfl, hux⟩ | ⟨hm, hux⟩
    · rcases unpack_of_parts hy with ⟨rfl, huy⟩ | ⟨hn, huy⟩
      · simp only [Nat.cast_zero, zero_mul, add_zero] at h
        exact absurd h (mul_pos (Nat.cast_pos.2 hk) (two_zpow_pos g)).ne
      · rw [Nat.cast_zero, zero_mul, zero_add] at h
        obtain ⟨rfl, rfl⟩ := hcy.inj hc h
        rw [hux, huy]
        rfl
    · rcases unpack_of_parts hy with ⟨rfl, huy⟩ | ⟨hn, huy⟩
      · rw [Nat.cast_zero, zero_mul, add_zero] at h
        obtain ⟨rfl, rfl⟩ := hcx.inj hc h
        rw [hux, huy]
        rfl
      · rw [hux, huy]
        exact add_exact hm hn hc hk h
  rw [hadd, hsum, parts_pack hc hk]

theorem div_two_exact (hk : 0 < k) (hc : Canonical k (g - 1)) (htwo : 0 < 2 ^ 52) :
    div .binary64 (.finite .positive k g hk) (.finite .positive (2 ^ 52) (-51) htwo)
      = .finite .positive k (g - 1) hk := by
  have hcore : Format.binary64.targetExponent (totalExponent k g - totalExponent (2 ^ 52) (-51))
      = max (k.log2 + g - 54) (-1074) := by
    simp only [Format.targetExponent, totalExponent, Format.mantissaBits, Format.minExponent, Nat.log2_two_pow]
    omega
  have hlog : k.log2 ≤ 52 := Nat.lt_succ_iff.1 ((Nat.log2_lt hk.ne').2 hc.lt)
  simp only [div, divCore, hcore]
  generalize hmin : min (g - -51) (max ((k.log2 : Int) + g - 54) (-1074)) = low
  obtain ⟨d, rfl⟩ : ∃ d : Nat, low = g - 1 - d := ⟨(g - 1 - low).toNat, by have := hc.least; omega⟩
  -- The mantissa is shifted further than the divisor is long.
  have hshift : k <<< (g - -51 - (g - 1 - (d : Int))).toNat = k * 2 ^ d * 2 ^ 52 := by
    rw [show (g - -51 - (g - 1 - (d : Int))).toNat = d + 52 by omega, Nat.shiftLeft_eq, pow_add, Nat.mul_assoc]
  rw [hshift, Nat.mul_div_cancel _ htwo, Nat.mul_mod_left]
  exact roundWithAccuracy_exact hc hk _ d

/-- The half of a double is exact if it is one. -/
theorem parts_half (hx : parts x = .finite false k g) (hk : 0 < k) (hc : Canonical k (g - 1)) :
    parts (x / 2) = .finite false k (g - 1) := by
  have hdiv : x / 2 = .ofModel (.pack (div .binary64 x.toModel.unpack (2 : Float).toModel.unpack)) := rfl
  have htwo : parts 2 = .finite false (2 ^ 52) (-51) := by decide +kernel
  obtain ⟨hzero, -⟩ | ⟨hpos, htwo⟩ := unpack_of_parts htwo
  · exact absurd hzero (by decide)
  obtain ⟨hzero, -⟩ | ⟨_, hx⟩ := unpack_of_parts hx
  · exact absurd hzero hk.ne'
  rw [hdiv, hx, htwo, div_two_exact hk hc hpos, parts_pack hc hk]

end

end PlotDigitizer.Binary64
