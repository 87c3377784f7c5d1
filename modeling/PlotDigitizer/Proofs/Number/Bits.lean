/-
Doubles and their bits.

A double is the same as what it stands for: `parts` loses nothing
(`parts_injective`), and every mantissa and exponent that bits can hold are the
parts of the double with those bits (`parts_ofBits`). The undefined number is
one double here, whatever bits it was read from. Finite doubles of one number
are the same, but for the two zeros (`eq_of_value_eq`).
-/
import PlotDigitizer.Proofs.Number.Overflow

namespace PlotDigitizer.Binary64

open Float.Model (Format UnpackedFloat)
open Float.Model.UnpackedFloat

/-! ## Packing what was unpacked -/

/-- Bits consist of a sign, an exponent and a mantissa. -/
theorem packComponents_unpack {b : BitVec 64} {e : BitVec 11} {m : BitVec 52}
    (he : @unpackExponent .binary64 b = e) (hm : @unpackMantissa .binary64 b = m) :
    packComponents .binary64 (Sign.ofBitVec (@unpackSign .binary64 b)) e m = b := by
  have hsign (c : BitVec 1) : (Sign.ofBitVec c).toBitVec = c := by
    revert c
    decide
  subst he hm
  simp only [packComponents, hsign, unpackSign, unpackExponent, unpackMantissa, BitVec.extractLsb]
  ext i hi
  grind

theorem pack_of_lt {m : Nat} (s : Sign) (hm : 0 < m) (hlt : m < 2 ^ 52) :
    pack .binary64 (.finite s m (-1074) hm) = packComponents .binary64 s 0 (BitVec.ofNat 52 m) := by
  have hlog : m.log2 < 52 := (Nat.log2_lt hm.ne').2 hlt
  have hbits : ¬(m.log2 + 1 = Format.binary64.mantissaBits) := by
    show ¬(m.log2 + 1 = 53)
    omega
  have hroom : ¬(2 ^ Format.binary64.exponentBits ≤ ((-1074 : Int) + Format.binary64.exponentBias
      + Format.binary64.mantissaBitsWithoutImplicit).toNat + 1) := by decide
  simp only [pack, if_neg hroom, if_neg hbits]
  rfl

theorem pack_of_le {m : Nat} {e : Int} (s : Sign) (hm : 0 < m) (hle : 2 ^ 52 ≤ m) (hlt : m < 2 ^ 53)
    (hleast : -1074 ≤ e) (hgreatest : e ≤ 971) : pack .binary64 (.finite s m e hm)
      = packComponents .binary64 s (BitVec.ofNat 11 (e + 1075).toNat) (BitVec.ofNat 52 m) := by
  have hlog : m.log2 = 52 := (Nat.log2_eq_iff hm.ne').2 ⟨hle, hlt⟩
  have hbits : m.log2 + 1 = Format.binary64.mantissaBits := by
    rw [hlog]
    rfl
  have hbias : e + (Format.binary64.exponentBias : Int) + Format.binary64.mantissaBitsWithoutImplicit
      = e + 1075 := by
    show e + ((1023 : Nat) : Int) + ((52 : Nat) : Int) = e + 1075
    omega
  have hroom : ¬(2 ^ Format.binary64.exponentBits ≤ (e + 1075).toNat + 1) := by
    show ¬(2 ^ 11 ≤ (e + 1075).toNat + 1)
    omega
  simp only [pack, hbias, if_neg hroom, if_pos hbits]

/-- Valid bits are packed as they were. -/
theorem pack_unpack {b : BitVec 64} (hvalid : Format.binary64.Valid b) :
    pack .binary64 (unpack .binary64 b) = b := by
  have hmant : (@unpackMantissa .binary64 b).toNat < 2 ^ 52 := BitVec.isLt _
  have hexp : (@unpackExponent .binary64 b).toNat < 2 ^ 11 := BitVec.isLt _
  have hbias : ((Format.binary64.exponentBias : Nat) : Int)
      + (Format.binary64.mantissaBitsWithoutImplicit : Nat) = 1075 := rfl
  rw [unpack]
  split
  · rename_i hfull
    split
    · rename_i hzero
      exact packComponents_unpack hfull hzero
    · rename_i hne
      exact (hvalid.eq_packedNaN hfull hne).symm
  · rename_i hfull
    split
    · rename_i hnone
      split
      · rename_i hzero
        exact packComponents_unpack hnone hzero
      · rename_i hne
        have hleast : ((@unpackExponent .binary64 b).toNat : Int) - 1075 + 1 = -1074 := by
          rw [hnone]
          rfl
        simp only [hbias, hleast]
        rw [pack_of_lt _ _ hmant, BitVec.ofNat_toNat, BitVec.setWidth_eq]
        exact packComponents_unpack hnone rfl
    · rename_i hnone
      have hall : (@unpackExponent .binary64 b).toNat ≠ 2047 := fun h =>
        hfull (BitVec.eq_of_toNat_eq (h.trans rfl))
      have hpos : (@unpackExponent .binary64 b).toNat ≠ 0 := fun h =>
        hnone (BitVec.eq_of_toNat_eq (h.trans rfl))
      have happend : (1#1 ++ @unpackMantissa .binary64 b).toNat
          = 2 ^ 52 + (@unpackMantissa .binary64 b).toNat := by
        rw [BitVec.toNat_append, ← Nat.shiftLeft_add_eq_or_of_lt hmant]
        rfl
      have hback : (((@unpackExponent .binary64 b).toNat : Int) - 1075 + 1075).toNat
          = (@unpackExponent .binary64 b).toNat := by omega
      simp only [hbias]
      rw [pack_of_le _ _ (by omega) (by omega) (by omega) (by omega), hback, BitVec.ofNat_toNat,
        BitVec.setWidth_eq]
      refine packComponents_unpack rfl (BitVec.eq_of_toNat_eq ?_)
      rw [BitVec.toNat_ofNat, happend]
      exact ((Nat.add_mod_left _ _).trans (Nat.mod_eq_of_lt hmant)).symm

/-! ## Doubles by their parts -/

theorem ofModel_pack_unpack (x : Float) : Float.ofModel (.pack x.toModel.unpack) = x := by
  obtain ⟨⟨bits, hvalid⟩⟩ := x
  simp only [Float.Model.pack, Float.Model.unpack, pack_unpack hvalid, UInt64.ofBitVec_toBitVec]

theorem Parts.ofUnpacked_injective : Function.Injective Parts.ofUnpacked := by
  have hsign {s t : Sign} (h : isNegative s = isNegative t) : s = t := by
    cases s <;> cases t <;> first | rfl | exact Bool.noConfusion h
  intro u v h
  cases u <;> cases v <;> simp only [Parts.ofUnpacked, reduceCtorEq, Parts.infinite.injEq,
    Parts.finite.injEq] at h <;> first | rfl | skip
  case infinity.infinity => rw [hsign h]
  case zero.zero => rw [hsign h.1]
  case zero.finite => omega
  case finite.zero => omega
  case finite.finite =>
    obtain ⟨hs, rfl, rfl⟩ := h
    rw [hsign hs]

/-- **A double is what it stands for.** -/
theorem parts_injective : Function.Injective parts := by
  intro x y h
  rw [parts_eq, parts_eq] at h
  rw [← ofModel_pack_unpack x, ← ofModel_pack_unpack y, Parts.ofUnpacked_injective h]

/-- What the negative of a double stands for. -/
def Parts.negate : Parts → Parts
  | .undefined => .undefined
  | .infinite negative => .infinite !negative
  | .finite negative m e => .finite (!negative) m e

theorem Parts.ofUnpacked_neg (u : UnpackedFloat) : Parts.ofUnpacked u.neg = (Parts.ofUnpacked u).negate := by
  have hsign (s : Sign) : isNegative (-s) = !isNegative s := by cases s <;> rfl
  cases u <;> simp only [UnpackedFloat.neg, Parts.ofUnpacked, Parts.negate, hsign]

/-- The double that stands for the negative is the negative. -/
theorem neg_eq_of_parts {x y : Float} (h : parts y = (parts x).negate) : -x = y := by
  rw [parts_eq, parts_eq, ← Parts.ofUnpacked_neg] at h
  rw [← ofModel_pack_unpack y, Parts.ofUnpacked_injective h]
  rfl

/-! ## Mantissas and exponents -/

/-- A mantissa and an exponent as bits hold them: with 53 bits in the
mantissa, fewer only at the least exponent. -/
structure Canonical (m : Nat) (e : Int) : Prop where
  lt : m < 2 ^ 53
  least : -1074 ≤ e
  greatest : e ≤ 971
  full : 2 ^ 52 ≤ m ∨ e = -1074

theorem canonical_of_parts {x : Float} {negative : Bool} {m : Nat} {e : Int}
    (h : parts x = .finite negative m e) : Canonical m e := by
  rw [parts_eq] at h
  cases hx : x.toModel.unpack with
  | notANumber | infinity s =>
    rw [hx] at h
    exact Parts.noConfusion h
  | zero s =>
    rw [hx, Parts.ofUnpacked, Parts.finite.injEq] at h
    obtain ⟨-, rfl, rfl⟩ := h
    exact ⟨by decide, le_rfl, by decide, .inr rfl⟩
  | finite s m' e' hm =>
    rw [hx, Parts.ofUnpacked, Parts.finite.injEq] at h
    obtain ⟨-, rfl, rfl⟩ := h
    obtain ⟨hlt, hleast, hgreatest, hfull⟩ := bounds_of_unpack hx
    exact ⟨hlt, hleast, hgreatest, hfull⟩

/-- The bits of the positive double `m * 2^e`. -/
def bitsOf (m : Nat) (e : Int) : Nat := (e + 1074).toNat * 2 ^ 52 + m

theorem Canonical.bitsOf_lt {m : Nat} {e : Int} (h : Canonical m e) : bitsOf m e < 2047 * 2 ^ 52 := by
  obtain ⟨hlt, hleast, hgreatest, -⟩ := h
  rw [bitsOf]
  omega

/-- Bits below those of infinity are kept. -/
theorem toBits_ofBits {n : Nat} (h : n < 2047 * 2 ^ 52) :
    (Float.ofBits (UInt64.ofNat n)).toBits.toNat = n := by
  have hn : (UInt64.ofNat n).toBitVec.toNat = n := UInt64.toNat_ofNat_of_lt' (by show n < 2 ^ 64; omega)
  have hvalid : Format.binary64.Valid (UInt64.ofNat n).toBitVec := by
    refine ⟨fun hfull => ?_⟩
    have hexp := toNat_unpackExponent (UInt64.ofNat n).toBitVec
    rw [hfull, hn] at hexp
    have hall : (-1#11).toNat = 2047 := rfl
    exact absurd (hall.symm.trans hexp) (by omega)
  show (pack .binary64 (unpack .binary64 (UInt64.ofNat n).toBitVec)).toNat = n
  rw [pack_unpack hvalid, hn]

/-- **Every mantissa and exponent are the parts of a double.** -/
theorem parts_ofBits {m : Nat} {e : Int} (h : Canonical m e) :
    parts (.ofBits (UInt64.ofNat (bitsOf m e))) = .finite false m e := by
  have hbits := toBits_ofBits h.bitsOf_lt
  obtain ⟨hlt, hleast, hgreatest, hfull⟩ := h
  have hsign : ¬(2 ^ 63 ≤ (e + 1074).toNat * 2 ^ 52 + m) := by omega
  have hscale : ¬(((e + 1074).toNat * 2 ^ 52 + m) / 2 ^ 52 % 2 ^ 11 = 2047) := by omega
  simp only [parts, hbits, Nat.pow_eq]
  simp only [bitsOf, hsign, hscale, if_false, decide_false]
  split <;> rw [Parts.finite.injEq] <;> refine ⟨rfl, ?_, ?_⟩ <;> omega

/-! ## Doubles by their numbers -/

theorem isFinite_iff {x : Float} : isFinite x = true ↔ ∃ negative m e, parts x = .finite negative m e := by
  rw [isFinite]
  split <;> simp_all

theorem value_of_parts {x : Float} {negative : Bool} {m : Nat} {e : Int}
    (h : parts x = .finite negative m e) : value x = (if negative then -(m : ℚ) else m) * 2 ^ e := by
  rw [value, h]

theorem Canonical.exponent_le {m n : Nat} {e f : Int} (hm : Canonical m e) (hn : Canonical n f)
    (h : (m : ℚ) * 2 ^ e = n * 2 ^ f) : f ≤ e := by
  by_contra hlt
  obtain ⟨k, rfl⟩ : ∃ k : Nat, f = e + (k + 1 : Nat) := ⟨(f - e - 1).toNat, by omega⟩
  have hfull : 2 ^ 52 ≤ n := hn.full.resolve_right (by have := hm.least; omega)
  rw [two_zpow_add, zpow_natCast, mul_left_comm, mul_comm (m : ℚ),
    mul_right_inj' (two_zpow_pos e).ne'] at h
  have hmantissa : m = n * 2 ^ (k + 1) := by exact_mod_cast h
  have hle : n * 2 ≤ n * 2 ^ (k + 1) := Nat.mul_le_mul_left n (Nat.le_self_pow (by omega) 2)
  have := hm.lt
  omega

/-- A number has one mantissa and exponent. -/
theorem Canonical.inj {m n : Nat} {e f : Int} (hm : Canonical m e) (hn : Canonical n f)
    (h : (m : ℚ) * 2 ^ e = n * 2 ^ f) : m = n ∧ e = f := by
  obtain rfl : e = f := le_antisymm (hn.exponent_le hm h.symm) (hm.exponent_le hn h)
  exact ⟨by exact_mod_cast mul_right_cancel₀ (two_zpow_pos e).ne' h, rfl⟩

/-- Doubles of one number other than zero are the same. -/
theorem eq_of_value_eq {x y : Float} (hx : isFinite x = true) (hy : isFinite y = true)
    (h : value x = value y) (hne : value x ≠ 0) : x = y := by
  obtain ⟨negative, m, e, hx⟩ := isFinite_iff.1 hx
  obtain ⟨negative', n, f, hy⟩ := isFinite_iff.1 hy
  have hm : 0 ≤ (m : ℚ) * 2 ^ e := mul_nonneg m.cast_nonneg (two_zpow_pos e).le
  have hn : 0 ≤ (n : ℚ) * 2 ^ f := mul_nonneg n.cast_nonneg (two_zpow_pos f).le
  have hvx : value x = if negative then -((m : ℚ) * 2 ^ e) else m * 2 ^ e := by
    rw [value_of_parts hx, ite_mul, neg_mul]
  have hvy : value y = if negative' then -((n : ℚ) * 2 ^ f) else n * 2 ^ f := by
    rw [value_of_parts hy, ite_mul, neg_mul]
  -- The number is on one side of zero, so the signs are the same.
  have hsign : negative = negative' ∧ (m : ℚ) * 2 ^ e = n * 2 ^ f := by
    rw [h] at hvx hne
    rw [hvy] at hvx hne
    cases negative <;> cases negative' <;>
      simp only [Bool.false_eq_true, if_false, if_true, neg_inj, reduceCtorEq, false_and, true_and] at *
    · exact hvx.symm
    · exact hne (by linarith)
    · exact hne (by linarith)
    · exact hvx.symm
  obtain ⟨rfl, hmagnitude⟩ := hsign
  obtain ⟨rfl, rfl⟩ := (canonical_of_parts hx).inj (canonical_of_parts hy) hmagnitude
  exact parts_injective (hx.trans hy.symm)

end PlotDigitizer.Binary64
