/-
When the arithmetic of doubles stays finite.

Every operation rounds the exact result. So a difference, a product or a
quotient of finite doubles is finite exactly if the exact one is below the
threshold of overflow (`isFinite_sub_iff`, `isFinite_mul_iff`,
`isFinite_div_iff`); what is not finite to begin with stays so, but for a
divisor that is infinite.
-/
import PlotDigitizer.Proofs.Bezier.Flatten
import PlotDigitizer.Proofs.Number.Rounding

namespace PlotDigitizer.Binary64

open Float.Model (Format UnpackedFloat)
open Float.Model.UnpackedFloat

/-! ## Doubles and what they stand for -/

def isNegative : Sign → Bool
  | .negative => true
  | .positive => false

/-- What an unpacked double stands for. -/
def Parts.ofUnpacked : UnpackedFloat → Parts
  | .notANumber => .undefined
  | .infinity s => .infinite (isNegative s)
  | .zero s => .finite (isNegative s) 0 (-1074)
  | .finite s m e _ => .finite (isNegative s) m e

theorem toNat_unpackExponent (b : BitVec 64) :
    (@unpackExponent .binary64 b).toNat = b.toNat / 2 ^ 52 % 2 ^ 11 := by
  simp [unpackExponent, BitVec.extractLsb, BitVec.extractLsb', Nat.shiftRight_eq_div_pow]

theorem toNat_unpackMantissa (b : BitVec 64) :
    (@unpackMantissa .binary64 b).toNat = b.toNat % 2 ^ 52 := by
  simp [unpackMantissa, BitVec.extractLsb, BitVec.extractLsb', Nat.shiftRight_eq_div_pow]

theorem isNegative_unpackSign (b : BitVec 64) :
    isNegative (Sign.ofBitVec (@unpackSign .binary64 b)) = decide (2 ^ 63 ≤ b.toNat) := by
  have hb := b.isLt
  have hs : (@unpackSign .binary64 b).toNat = b.toNat / 2 ^ 63 := by
    simp [unpackSign, BitVec.extractLsb, BitVec.extractLsb', Nat.shiftRight_eq_div_pow]
    omega
  unfold Sign.ofBitVec
  split
  · rename_i h
    rw [h] at hs
    simp [isNegative] at hs ⊢
    omega
  · rename_i h
    have hne : (@unpackSign .binary64 b).toNat ≠ 0 := fun h0 => h (BitVec.eq_of_toNat_eq h0)
    simp [isNegative]
    omega

/-- The bits are read as the model of doubles reads them. -/
theorem parts_eq (x : Float) : parts x = .ofUnpacked x.toModel.unpack := by
  have he := toNat_unpackExponent x.toModel.toBits.toBitVec
  have hm := toNat_unpackMantissa x.toModel.toBits.toBitVec
  have hs := isNegative_unpackSign x.toModel.toBits.toBitVec
  have hbits : x.toBits.toNat = x.toModel.toBits.toBitVec.toNat := rfl
  have hfull : @unpackExponent .binary64 x.toModel.toBits.toBitVec = -1#11
      ↔ x.toBits.toNat / 2 ^ 52 % 2 ^ 11 = 2047 := by
    rw [← BitVec.toNat_inj, he, hbits]
    rfl
  have hnone : @unpackExponent .binary64 x.toModel.toBits.toBitVec = 0#11
      ↔ x.toBits.toNat / 2 ^ 52 % 2 ^ 11 = 0 := by
    rw [← BitVec.toNat_inj, he, hbits]
    rfl
  have hzero : @unpackMantissa .binary64 x.toModel.toBits.toBitVec = 0#52
      ↔ x.toBits.toNat % 2 ^ 52 = 0 := by
    rw [← BitVec.toNat_inj, hm, hbits]
    rfl
  rw [hbits] at hfull hnone hzero
  unfold parts Float.Model.unpack UnpackedFloat.unpack
  simp only [hfull, hnone, hzero, Nat.pow_eq, hbits]
  split
  · split
    · rw [Parts.ofUnpacked, hs]
    · rfl
  · split
    · split
      · rename_i h
        rw [Parts.ofUnpacked, hs, h]
      · rename_i h _
        rw [Parts.ofUnpacked, hs, hm, he, h]
        rfl
    · have hlt := Nat.mod_lt x.toModel.toBits.toBitVec.toNat (Nat.two_pow_pos 52)
      rw [Parts.ofUnpacked, hs, he, BitVec.toNat_append, hm, ← Nat.shiftLeft_add_eq_or_of_lt hlt,
        Nat.add_comm]
      rfl

theorem isFinite_eq (x : Float) : isFinite x = x.toModel.unpack.isFinite := by
  rw [isFinite, parts_eq]
  cases x.toModel.unpack <;> rfl

theorem isFinite_pack_iff (u : UnpackedFloat) : isFinite (.ofModel (.pack u)) = true ↔ Packs u := by
  have hunpack : (Float.ofModel (.pack u)).toModel.unpack = unpack .binary64 (pack .binary64 u) := rfl
  rw [isFinite_eq, hunpack, isFinite_unpack_pack_iff]

/-- The number that a finite double stands for. Zero stands in for what the
other doubles have not. -/
def value (x : Float) : ℚ :=
  match parts x with
  | .finite negative m e => (if negative then -(m : ℚ) else m) * 2 ^ e
  | _ => 0

section
variable {x : Float} {s : Sign} {m : Nat} {e : Int} {hm : 0 < m}

theorem value_of_zero (h : x.toModel.unpack = .zero s) : value x = 0 := by
  simp [value, parts_eq, h, Parts.ofUnpacked]

theorem value_of_isFinite_eq_false (h : x.toModel.unpack.isFinite = false) : value x = 0 := by
  rw [value, parts_eq]
  cases hx : x.toModel.unpack with
  | notANumber | infinity => rfl
  | zero | finite => simp [hx, UnpackedFloat.isFinite] at h

theorem value_of_finite (h : x.toModel.unpack = .finite s m e hm) :
    value x = (s.apply m : ℚ) * 2 ^ e := by
  rw [value, parts_eq, h]
  cases s <;> simp [Parts.ofUnpacked, isNegative, Sign.apply]

theorem abs_value_of_finite (h : x.toModel.unpack = .finite s m e hm) :
    |value x| = (m : ℚ) * 2 ^ e := by
  rw [value_of_finite h, abs_mul, abs_of_pos (two_zpow_pos e)]
  cases s <;> simp [Sign.apply]

/-- The mantissa has 53 bits, fewer only at the least exponent. -/
theorem bounds_of_unpack (h : x.toModel.unpack = .finite s m e hm) :
    m < 2 ^ 53 ∧ -1074 ≤ e ∧ e ≤ 971 ∧ (2 ^ 52 ≤ m ∨ e = -1074) := by
  have hparts : parts x = .finite (isNegative s) m e := by
    rw [parts_eq, h]
    rfl
  have hfraction := Nat.mod_lt x.toBits.toNat (Nat.two_pow_pos 52)
  have hscale := Nat.mod_lt (x.toBits.toNat / 2 ^ 52) (Nat.two_pow_pos 11)
  simp only [parts, Nat.pow_eq] at hparts
  split at hparts
  · split at hparts <;> simp at hparts
  · split at hparts
    · simp only [Parts.finite.injEq] at hparts
      omega
    · simp only [Parts.finite.injEq] at hparts
      omega

end

theorem abs_value_lt (x : Float) : |value x| < overflow := by
  cases hx : x.toModel.unpack with
  | notANumber | infinity =>
    rw [value_of_isFinite_eq_false (by rw [hx]; rfl), abs_zero]
    exact overflow_pos
  | zero s => simpa [value_of_zero hx] using overflow_pos
  | finite s m e hpos =>
    obtain ⟨hm, -, he, -⟩ := bounds_of_unpack hx
    have hm' : (m : ℚ) ≤ 2 ^ 53 - 1 := le_sub_iff_add_le.2 (by exact_mod_cast hm)
    rw [abs_value_of_finite hx]
    calc (m : ℚ) * 2 ^ e ≤ (2 ^ 53 - 1) * 2 ^ (971 : Int) :=
          mul_le_mul hm' (two_zpow_le he) (two_zpow_pos e).le (by norm_num)
      _ = (2 * (2 ^ 53 - 1)) * 2 ^ (970 : Int) := by
          rw [show (971 : Int) = 970 + 1 from rfl, zpow_add_one₀ (by norm_num)]
          ring
      _ < overflow := by
          rw [overflow_eq]
          exact mul_lt_mul_of_pos_right (by norm_num) (two_zpow_pos _)

/-! ## Differences -/

theorem apply_decreaseExponent (s : Sign) (m : Nat) {e t : Int} (h : t ≤ e) :
    ((s.apply ((decreaseExponent m e t).1 : Int) : Int) : ℚ) * 2 ^ t = (s.apply m : ℚ) * 2 ^ e := by
  have hexp : e = t + ((e - t).toNat : Int) := by omega
  have hpow : (2 : ℚ) ^ e = 2 ^ t * 2 ^ (e - t).toNat := by
    conv_lhs => rw [hexp, two_zpow_add, zpow_natCast]
  rw [decreaseExponent, Nat.shiftLeft_eq, hpow]
  cases s <;> simp only [Sign.apply] <;> push_cast <;> ring

theorem isFinite_of_packs_sub {u v : UnpackedFloat} (h : Packs (sub .binary64 u v)) :
    u.isFinite = true ∧ v.isFinite = true := by
  cases u with
  | notANumber => exact h.elim
  | infinity s =>
    cases v with
    | infinity t => cases s <;> cases t <;> exact h.elim
    | notANumber | zero | finite => exact h.elim
  | zero s | finite s =>
    cases v with
    | notANumber | infinity => exact h.elim
    | zero | finite => exact ⟨rfl, rfl⟩

/-- **When a difference is finite.** -/
theorem isFinite_sub_iff (x y : Float) : isFinite (x - y) = true ↔
    isFinite x = true ∧ isFinite y = true ∧ |value x - value y| < overflow := by
  have hsub : x - y = .ofModel (.pack (sub .binary64 x.toModel.unpack y.toModel.unpack)) := rfl
  have hx := abs_value_lt x
  have hy := abs_value_lt y
  have hfinite := isFinite_of_packs_sub (u := x.toModel.unpack) (v := y.toModel.unpack)
  rw [hsub, isFinite_pack_iff, isFinite_eq, isFinite_eq]
  rw [← and_assoc, ← and_iff_right_of_imp hfinite, and_congr_right_iff]
  rintro ⟨hfx, hfy⟩
  cases hux : x.toModel.unpack with
  | notANumber | infinity => simp [hux, UnpackedFloat.isFinite] at hfx
  | zero s =>
    cases huy : y.toModel.unpack with
    | notANumber | infinity => simp [huy, UnpackedFloat.isFinite] at hfy
    | zero t =>
      rw [value_of_zero hux, value_of_zero huy, sub_zero, abs_zero]
      exact iff_of_true (by cases s <;> cases t <;> exact trivial) overflow_pos
    | finite t n f hn =>
      obtain ⟨-, -, hf, -⟩ := bounds_of_unpack huy
      rw [value_of_zero hux, zero_sub, abs_neg]
      exact iff_of_true hf hy
  | finite s m e hm =>
    cases huy : y.toModel.unpack with
    | notANumber | infinity => simp [huy, UnpackedFloat.isFinite] at hfy
    | zero t =>
      obtain ⟨-, -, he, -⟩ := bounds_of_unpack hux
      rw [value_of_zero huy, sub_zero]
      exact iff_of_true he hx
    | finite t n f hn =>
      have hvalue : ((s.apply ((decreaseExponent m e (min e f)).1 : Int)
          - t.apply ((decreaseExponent n f (min e f)).1 : Int) : Int) : ℚ) * 2 ^ min e f
            = value x - value y := by
        rw [Int.cast_sub, sub_mul, apply_decreaseExponent _ _ (min_le_left _ _),
          apply_decreaseExponent _ _ (min_le_right _ _), value_of_finite hux, value_of_finite huy]
      rw [← hvalue]
      exact packs_normalize_iff _ _ _

/-! ## Products -/

theorem le_target_mul {m n : Nat} {e f : Int} (hm : 2 ^ 52 ≤ m ∨ e = -1074)
    (hn : 2 ^ 52 ≤ n ∨ f = -1074) (hm' : 0 < m) (hn' : 0 < n) : e + f ≤ target (m * n) (e + f) := by
  by_cases hlong : 2 ^ 52 ≤ m * n
  · have : 52 ≤ (m * n).log2 := (Nat.le_log2 (by positivity)).2 hlong
    simp only [target]
    omega
  · have hmn : m ≤ m * n := Nat.le_mul_of_pos_right m hn'
    have hnm : n ≤ m * n := Nat.le_mul_of_pos_left n hm'
    simp only [target]
    omega

theorem isFinite_of_packs_mul {u v : UnpackedFloat} (h : Packs (mul .binary64 u v)) :
    u.isFinite = true ∧ v.isFinite = true := by
  cases u with
  | notANumber => exact h.elim
  | infinity s => cases v <;> exact h.elim
  | zero s | finite s =>
    cases v with
    | notANumber | infinity => exact h.elim
    | zero | finite => exact ⟨rfl, rfl⟩

/-- **When a product is finite.** -/
theorem isFinite_mul_iff (x y : Float) : isFinite (x * y) = true ↔
    isFinite x = true ∧ isFinite y = true ∧ |value x * value y| < overflow := by
  have hmul : x * y = .ofModel (.pack (mul .binary64 x.toModel.unpack y.toModel.unpack)) := rfl
  have hfinite := isFinite_of_packs_mul (u := x.toModel.unpack) (v := y.toModel.unpack)
  rw [hmul, isFinite_pack_iff, isFinite_eq, isFinite_eq]
  rw [← and_assoc, ← and_iff_right_of_imp hfinite, and_congr_right_iff]
  rintro ⟨hfx, hfy⟩
  cases hux : x.toModel.unpack with
  | notANumber | infinity => simp [hux, UnpackedFloat.isFinite] at hfx
  | zero s =>
    rw [value_of_zero hux, zero_mul, abs_zero]
    cases huy : y.toModel.unpack with
    | notANumber | infinity => simp [huy, UnpackedFloat.isFinite] at hfy
    | zero | finite => exact iff_of_true trivial overflow_pos
  | finite s m e hm =>
    cases huy : y.toModel.unpack with
    | notANumber | infinity => simp [huy, UnpackedFloat.isFinite] at hfy
    | zero t =>
      rw [value_of_zero huy, mul_zero, abs_zero]
      exact iff_of_true trivial overflow_pos
    | finite t n f hn =>
      obtain ⟨-, -, -, hx⟩ := bounds_of_unpack hux
      obtain ⟨-, -, -, hy⟩ := bounds_of_unpack huy
      have hvalue : |value x * value y| = ((m * n : Nat) : ℚ) * 2 ^ (e + f) := by
        rw [abs_mul, abs_value_of_finite hux, abs_value_of_finite huy, two_zpow_add]
        push_cast
        ring
      rw [hvalue]
      exact packs_exact_iff (le_target_mul hx hy hm hn) _

/-! ## Undefined doubles -/

theorem isUndefined_eq (x : Float) : isUndefined x = x.toModel.unpack.isNaN := by
  have hbeq : isUndefined x = !x.toModel.unpack.beq x.toModel.unpack := rfl
  rw [hbeq, Bool.eq_iff_iff, isNaN_iff, Bool.not_eq_true', ← Bool.not_eq_true,
    beq_iff_ne_notANumber_and_eq]
  simp

theorem isNaN_unpack_pack (u : UnpackedFloat) :
    (unpack .binary64 (pack .binary64 u)).isNaN = u.isNaN := by
  have hinfinity (s : Sign) : (unpack .binary64 (pack .binary64 (.infinity s))).isNaN = false := by
    cases s <;> decide
  cases u with
  | notANumber => decide
  | infinity s => exact hinfinity s
  | zero s => cases s <;> decide
  | finite s m e hm =>
    by_cases h : Packs (.finite s m e hm)
    · rw [← isFinite_unpack_pack_iff] at h
      revert h
      cases unpack .binary64 (pack .binary64 (.finite s m e hm)) with
      | notANumber => exact fun h => (Bool.false_ne_true h).elim
      | infinity | zero | finite => exact fun _ => rfl
    · -- What does not pack as finite packs as infinite.
      have hbig : 2 ^ Format.binary64.exponentBits ≤ (e + Format.binary64.exponentBias
          + Format.binary64.mantissaBitsWithoutImplicit).toNat + 1 := by
        simp only [Packs] at h
        show 2 ^ 11 ≤ (e + ((1023 : Nat) : Int) + (52 : Nat)).toNat + 1
        omega
      have hpack : pack .binary64 (.finite s m e hm) = pack .binary64 (.infinity s) := by
        simp only [pack, if_pos hbig]
      rw [hpack]
      exact hinfinity s

theorem isNaN_roundWithAccuracy (s : Sign) (m : Nat) (e : Int) (a : Accuracy) :
    (roundWithAccuracy .binary64 s m e a).isNaN = false := by
  simp only [roundWithAccuracy]
  split <;> rfl

theorem isNaN_normalize (n e : Int) (s : Sign) : (UnpackedFloat.normalize .binary64 n e s).isNaN = false := by
  simp only [UnpackedFloat.normalize]
  split
  · exact isNaN_roundWithAccuracy _ _ _ _
  · rfl
  · exact isNaN_roundWithAccuracy _ _ _ _

/-- A difference to a finite double is undefined only if the other one is. -/
theorem isUndefined_sub {y : Float} (h : isFinite y = true) (x : Float) :
    isUndefined (x - y) = isUndefined x := by
  have hsub : (x - y).toModel.unpack
      = unpack .binary64 (pack .binary64 (sub .binary64 x.toModel.unpack y.toModel.unpack)) := rfl
  rw [isFinite_eq] at h
  rw [isUndefined_eq, isUndefined_eq, hsub, isNaN_unpack_pack]
  cases hy : y.toModel.unpack with
  | notANumber | infinity => simp [hy, UnpackedFloat.isFinite] at h
  | zero t =>
    cases x.toModel.unpack with
    | zero s => cases s <;> cases t <;> rfl
    | notANumber | infinity | finite => rfl
  | finite t n f hn =>
    cases x.toModel.unpack with
    | notANumber | infinity | zero => rfl
    | finite s m e hm => exact isNaN_normalize _ _ _

/-! ## Quotients -/

theorem beq_zero_of_zero {x : Float} {s : Sign} (h : x.toModel.unpack = .zero s) : (x == 0) = true := by
  have hbeq : (x == 0) = x.toModel.unpack.beq (.zero .positive) := rfl
  rw [hbeq, h]
  rfl

theorem isFinite_of_packs_div {u v : UnpackedFloat} (h : Packs (div .binary64 u v)) :
    u.isFinite = true ∧ v.isNaN = false := by
  cases u with
  | notANumber => exact h.elim
  | infinity s => cases v <;> exact h.elim
  | zero s | finite s =>
    cases v with
    | notANumber => exact h.elim
    | infinity | zero | finite => exact ⟨rfl, rfl⟩

/-- **When a quotient is finite.** An infinite divisor makes it zero. -/
theorem isFinite_div_iff (x : Float) {y : Float} (h : (y == 0) = false) : isFinite (x / y) = true ↔
    isFinite x = true ∧ isUndefined y = false ∧ |value x / value y| < overflow := by
  have hdiv : x / y = .ofModel (.pack (div .binary64 x.toModel.unpack y.toModel.unpack)) := rfl
  have hfinite := isFinite_of_packs_div (u := x.toModel.unpack) (v := y.toModel.unpack)
  rw [hdiv, isFinite_pack_iff, isFinite_eq, isUndefined_eq]
  rw [← and_assoc, ← and_iff_right_of_imp hfinite, and_congr_right_iff]
  rintro ⟨hfx, hfy⟩
  cases huy : y.toModel.unpack with
  | notANumber => simp [huy, isNaN] at hfy
  | zero t => simp [beq_zero_of_zero huy] at h
  | infinity t =>
    have hvalue : value y = 0 := value_of_isFinite_eq_false (by rw [huy]; rfl)
    rw [hvalue, div_zero, abs_zero]
    cases hux : x.toModel.unpack with
    | notANumber | infinity => simp [hux, UnpackedFloat.isFinite] at hfx
    | zero | finite => exact iff_of_true trivial overflow_pos
  | finite t n f hn =>
    cases hux : x.toModel.unpack with
    | notANumber | infinity => simp [hux, UnpackedFloat.isFinite] at hfx
    | zero s =>
      rw [value_of_zero hux, zero_div, abs_zero]
      exact iff_of_true trivial overflow_pos
    | finite s m e hm =>
      rw [abs_div, abs_value_of_finite hux, abs_value_of_finite huy]
      exact packs_div_iff s t e f hm hn

end PlotDigitizer.Binary64
