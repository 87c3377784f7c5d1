/-
The nearest double.

Around every double lie the numbers that round to it (`RoundsTo`): half a unit
of the last place to both sides, the ends included if the mantissa is even, and
only a quarter below the least mantissa of a binade. `nearestRatio` gives the
double of every number in there (`parts_nearestRatio`). What it rounds is a
mantissa with one bit for all that was cut off from the quotient; such a
mantissa lies on the same side of every even number as the quotient itself
(`Marks`), and rounding asks for no more than that.
-/
import PlotDigitizer.Proofs.Number.Bits

namespace PlotDigitizer.Binary64

/-! ## Whole numbers, a half to the even one -/

theorem dropBits_eq {m s n : Nat} (hlow : 2 * n * 2 ^ s ≤ 2 * m + 2 ^ s)
    (hhigh : 2 * m ≤ 2 * n * 2 ^ s + 2 ^ s)
    (hodd : n % 2 = 1 → 2 * n * 2 ^ s < 2 * m + 2 ^ s ∧ 2 * m < 2 * n * 2 ^ s + 2 ^ s) :
    dropBits m s = n := by
  have hdiv : m / 2 ^ s * 2 ^ s + m % 2 ^ s = m := by
    rw [Nat.mul_comm]
    exact Nat.div_add_mod _ _
  have hmod := Nat.mod_lt m (Nat.two_pow_pos s)
  simp only [dropBits, Nat.shiftRight_eq_div_pow, Nat.shiftLeft_eq, Nat.pow_eq]
  generalize 2 ^ s = unit at *
  generalize m / unit = whole at *
  -- The whole part is `n`, or the number before it.
  have hwhole : whole = n ∨ whole + 1 = n := by
    have hle : whole ≤ n := by
      by_contra h
      have := Nat.mul_le_mul_right unit (Nat.succ_le_of_lt (not_le.1 h))
      rw [Nat.succ_mul] at this
      rw [Nat.mul_assoc] at hhigh hodd
      omega
    have hge : n ≤ whole + 1 := by
      by_contra h
      have := Nat.mul_le_mul_right unit (Nat.succ_le_of_lt (not_le.1 h))
      rw [Nat.succ_mul, Nat.succ_mul] at this
      rw [Nat.mul_assoc] at hlow hodd
      omega
    omega
  rw [Nat.mul_assoc] at hlow hhigh hodd
  rcases hwhole with rfl | rfl
  · split
    · rfl
    · split <;> omega
  · have hsucc : (whole + 1) * unit = whole * unit + unit := Nat.add_one_mul _ _
    rw [hsucc] at hlow hhigh hodd
    split
    · omega
    · split <;> omega

/-! ## Mantissas with a bit for what was cut off -/

/-- The mantissa `m`, counted in `2^e`, stands for `v`: it is `v`, or it is odd
and `v` lies between the numbers next to it. -/
def Marks (m : Nat) (e : Int) (v : ℚ) : Prop :=
  v = m * 2 ^ e ∨ m % 2 = 1 ∧ ((m : ℚ) - 1) * 2 ^ e < v ∧ v < (m + 1) * 2 ^ e

namespace Marks
variable {m n : Nat} {e : Int} {v : ℚ}

theorem le_iff (h : Marks m e v) (hn : n % 2 = 0) : (n : ℚ) * 2 ^ e ≤ v ↔ n ≤ m := by
  have hunit := two_zpow_pos e
  rcases h with rfl | ⟨hodd, hlow, hhigh⟩
  · rw [mul_le_mul_iff_of_pos_right hunit, Nat.cast_le]
  · constructor
    · intro h
      have hlt : (n : ℚ) < m + 1 := lt_of_mul_lt_mul_right (h.trans_lt hhigh) hunit.le
      exact Nat.lt_succ_iff.1 (by exact_mod_cast hlt)
    · intro h
      have hle : (n : ℚ) ≤ m - 1 := le_sub_iff_add_le.2 (by exact_mod_cast (by omega : n + 1 ≤ m))
      exact (mul_le_mul_of_nonneg_right hle hunit.le).trans hlow.le

theorem ge_iff (h : Marks m e v) (hn : n % 2 = 0) : v ≤ n * 2 ^ e ↔ m ≤ n := by
  have hunit := two_zpow_pos e
  rcases h with rfl | ⟨hodd, hlow, hhigh⟩
  · rw [mul_le_mul_iff_of_pos_right hunit, Nat.cast_le]
  · constructor
    · intro h
      have hlt : (m : ℚ) - 1 < n := lt_of_mul_lt_mul_right (hlow.trans_le h) hunit.le
      have hlt' : m < n + 1 := by exact_mod_cast sub_lt_iff_lt_add.1 hlt
      omega
    · intro h
      have hle : (m : ℚ) + 1 ≤ n := by exact_mod_cast (by omega : m + 1 ≤ n)
      exact hhigh.le.trans (mul_le_mul_of_nonneg_right hle hunit.le)

/-- A multiple of half a unit, where the unit is no less than `2^(e + 2)`. -/
theorem half_eq {s : Nat} (hs : 2 ≤ s) (n : Nat) :
    (n : ℚ) * 2 ^ (e + s - 1) = (n * 2 ^ (s - 1) : Nat) * 2 ^ e := by
  have hexp : e + (s : Int) - 1 = e + ((s - 1 : Nat) : Int) := by omega
  rw [hexp, two_zpow_add, zpow_natCast]
  push_cast
  ring

theorem even_half {s : Nat} (hs : 2 ≤ s) (n : Nat) : n * 2 ^ (s - 1) % 2 = 0 := by
  rw [show s - 1 = s - 2 + 1 by omega, pow_succ, ← Nat.mul_assoc]
  exact Nat.mul_mod_left _ _

theorem two_mul_half {s : Nat} (hs : 2 ≤ s) (n : Nat) : 2 * (n * 2 ^ (s - 1)) = n * 2 ^ s := by
  rw [show s = s - 1 + 1 by omega, pow_succ, Nat.add_sub_cancel]
  ring

theorem le_half_iff (h : Marks m e v) {s : Nat} (hs : 2 ≤ s) :
    (n : ℚ) * 2 ^ (e + s - 1) ≤ v ↔ n * 2 ^ s ≤ 2 * m := by
  rw [half_eq hs, h.le_iff (even_half hs n), ← two_mul_half hs]
  omega

theorem ge_half_iff (h : Marks m e v) {s : Nat} (hs : 2 ≤ s) :
    v ≤ (n : ℚ) * 2 ^ (e + s - 1) ↔ 2 * m ≤ n * 2 ^ s := by
  rw [half_eq hs, h.ge_iff (even_half hs n), ← two_mul_half hs]
  omega

/-- The leading bit of a mantissa is that of the number. -/
theorem log2_le (h : Marks m e v) (hm : 2 ≤ m) : (2 : ℚ) ^ ((m.log2 : Int) + e) ≤ v := by
  have hlog : 1 ≤ m.log2 := (Nat.le_log2 (by omega)).2 hm
  have heven : 2 ^ m.log2 % 2 = 0 := by
    rw [show m.log2 = m.log2 - 1 + 1 by omega, pow_succ]
    exact Nat.mul_mod_left _ _
  have hle := (h.le_iff heven).2 (Nat.log2_self_le (by omega))
  rwa [two_zpow_add, zpow_natCast, ← Nat.cast_two, ← Nat.cast_pow]

theorem lt_log2 (h : Marks m e v) : v < (2 : ℚ) ^ ((m.log2 : Int) + e + 1) := by
  have hlt : ¬(2 ^ (m.log2 + 1) ≤ m) := not_le.2 Nat.lt_log2_self
  rw [← h.le_iff (by rw [pow_succ]; exact Nat.mul_mod_left _ _), not_le] at hlt
  rwa [show (m.log2 : Int) + e + 1 = ((m.log2 + 1 : Nat) : Int) + e by omega, two_zpow_add, zpow_natCast,
    ← Nat.cast_two, ← Nat.cast_pow]

end Marks

/-! ## The numbers around a double -/

/-- How far the numbers that round to a double reach below it, in quarters of
its unit. -/
def reach (m : Nat) (e : Int) : Nat := if m = 2 ^ 52 ∧ -1074 < e then 1 else 2

/-- The numbers that round to the double `m * 2^e`. -/
structure RoundsTo (m : Nat) (e : Int) (v : ℚ) : Prop where
  low : (4 * m - reach m e : ℚ) * 2 ^ (e - 2) ≤ v
  high : v ≤ (4 * m + 2 : ℚ) * 2 ^ (e - 2)
  strict : m % 2 = 1 → (4 * m - reach m e : ℚ) * 2 ^ (e - 2) < v ∧ v < (4 * m + 2 : ℚ) * 2 ^ (e - 2)

theorem lt_of_two_zpow_lt {a b : Int} (h : (2 : ℚ) ^ a < 2 ^ b) : a < b :=
  (zpow_lt_zpow_iff_right₀ (by norm_num)).1 h

theorem two_zpow_sub_two (e : Int) : (2 : ℚ) ^ e = 4 * 2 ^ (e - 2) := by
  rw [zpow_sub₀ (by norm_num)]
  ring

theorem two_zpow_sub_one (e : Int) : (2 : ℚ) ^ (e - 1) = 2 * 2 ^ (e - 2) := by
  rw [show e - 1 = e - 2 + 1 by omega, two_zpow_add]
  ring

theorem reach_le (m : Nat) (e : Int) : reach m e ≤ 2 := by
  unfold reach
  split <;> decide

section
variable {m n : Nat} {e f : Int} {v : ℚ}

theorem RoundsTo.lt_top (h : RoundsTo m e v) (hc : Canonical m e) : v < 2 ^ (e + 53) := by
  have hm : (m : ℚ) + 1 ≤ 2 ^ 53 := by exact_mod_cast hc.lt
  have hunit := two_zpow_pos (e - 2)
  calc v ≤ (4 * m + 2) * 2 ^ (e - 2) := h.high
    _ < (4 * 2 ^ 53) * 2 ^ (e - 2) := mul_lt_mul_of_pos_right (by linarith) hunit
    _ = 2 ^ (e + 53) := by
        rw [two_zpow_add, two_zpow_sub_two e]
        norm_num
        ring

/-- What rounds to a double that is not zero is half the least one or more. -/
theorem RoundsTo.bottom_le (h : RoundsTo m e v) (hc : Canonical m e) (hm : 0 < m) :
    (2 : ℚ) ^ (-(1075 : Nat) : Int) ≤ v := by
  have hone : (1 : ℚ) ≤ m := by exact_mod_cast hm
  have hreach : (reach m e : ℚ) ≤ 2 := by exact_mod_cast reach_le m e
  have hleast := hc.least
  calc (2 : ℚ) ^ (-(1075 : Nat) : Int) = 2 * 2 ^ (-1074 - 2 : Int) := by
        rw [← two_zpow_sub_one, show (-(1075 : Nat) : Int) = -1074 - 1 from rfl]
    _ ≤ 2 * 2 ^ (e - 2) := mul_le_mul_of_nonneg_left (two_zpow_le (by omega)) (by norm_num)
    _ ≤ (4 * m - reach m e) * 2 ^ (e - 2) :=
        mul_le_mul_of_nonneg_right (by linarith) (two_zpow_pos _).le
    _ ≤ v := h.low

theorem RoundsTo.low_half (h : RoundsTo m e v) : (2 * m - 1 : ℚ) * 2 ^ (e - 1) ≤ v ∧
    (m % 2 = 1 → (2 * m - 1 : ℚ) * 2 ^ (e - 1) < v) := by
  have hreach : (reach m e : ℚ) ≤ 2 := by exact_mod_cast reach_le m e
  have hle : (2 * m - 1 : ℚ) * 2 ^ (e - 1) ≤ (4 * m - reach m e) * 2 ^ (e - 2) := by
    rw [two_zpow_sub_one, ← mul_assoc]
    exact mul_le_mul_of_nonneg_right (by linarith) (two_zpow_pos _).le
  exact ⟨hle.trans h.low, fun hodd => hle.trans_lt (h.strict hodd).1⟩

theorem RoundsTo.high_half (h : RoundsTo m e v) : v ≤ (2 * m + 1 : ℚ) * 2 ^ (e - 1) ∧
    (m % 2 = 1 → v < (2 * m + 1 : ℚ) * 2 ^ (e - 1)) := by
  have heq : (2 * m + 1 : ℚ) * 2 ^ (e - 1) = (4 * m + 2) * 2 ^ (e - 2) := by
    rw [two_zpow_sub_one]
    ring
  rw [heq]
  exact ⟨h.high, fun hodd => (h.strict hodd).2⟩

/-- Below a binade only the numbers next to its least double round into it. -/
theorem RoundsTo.eq_of_lt (h : RoundsTo m e v) (hc : Canonical m e) (he : -1074 < e)
    (hv : v < 2 ^ (e + 52)) : m = 2 ^ 52 ∧ (2 ^ 54 - 1 : ℚ) * 2 ^ (e - 2) ≤ v := by
  have hfull : 2 ^ 52 ≤ m := hc.full.resolve_right (by omega)
  have hunit := two_zpow_pos (e - 2)
  have hpow : (2 : ℚ) ^ (e + 52) = 2 ^ 54 * 2 ^ (e - 2) := by
    rw [show e + 52 = 54 + (e - 2) by omega, two_zpow_add]
    norm_num
  have hm : m = 2 ^ 52 := by
    have hreach : (reach m e : ℚ) ≤ 2 := by exact_mod_cast reach_le m e
    have hlt : (4 * m - reach m e : ℚ) < 2 ^ 54 :=
      lt_of_mul_lt_mul_right (h.low.trans_lt (hpow ▸ hv)) hunit.le
    have hlt' : (m : ℚ) < 2 ^ 52 + 1 := by linarith
    have : m < 2 ^ 52 + 1 := by exact_mod_cast hlt'
    omega
  refine ⟨hm, ?_⟩
  have hlow := h.low
  rw [reach, if_pos ⟨hm, he⟩, hm] at hlow
  norm_num at hlow ⊢
  exact hlow

/-- A mantissa rounds to `n` at the place `e` if it stands for a number no
further than half a unit from it. -/
theorem dropBits_of_marks {s : Nat} (h : Marks m f v) (hs : 2 ≤ s) (he : e = f + s)
    (hlow : (2 * n - 1 : ℚ) * 2 ^ (e - 1) ≤ v) (hhigh : v ≤ (2 * n + 1 : ℚ) * 2 ^ (e - 1))
    (hstrict : n % 2 = 1 → (2 * n - 1 : ℚ) * 2 ^ (e - 1) < v ∧ v < (2 * n + 1 : ℚ) * 2 ^ (e - 1))
    (hn : 0 < n) : dropBits m s = n := by
  have hcastLow : (2 * n - 1 : ℚ) = ((2 * n - 1 : Nat) : ℚ) := by
    rw [Nat.cast_sub (by omega)]
    push_cast
    rfl
  have hcastHigh : (2 * n + 1 : ℚ) = ((2 * n + 1 : Nat) : ℚ) := by push_cast; rfl
  subst he
  have hminus : (2 * n - 1) * 2 ^ s = 2 * n * 2 ^ s - 2 ^ s := by rw [Nat.sub_mul, Nat.one_mul]
  have hplus : (2 * n + 1) * 2 ^ s = 2 * n * 2 ^ s + 2 ^ s := by rw [Nat.add_mul, Nat.one_mul]
  rw [hcastLow, h.le_half_iff hs] at hlow
  rw [hcastHigh, h.ge_half_iff hs] at hhigh
  refine dropBits_eq (by omega) (by omega) fun hodd => ?_
  obtain ⟨hlow', hhigh'⟩ := hstrict hodd
  rw [hcastLow, ← not_le, h.ge_half_iff hs] at hlow'
  rw [hcastHigh, ← not_le, h.le_half_iff hs] at hhigh'
  omega

/-- **Rounding finds the double** that a number rounds to, from a mantissa that
stands for the number. -/
theorem nearestBits_eq (hmarks : Marks n f v) (hn : 2 ^ 65 ≤ n) (hc : Canonical m e) (hm : 0 < m)
    (h : RoundsTo m e v) : nearestBits n f = bitsOf m e := by
  have hlog : 65 ≤ n.log2 := (Nat.le_log2 (by omega)).2 hn
  have hle := hmarks.log2_le (by omega)
  have hlt := hmarks.lt_log2
  have hbits := hc.bitsOf_lt
  have hunit := two_zpow_pos (e - 2)
  have hhalf := two_zpow_sub_one e
  have htop : (n.log2 : Int) + f < e + 53 := lt_of_two_zpow_lt (hle.trans_lt (h.lt_top hc))
  -- The unit is that of the double, but for numbers just below a binade.
  by_cases hplace : max ((n.log2 : Int) + f - 52) (-1074) = e
  · have hdrop : dropBits n (e - f).toNat = m :=
      dropBits_of_marks hmarks (by have := hc.least; omega) (by omega) h.low_half.1 h.high_half.1
        (fun hodd => ⟨h.low_half.2 hodd, h.high_half.2 hodd⟩) hm
    have hshift : ¬(e ≤ f) := by omega
    simp only [nearestBits, hplace, hshift, if_false, hdrop, Nat.pow_eq]
    exact min_eq_left (by rw [bitsOf] at hbits; omega)
  · have he : -1074 < e := by have := hc.least; omega
    have hbelow : (2 : ℚ) ^ ((n.log2 : Int) + f + 1) ≤ 2 ^ (e + 52) := two_zpow_le (by omega)
    obtain ⟨rfl, hlow⟩ := h.eq_of_lt hc he (hlt.trans_le hbelow)
    have hfirst : e + 51 < (n.log2 : Int) + f + 1 := by
      refine lt_of_two_zpow_lt (lt_of_le_of_lt ?_ (hlow.trans_lt hlt))
      rw [show e + 51 = 53 + (e - 2) by omega, two_zpow_add]
      exact mul_le_mul_of_nonneg_right (by norm_num) hunit.le
    have hplace' : max ((n.log2 : Int) + f - 52) (-1074) = e - 1 := by omega
    have hdrop : dropBits n (e - 1 - f).toNat = 2 ^ 53 := by
      have hlow' : (2 * (2 ^ 53 : Nat) - 1 : ℚ) * 2 ^ (e - 1 - 1) ≤ v := by
        rw [show e - 1 - 1 = e - 2 by omega]
        norm_num at hlow ⊢
        exact hlow
      have hhigh' : v ≤ (2 * (2 ^ 53 : Nat) + 1 : ℚ) * 2 ^ (e - 1 - 1) := by
        refine (hlt.trans_le hbelow).le.trans ?_
        rw [show e - 1 - 1 = e - 2 by omega, show e + 52 = 54 + (e - 2) by omega, two_zpow_add]
        exact mul_le_mul_of_nonneg_right (by norm_num) hunit.le
      exact dropBits_of_marks hmarks (by omega) (by omega) hlow' hhigh'
        (fun hodd => absurd hodd (by decide)) (by decide)
    have hshift : ¬(e - 1 ≤ f) := by omega
    simp only [nearestBits, hplace', hshift, if_false, hdrop, Nat.pow_eq]
    rw [bitsOf] at hbits ⊢
    omega

end

/-! ## Quotients -/

/-- A quotient of enough bits, with one more for the remainder, stands for the
exact quotient. -/
theorem marks_quotient (num k : Nat) {den : Nat} (hden : 0 < den) :
    Marks (2 * ((num <<< k) / den) + if (num <<< k) / den * den = num <<< k then 0 else 1)
      (-(k : Int) - 1) (num / den) := by
  have hden' : (0 : ℚ) < den := Nat.cast_pos.2 hden
  have hunit := two_zpow_pos (-(k : Int) - 1)
  have hvalue : (num / den : ℚ) = (2 * (num <<< k : Nat) / den) * 2 ^ (-(k : Int) - 1) := by
    rw [Nat.shiftLeft_eq, zpow_sub_one₀ (by norm_num), zpow_neg, zpow_natCast]
    push_cast
    field_simp
  rw [hvalue]
  generalize num <<< k = n
  split
  · rename_i h
    left
    rw [← h]
    push_cast
    field_simp
    rw [h]
    ring
  · rename_i h
    have hlow : n / den * den < n := lt_of_le_of_ne (Nat.div_mul_le_self _ _) h
    have hhigh : n < (n / den + 1) * den := (Nat.div_lt_iff_lt_mul hden).1 (Nat.lt_succ_self _)
    have hlow' : ((n / den : Nat) : ℚ) < n / den := (lt_div_iff₀ hden').2 (by exact_mod_cast hlow)
    have hhigh' : (n / den : ℚ) < (n / den : Nat) + 1 := (div_lt_iff₀ hden').2 (by exact_mod_cast hhigh)
    right
    refine ⟨by omega, mul_lt_mul_of_pos_right ?_ hunit, mul_lt_mul_of_pos_right ?_ hunit⟩ <;>
      · push_cast
        rw [mul_div_assoc]
        linarith

theorem two_pow_le_quotient {num den : Nat} (hnum : 0 < num) (hden : 0 < den) :
    2 ^ 65 ≤ (num <<< (den.log2 + 66 - num.log2)) / den := by
  rw [Nat.le_div_iff_mul_le hden, Nat.shiftLeft_eq]
  calc 2 ^ 65 * den ≤ 2 ^ 65 * 2 ^ (den.log2 + 1) := Nat.mul_le_mul_left _ Nat.lt_log2_self.le
    _ = 2 ^ (65 + (den.log2 + 1)) := (pow_add 2 _ _).symm
    _ ≤ 2 ^ (num.log2 + (den.log2 + 66 - num.log2)) := Nat.pow_le_pow_right (by decide) (by omega)
    _ = 2 ^ num.log2 * 2 ^ (den.log2 + 66 - num.log2) := pow_add 2 _ _
    _ ≤ num * 2 ^ (den.log2 + 66 - num.log2) := Nat.mul_le_mul_right _ (Nat.log2_self_le hnum.ne')

/-- **A quotient gives the double that it rounds to.** -/
theorem parts_nearestRatio {num den m : Nat} {e : Int} (hnum : 0 < num) (hden : 0 < den)
    (hc : Canonical m e) (hm : 0 < m) (h : RoundsTo m e (num / den)) :
    parts (nearestRatio num den) = .finite false m e := by
  have hbits := two_pow_le_quotient hnum hden
  have hmarks := marks_quotient num (den.log2 + 66 - num.log2) hden
  simp only [nearestRatio, hnum.ne', if_false, nearest]
  rw [if_neg (by omega), nearestBits_eq hmarks (by omega) hc hm h, parts_ofBits hc]

end PlotDigitizer.Binary64
