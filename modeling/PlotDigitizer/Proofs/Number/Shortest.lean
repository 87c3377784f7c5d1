/-
The shortest digits read back.

A point of a decimal grid is taken for a double only if it rounds to it
(`Interval.contains_iff`), so `shortest` rounds to its double as soon as the
search finds a point at all. It does within seventeen digits: there the grid is
finer than the interval is wide (`Interval.onGrid?_ne_none`), so one of the two
points next to the double lies in it. With that, reading the digits gives the
double they were made of, however the decimal number is written
(`Decimal.signed_of_parts`).
-/
import PlotDigitizer.Number.Numeral
import PlotDigitizer.Proofs.Number.Nearest

namespace PlotDigitizer.Decimal

open Binary64 (Canonical RoundsTo reach two_zpow_pos two_zpow_add two_zpow_sub_two parts)

/-- The number that a decimal stands for. -/
def value (d : Decimal) : ℚ := d.digits * 10 ^ d.exponent

theorem ten_zpow_pos (k : Int) : (0 : ℚ) < 10 ^ k := zpow_pos (by norm_num) k

theorem ten_zpow_eq (k : Int) : (10 : ℚ) ^ k = 10 ^ k.toNat / 10 ^ (-k).toNat := by
  rw [eq_div_iff (by positivity), ← zpow_natCast, ← zpow_natCast, ← zpow_add₀ (by norm_num)]
  congr 1
  omega

/-- Dropping zeros at the end keeps the number. -/
theorem value_trim (room : Nat) (d : Decimal) : (d.trim room).value = d.value := by
  induction room generalizing d with
  | zero => rfl
  | succ room ih =>
    rw [trim]
    split
    · rename_i h
      have hdigits : d.digits = d.digits / 10 * 10 := by omega
      have hcast : (d.digits : ℚ) = (d.digits / 10 : Nat) * 10 := by exact_mod_cast hdigits
      rw [ih, value, value, hcast, zpow_add_one₀ (by norm_num)]
      ring
    · rfl

/-! ## The interval of a double -/

namespace Interval
variable {m : Nat} {e : Int}

/-- What is counted in units of the interval. -/
theorem shift_div_unit (a : Nat) (e : Int) :
    ((a <<< (e - 2).toNat : Nat) : ℚ) / (Interval.of m e).unit = a * 2 ^ (e - 2) := by
  have hunit : (Interval.of m e).unit = 2 ^ (2 - e).toNat := Nat.one_shiftLeft _
  have hpow : (2 : ℚ) ^ (e - 2) = 2 ^ (e - 2).toNat / 2 ^ (2 - e).toNat := by
    rw [eq_div_iff (by positivity), ← zpow_natCast, ← zpow_natCast, ← two_zpow_add]
    congr 1
    omega
  rw [hunit, Nat.shiftLeft_eq, hpow]
  push_cast
  ring

theorem unit_pos : 0 < (Interval.of m e).unit := by
  rw [Interval.of, Nat.one_shiftLeft]
  exact Nat.two_pow_pos _

theorem low_div_unit (hm : 0 < m) :
    ((Interval.of m e).low : ℚ) / (Interval.of m e).unit = (4 * m - reach m e) * 2 ^ (e - 2) := by
  have hreach := Binary64.reach_le m e
  have hlow : (Interval.of m e).low = (4 * m - reach m e) <<< (e - 2).toNat := rfl
  rw [hlow, shift_div_unit, Nat.cast_sub (by omega)]
  push_cast
  rfl

theorem high_div_unit :
    ((Interval.of m e).high : ℚ) / (Interval.of m e).unit = (4 * m + 2) * 2 ^ (e - 2) := by
  have hhigh : (Interval.of m e).high = (4 * m + 2) <<< (e - 2).toNat := rfl
  rw [hhigh, shift_div_unit]
  push_cast
  rfl

theorem value_div_unit : ((Interval.of m e).value : ℚ) / (Interval.of m e).unit = m * 2 ^ e := by
  have hvalue : (Interval.of m e).value = (4 * m) <<< (e - 2).toNat := rfl
  rw [hvalue, shift_div_unit, two_zpow_sub_two e]
  push_cast
  ring

/-- A multiple of a power of ten is compared with a bound in whole numbers. -/
theorem le_point_iff (bound : Nat) {unit : Nat} (hunit : 0 < unit) (n : Nat) (k : Int) :
    bound * 10 ^ (-k).toNat ≤ n * 10 ^ k.toNat * unit ↔ (bound / unit : ℚ) ≤ n * 10 ^ k := by
  have hunit' : (0 : ℚ) < unit := Nat.cast_pos.2 hunit
  rw [ten_zpow_eq, mul_div_assoc', div_le_div_iff₀ hunit' (by positivity)]
  exact_mod_cast Iff.rfl

theorem point_le_iff (bound : Nat) {unit : Nat} (hunit : 0 < unit) (n : Nat) (k : Int) :
    n * 10 ^ k.toNat * unit ≤ bound * 10 ^ (-k).toNat ↔ (n * 10 ^ k : ℚ) ≤ bound / unit := by
  have hunit' : (0 : ℚ) < unit := Nat.cast_pos.2 hunit
  rw [ten_zpow_eq, mul_div_assoc', div_le_div_iff₀ (by positivity) hunit']
  exact_mod_cast Iff.rfl

/-- **The interval holds the numbers that round to its double.** -/
theorem contains_iff (hm : 0 < m) (n : Nat) (k : Int) :
    (Interval.of m e).contains n k = true ↔ RoundsTo m e (n * 10 ^ k) := by
  have hclosed : (Interval.of m e).closed = decide (m % 2 = 0) := rfl
  have hunit : 0 < (Interval.of m e).unit := unit_pos
  have hlow := le_point_iff (Interval.of m e).low hunit n k
  have hhigh := point_le_iff (Interval.of m e).high hunit n k
  have hlow' := point_le_iff (Interval.of m e).low hunit n k
  have hhigh' := le_point_iff (Interval.of m e).high hunit n k
  rw [low_div_unit hm] at hlow hlow'
  rw [high_div_unit] at hhigh hhigh'
  simp only [contains, hclosed, Nat.pow_eq, decide_eq_true_eq]
  split
  · rename_i heven
    rw [Bool.and_eq_true, decide_eq_true_eq, decide_eq_true_eq, hlow, hhigh]
    exact ⟨fun h => ⟨h.1, h.2, fun hodd => by omega⟩, fun h => ⟨h.low, h.high⟩⟩
  · rename_i hodd
    rw [Bool.and_eq_true, decide_eq_true_eq, decide_eq_true_eq, ← not_le, ← not_le, hlow', hhigh',
      not_le, not_le]
    exact ⟨fun h => ⟨h.1.le, h.2.le, fun _ => h⟩, fun h => h.strict (by omega)⟩

/-- What is found on a grid is a point of it that the interval holds. -/
theorem contains_of_onGrid? {i : Interval} {k : Int} {d : Decimal} (h : i.onGrid? k = some d) :
    i.contains d.digits d.exponent = true := by
  simp only [onGrid?] at h
  split at h
  · rename_i hfloor hnext
    obtain rfl := Option.some.inj h
    split
    · exact hnext
    · exact hfloor
  · rename_i hfloor _
    obtain rfl := Option.some.inj h
    exact hfloor
  · rename_i _ hnext
    obtain rfl := Option.some.inj h
    exact hnext
  · exact absurd h (by simp)

theorem contains_of_search {i : Interval} {room : Nat} {k : Int} {d : Decimal}
    (h : i.search room k = some d) : i.contains d.digits d.exponent = true := by
  induction room generalizing k with
  | zero => exact absurd h (by simp [search])
  | succ room ih =>
    rw [search] at h
    split at h
    · rename_i hgrid
      exact contains_of_onGrid? (hgrid.trans h)
    · exact ih h

/-! ## Seventeen digits suffice -/

/-- What lies strictly between the ends rounds to the double. -/
theorem roundsTo_of_between {v : ℚ} (hlow : (4 * m - reach m e : ℚ) * 2 ^ (e - 2) < v)
    (hhigh : v < (4 * m + 2 : ℚ) * 2 ^ (e - 2)) : RoundsTo m e v :=
  ⟨hlow.le, hhigh.le, fun _ => ⟨hlow, hhigh⟩⟩

/-- A grid finer than the interval has a point in it. -/
theorem onGrid?_ne_none (hm : 0 < m) {k : Int}
    (hk : (10 : ℚ) ^ k < (reach m e + 2) * 2 ^ (e - 2)) : (Interval.of m e).onGrid? k ≠ none := by
  intro hnone
  have hstep := ten_zpow_pos k
  have hunit := two_zpow_pos (e - 2)
  have hreach : (0 : ℚ) < reach m e := by
    unfold reach
    split <;> norm_num
  -- No grid point next to the double is in the interval.
  generalize hfloor : (Interval.of m e).value * Nat.pow 10 (-k).toNat
      / ((Interval.of m e).unit * Nat.pow 10 k.toNat) = floor
  have hout : ¬RoundsTo m e (floor * 10 ^ k) ∧ ¬RoundsTo m e ((floor + 1 : Nat) * 10 ^ k) := by
    rw [← contains_iff hm, ← contains_iff hm]
    simp only [onGrid?, hfloor] at hnone
    split at hnone <;> simp_all
  have hunit' : (0 : ℚ) < (Interval.of m e).unit := Nat.cast_pos.2 unit_pos
  have hvalue : (m : ℚ) * 2 ^ e / 10 ^ k = ((Interval.of m e).value * 10 ^ (-k).toNat : Nat)
      / ((Interval.of m e).unit * 10 ^ k.toNat : Nat) := by
    rw [← value_div_unit (m := m), ten_zpow_eq]
    push_cast
    field_simp
  have hden : 0 < (Interval.of m e).unit * 10 ^ k.toNat := Nat.mul_pos unit_pos (by positivity)
  have hle : (floor : ℚ) * 10 ^ k ≤ m * 2 ^ e := by
    rw [← le_div_iff₀ hstep, hvalue, le_div_iff₀ (by exact_mod_cast hden), ← hfloor]
    exact_mod_cast Nat.div_mul_le_self _ _
  have hlt : (m : ℚ) * 2 ^ e < (floor + 1 : Nat) * 10 ^ k := by
    rw [← div_lt_iff₀ hstep, hvalue, div_lt_iff₀ (by exact_mod_cast hden), ← hfloor]
    exact_mod_cast (Nat.div_lt_iff_lt_mul hden).1 (Nat.lt_succ_self _)
  have hfour := two_zpow_sub_two e
  have hbelow : (floor : ℚ) * 10 ^ k ≤ (4 * m - reach m e) * 2 ^ (e - 2) := by
    by_contra h
    exact hout.1 (roundsTo_of_between (not_le.1 h) (by nlinarith))
  have habove : (4 * m + 2 : ℚ) * 2 ^ (e - 2) ≤ (floor + 1 : Nat) * 10 ^ k := by
    by_contra h
    exact hout.2 (roundsTo_of_between (by nlinarith) (not_le.1 h))
  push_cast at habove
  nlinarith

theorem search_ne_none {i : Interval} {room : Nat} {k : Int} {j : Nat} (hj : j < room)
    (h : i.onGrid? (k - j) ≠ none) : i.search room k ≠ none := by
  induction room generalizing k j with
  | zero => omega
  | succ room ih =>
    rw [search]
    split
    · exact Option.some_ne_none _
    · rename_i hgrid
      cases j with
      | zero =>
        rw [Nat.cast_zero, sub_zero] at h
        exact absurd hgrid h
      | succ j =>
        refine ih (j := j) (by omega) ?_
        rwa [show k - 1 - (j : Int) = k - ((j + 1 : Nat) : Int) by omega]

end Interval

theorem le_mul_stepsToOne {num den room : Nat} (h : den ≤ num * 10 ^ room) :
    den ≤ num * 10 ^ stepsToOne num den room := by
  induction room generalizing num with
  | zero => exact h
  | succ room ih =>
    rw [stepsToOne]
    split
    · rwa [pow_zero, Nat.mul_one]
    · rw [pow_succ', ← Nat.mul_assoc] at h ⊢
      exact ih h

theorem le_of_length_toDigits {n : Nat} (hn : 0 < n) : 10 ^ ((Nat.toDigits 10 n).length - 1) ≤ n := by
  rcases Nat.eq_zero_or_pos ((Nat.toDigits 10 n).length - 1) with h | h
  · rwa [h, pow_zero]
  · rw [← not_lt, ← Nat.length_toDigits_le_iff (by decide) h]
    omega

theorem lt_of_length_toDigits (n : Nat) : n < 10 ^ (Nat.toDigits 10 n).length :=
  (Nat.length_toDigits_le_iff (by decide) Nat.length_toDigits_pos).1 le_rfl

/-- The power of ten at the first digit is no greater than the number. -/
theorem ten_zpow_leading_le {num den : Nat} (hnum : 0 < num) (hden : 0 < den) :
    (10 : ℚ) ^ leading num den ≤ num / den := by
  have hden' : (0 : ℚ) < den := Nat.cast_pos.2 hden
  rw [le_div_iff₀ hden', leading]
  split
  · rename_i hle
    have hfloor : 0 < num / den := Nat.div_pos hle hden
    have hlen : 0 < (Nat.toDigits 10 (num / den)).length := Nat.length_toDigits_pos
    rw [show ((Nat.toDigits 10 (num / den)).length : Int) - 1
      = ((Nat.toDigits 10 (num / den)).length - 1 : Nat) by omega, zpow_natCast]
    exact_mod_cast (Nat.mul_le_mul_right den (le_of_length_toDigits hfloor)).trans (Nat.div_mul_le_self _ _)
  · have hroom : den ≤ num * 10 ^ (den.log2 + 1) :=
      calc den ≤ 2 ^ (den.log2 + 1) := Nat.lt_log2_self.le
        _ ≤ 10 ^ (den.log2 + 1) := Nat.pow_le_pow_left (by decide) _
        _ ≤ num * 10 ^ (den.log2 + 1) := Nat.le_mul_of_pos_left _ hnum
    have hsteps := le_mul_stepsToOne hroom
    rw [zpow_neg, zpow_natCast, inv_mul_le_iff₀ (by positivity), mul_comm]
    exact_mod_cast hsteps

section
variable {m : Nat} {e : Int} {d : Decimal}

/-- Sixteen places below the first digit, the grid is finer than the interval. -/
theorem ten_zpow_lt (hc : Canonical m e) {k : Int} (hk : (10 : ℚ) ^ k ≤ m * 2 ^ e) :
    (10 : ℚ) ^ (k - 16) < (reach m e + 2) * 2 ^ (e - 2) := by
  have hunit := two_zpow_pos (e - 2)
  have hm : (m : ℚ) < 2 ^ 53 := by exact_mod_cast hc.lt
  have hsplit : (10 : ℚ) ^ (k - 16) = 10 ^ k / 10 ^ 16 := by
    rw [zpow_sub₀ (by norm_num)]
    norm_num
  rw [hsplit, div_lt_iff₀ (by norm_num)]
  refine hk.trans_lt ?_
  rw [two_zpow_sub_two e, show (m : ℚ) * (4 * 2 ^ (e - 2)) = 4 * m * 2 ^ (e - 2) by ring,
    show ((reach m e : ℚ) + 2) * 2 ^ (e - 2) * 10 ^ 16 = (reach m e + 2) * 10 ^ 16 * 2 ^ (e - 2) by ring]
  refine mul_lt_mul_of_pos_right ?_ hunit
  unfold reach
  split
  · rename_i h
    rw [h.1]
    norm_num
  · rw [Nat.cast_ofNat]
    linarith

/-- **The shortest digits round to their double.** -/
theorem roundsTo_shortest (hc : Canonical m e) (hm : 0 < m) : RoundsTo m e (shortest m e).value := by
  have hvalue : 0 < (Interval.of m e).value := by
    have : (Interval.of m e).value = (4 * m) <<< (e - 2).toNat := rfl
    rw [this, Nat.shiftLeft_eq]
    positivity
  have hleading := ten_zpow_leading_le hvalue (Interval.unit_pos (m := m) (e := e))
  rw [Interval.value_div_unit] at hleading
  have hgrid := Interval.onGrid?_ne_none hm (ten_zpow_lt hc hleading)
  have hfound : (Interval.of m e).search 17 _ ≠ none := Interval.search_ne_none (by decide : 16 < 17) hgrid
  obtain ⟨d, hd⟩ := Option.ne_none_iff_exists'.1 hfound
  simp only [shortest, hm.ne', if_false, hd]
  rw [value_trim]
  exact (Interval.contains_iff hm _ _).1 (Interval.contains_of_search hd)

/-! ## Reading a decimal number -/

theorem digits_pos (h : 0 < d.value) : 0 < d.digits := by
  by_contra hzero
  rw [value, Nat.eq_zero_of_not_pos hzero, Nat.cast_zero, zero_mul] at h
  exact h.false

theorem value_lt (d : Decimal) :
    d.value < 10 ^ (d.exponent + ((Nat.toDigits 10 d.digits).length : Int)) := by
  rw [value, add_comm, zpow_add₀ (by norm_num), zpow_natCast]
  exact mul_lt_mul_of_pos_right (by exact_mod_cast lt_of_length_toDigits _) (ten_zpow_pos _)

theorem le_value (h : 0 < d.digits) :
    (10 : ℚ) ^ (d.exponent + ((Nat.toDigits 10 d.digits).length : Int) - 1) ≤ d.value := by
  have hlen : 0 < (Nat.toDigits 10 d.digits).length := Nat.length_toDigits_pos
  rw [value, show d.exponent + ((Nat.toDigits 10 d.digits).length : Int) - 1
    = ((Nat.toDigits 10 d.digits).length - 1 : Nat) + d.exponent by omega, zpow_add₀ (by norm_num),
    zpow_natCast]
  exact mul_le_mul_of_nonneg_right (by exact_mod_cast le_of_length_toDigits h) (ten_zpow_pos _).le

theorem two_pow_le_ten_pow (n : Nat) : (2 : ℚ) ^ (13 * n) ≤ 10 ^ (4 * n) := by
  rw [pow_mul, pow_mul]
  exact pow_le_pow_left₀ (by norm_num) (by norm_num) n

/-- Below the powers of ten that are read, there is no double but zero. -/
theorem ten_zpow_lt_least : (10 : ℚ) ^ (-(331 : Nat) : Int) < 2 ^ (-(1075 : Nat) : Int) := by
  rw [zpow_neg, zpow_neg, zpow_natCast, zpow_natCast, inv_lt_inv₀ (by positivity) (by positivity)]
  calc (2 : ℚ) ^ 1075 = 2 ^ (13 * 82) * 2 ^ 9 := (pow_add 2 (13 * 82) 9)
    _ ≤ 10 ^ (4 * 82) * 2 ^ 9 := mul_le_mul_of_nonneg_right (two_pow_le_ten_pow 82) (by norm_num)
    _ < 10 ^ (4 * 82) * 10 ^ 3 := mul_lt_mul_of_pos_left (by norm_num) (by positivity)
    _ = 10 ^ 331 := (pow_add 10 (4 * 82) 3).symm

/-- Above the powers of ten that are read, there is no double. -/
theorem greatest_le_ten_zpow : (2 : ℚ) ^ ((1024 : Nat) : Int) ≤ 10 ^ ((320 : Nat) : Int) := by
  rw [zpow_natCast, zpow_natCast]
  calc (2 : ℚ) ^ 1024 ≤ 2 ^ (13 * 80) := pow_le_pow_right₀ (by norm_num) (by norm_num)
    _ ≤ 10 ^ (4 * 80) := two_pow_le_ten_pow 80

/-- **A decimal number is read as the double that it rounds to.** -/
theorem parts_toFloat (hc : Canonical m e) (hm : 0 < m) (h : RoundsTo m e d.value) :
    parts d.toFloat = .finite false m e := by
  have hleast : (2 : ℚ) ^ (-(1075 : Nat) : Int) ≤ d.value := h.bottom_le hc hm
  have hgreatest : d.value < (2 : ℚ) ^ ((1024 : Nat) : Int) :=
    (h.lt_top hc).trans_le (Binary64.two_zpow_le (by have := hc.greatest; omega))
  have hdigits : 0 < d.digits := digits_pos ((two_zpow_pos _).trans_le hleast)
  generalize hfirst : d.exponent + ((Nat.toDigits 10 d.digits).length : Int) = first
  have hnotBelow : ¬(first < -330) := fun hbelow => by
    have hle : (10 : ℚ) ^ first ≤ 10 ^ (-(331 : Nat) : Int) :=
      zpow_le_zpow_right₀ (by norm_num) (by omega)
    have hlt : d.value < 10 ^ first := hfirst ▸ value_lt d
    exact (hleast.trans_lt (hlt.trans_le (hle.trans ten_zpow_lt_least.le))).false
  have hnotAbove : ¬(320 < first) := fun habove => by
    have hle : (10 : ℚ) ^ ((320 : Nat) : Int) ≤ 10 ^ (first - 1) :=
      zpow_le_zpow_right₀ (by norm_num) (by omega)
    have hlast : (10 : ℚ) ^ (first - 1) ≤ d.value := hfirst ▸ le_value hdigits
    exact (hgreatest.trans_le (greatest_le_ten_zpow.trans (hle.trans hlast))).false
  have hguard : ¬(d.digits = 0 ∨ first < -330) := by omega
  simp only [toFloat, hfirst, hguard, if_false, hnotAbove, Nat.pow_eq]
  refine Binary64.parts_nearestRatio (by positivity) (by positivity) hc hm ?_
  rw [value, ten_zpow_eq, mul_div_assoc'] at h
  push_cast
  exact h

/-- Zero is written without an exponent. -/
theorem exponent_shortest {x : Float} {negative : Bool} (h : parts x = .finite negative m e)
    (hzero : (shortest m e).digits = 0) : (shortest m e).exponent = 0 := by
  rcases Nat.eq_zero_or_pos m with rfl | hm
  · rfl
  · have hc := Binary64.canonical_of_parts h
    have hpos := (two_zpow_pos _).trans_le ((roundsTo_shortest hc hm).bottom_le hc hm)
    exact absurd hzero (digits_pos hpos).ne'

/-- A decimal number under a sign. -/
def signed (negative : Bool) (d : Decimal) : Float := if negative then -d.toFloat else d.toFloat

/-- **Reading back.** Whatever way the shortest decimal number of a double is
written, it is read as the double. -/
theorem signed_of_parts {x : Float} {negative : Bool} (h : parts x = .finite negative m e)
    (hd : d.value = (shortest m e).value) : signed negative d = x := by
  have hc := Binary64.canonical_of_parts h
  have hread : parts d.toFloat = .finite false m e := by
    rcases Nat.eq_zero_or_pos m with rfl | hm
    · have hzero : (d.digits : ℚ) * 10 ^ d.exponent = 0 := hd.trans (by simp [shortest, value])
      have hdigits : d.digits = 0 :=
        Nat.cast_eq_zero.1 ((mul_eq_zero.1 hzero).resolve_right (ten_zpow_pos _).ne')
      obtain rfl : e = -1074 := hc.full.resolve_left (by decide)
      rw [toFloat, if_pos (.inl hdigits), Binary64.parts_eq]
      rfl
    · refine parts_toFloat hc hm ?_
      rw [hd]
      exact roundsTo_shortest hc hm
  rw [signed]
  split
  · rename_i hneg
    rw [hneg] at h
    exact Binary64.neg_eq_of_parts (h.trans (congrArg Binary64.Parts.negate hread).symm)
  · rename_i hneg
    rw [Bool.eq_false_iff.2 hneg] at h
    exact Binary64.parts_injective (hread.trans h.symm)

end
end PlotDigitizer.Decimal
