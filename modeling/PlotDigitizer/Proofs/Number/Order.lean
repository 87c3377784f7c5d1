/-
The order of the doubles.

Undefined doubles compare with nothing. The others are in the order of sign,
exponent and mantissa (`rank`), so that they compare as in any linear order.
-/
import PlotDigitizer.Proofs.Number.Overflow

namespace PlotDigitizer.Binary64

open Float.Model (UnpackedFloat)
open Float.Model.UnpackedFloat

/-- The place of a double among those that are not undefined. -/
def rank : UnpackedFloat → ℤ ×ₗ ℤ ×ₗ ℤ
  | .notANumber | .zero _ => toLex (0, toLex (0, 0))
  | .infinity .negative => toLex (-2, toLex (0, 0))
  | .infinity .positive => toLex (2, toLex (0, 0))
  | .finite .negative m e _ => toLex (-1, toLex (-e, -m))
  | .finite .positive m e _ => toLex (1, toLex (e, m))

theorem toLex_triple_lt_iff {a b d a' b' d' : ℤ} : toLex (a, toLex (b, d)) < toLex (a', toLex (b', d')) ↔
    a < a' ∨ a = a' ∧ (b < b' ∨ b = b' ∧ d < d') := by
  rw [Prod.Lex.toLex_lt_toLex]
  simp only [Prod.Lex.toLex_lt_toLex]

theorem then_eq_lt {e f : ℤ} {m n : ℕ} :
    (compare e f).then (compare m n) = .lt ↔ e < f ∨ e = f ∧ m < n := by
  rw [Ordering.then_eq_lt, compare_lt_iff_lt, compare_eq_iff_eq, compare_lt_iff_lt]

theorem then_eq_gt {e f : ℤ} {m n : ℕ} :
    (compare e f).then (compare m n) = .gt ↔ f < e ∨ e = f ∧ n < m := by
  rw [Ordering.then_eq_gt, compare_gt_iff_gt, compare_eq_iff_eq, compare_gt_iff_gt]

theorem compare_negative_positive : compare Sign.negative Sign.positive = .lt := rfl

theorem compare_positive_negative : compare Sign.positive Sign.negative = .gt := rfl

theorem compare_eq_lt_iff (u v : UnpackedFloat) :
    u.compare v = some .lt ↔ u ≠ .notANumber ∧ v ≠ .notANumber ∧ rank u < rank v := by
  rcases u with (_ | _) | _ | (_ | _) | ⟨_ | _, m, e, hm⟩ <;>
    rcases v with (_ | _) | _ | (_ | _) | ⟨_ | _, n, f, hn⟩ <;>
    simp [UnpackedFloat.compare, rank, toLex_triple_lt_iff, then_eq_lt, then_eq_gt,
      compare_negative_positive, compare_positive_negative]

theorem compare_eq_gt_iff (u v : UnpackedFloat) :
    u.compare v = some .gt ↔ u ≠ .notANumber ∧ v ≠ .notANumber ∧ rank v < rank u := by
  rcases u with (_ | _) | _ | (_ | _) | ⟨_ | _, m, e, hm⟩ <;>
    rcases v with (_ | _) | _ | (_ | _) | ⟨_ | _, n, f, hn⟩ <;>
    simp [UnpackedFloat.compare, rank, toLex_triple_lt_iff, then_eq_lt, then_eq_gt,
      compare_negative_positive, compare_positive_negative, @eq_comm ℤ]

theorem compare_eq_none_iff (u v : UnpackedFloat) :
    u.compare v = none ↔ u = .notANumber ∨ v = .notANumber := by
  rcases u with (_ | _) | _ | (_ | _) | ⟨_ | _, m, e, hm⟩ <;>
    rcases v with (_ | _) | _ | (_ | _) | ⟨_ | _, n, f, hn⟩ <;>
    simp [UnpackedFloat.compare]

theorem lt_iff (u v : UnpackedFloat) :
    u.lt v = true ↔ u ≠ .notANumber ∧ v ≠ .notANumber ∧ rank u < rank v := by
  rw [← compare_eq_lt_iff]
  exact beq_iff_eq

theorem le_iff (u v : UnpackedFloat) :
    u.le v = true ↔ u ≠ .notANumber ∧ v ≠ .notANumber ∧ rank u ≤ rank v := by
  have hgt := compare_eq_gt_iff u v
  have hnone := compare_eq_none_iff u v
  rw [← not_lt]
  cases h : u.compare v with
  | none => rcases hnone.1 h with rfl | rfl <;> simp [UnpackedFloat.le, h]
  | some o => cases o <;> simp_all [UnpackedFloat.le]

theorem beq_iff (u v : UnpackedFloat) :
    u.beq v = true ↔ u ≠ .notANumber ∧ v ≠ .notANumber ∧ rank u = rank v := by
  have hlt := compare_eq_lt_iff u v
  have hgt := compare_eq_gt_iff u v
  have hnone := compare_eq_none_iff u v
  cases h : u.compare v with
  | none => rcases hnone.1 h with rfl | rfl <;> simp [UnpackedFloat.beq, h]
  | some o =>
    obtain ⟨hu, hv⟩ : u ≠ .notANumber ∧ v ≠ .notANumber := by
      rw [← not_or, ← hnone, h]
      simp
    simp only [UnpackedFloat.beq, h, hu, hv, ne_eq, not_false_eq_true, true_and] at hlt hgt ⊢
    cases o with
    | lt => simpa using (hlt.1 rfl).ne
    | gt => simpa using (hgt.1 rfl).ne'
    | eq =>
      have hle : rank v ≤ rank u := not_lt.1 fun hr => by cases hlt.2 hr
      have hge : rank u ≤ rank v := not_lt.1 fun hr => by cases hgt.2 hr
      exact iff_of_true rfl (le_antisymm hge hle)

theorem lt_of_le_of_lt {x y z : Float} (hxy : x ≤ y) (hyz : y < z) : x < z := by
  have hle : x.toModel.unpack.le y.toModel.unpack = true := of_decide_eq_true hxy
  have hlt : y.toModel.unpack.lt z.toModel.unpack = true := of_decide_eq_true hyz
  obtain ⟨hx, -, hrank⟩ := (le_iff _ _).1 hle
  obtain ⟨-, hz, hrank'⟩ := (lt_iff _ _).1 hlt
  exact decide_eq_true ((lt_iff _ _).2 ⟨hx, hz, hrank.trans_lt hrank'⟩)

/-- Equality of doubles is an equivalence but for the undefined ones, which do
not equal themselves. -/
instance instPartialEquivBEq : PartialEquivBEq Float where
  symm {x y} h := by
    obtain ⟨hx, hy, hrank⟩ := (beq_iff x.toModel.unpack y.toModel.unpack).1 h
    exact (beq_iff _ _).2 ⟨hy, hx, hrank.symm⟩
  trans {x y z} hxy hyz := by
    obtain ⟨hx, -, hrank⟩ := (beq_iff x.toModel.unpack y.toModel.unpack).1 hxy
    obtain ⟨-, hz, hrank'⟩ := (beq_iff y.toModel.unpack z.toModel.unpack).1 hyz
    exact (beq_iff _ _).2 ⟨hx, hz, hrank.trans hrank'⟩

end PlotDigitizer.Binary64
