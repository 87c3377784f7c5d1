/-
The order in which ready stages are taken.

Stages are taken by layer and then by id, and no two stages of a registry have
one id; so of two stages of a registry one precedes the other
(`Registry.precedes_of_ne`), and the first one to be taken of some does not
depend on how they are listed. Nor do sorted ids (`sortedIds_eq_of_perm`).
-/
import Mathlib.Data.List.Lex
import Mathlib.Data.List.Nodup
import Mathlib.Data.Prod.Lex
import PlotDigitizer.Stage.Registry

namespace PlotDigitizer

theorem Letter.code_injective : Function.Injective Letter.code := by
  -- A half has a code that no character has.
  have apart (c : Char) (h : Half) : c.toNat ≠ h.unit.toNat := by
    intro e
    have valid : c.toNat.isValidChar := c.valid
    have half := h.isHalf
    simp only [Nat.isValidChar] at valid
    omega
  intro a b h
  cases a with
  | char c =>
    cases b with
    | char d => rw [Char.toNat_inj.1 h]
    | half k => exact absurd h (apart c k)
  | half k =>
    cases b with
    | char d => exact absurd h.symm (apart d k)
    | half j =>
      obtain ⟨u, _⟩ := k
      obtain ⟨v, _⟩ := j
      obtain rfl : u = v := UInt16.toNat_inj.1 h
      rfl

theorem Text.codes_injective : Function.Injective Text.codes := by
  intro s t h
  obtain ⟨a⟩ := s
  obtain ⟨b⟩ := t
  rw [Text.mk.injEq]
  exact (List.map_injective_iff.2 Letter.code_injective) h

variable {β : Type}

/-- What the order goes by: the layer, then the id. -/
def Stage.key (s : Stage β) : ℕ ×ₗ List ℕ := toLex (s.layer.rank, s.id.codes)

theorem Stage.precedes_iff {s t : Stage β} : s.precedes t = true ↔ s.key < t.key := by
  simp [precedes, key, Prod.Lex.toLex_lt_toLex, Text.lt_def]

theorem Stage.id_eq_of_key_eq {s t : Stage β} (h : s.key = t.key) : s.id = t.id := by
  simp only [key, EmbeddingLike.apply_eq_iff_eq, Prod.mk.injEq] at h
  exact Text.codes_injective h.2

/-- Two stages of a registry of one id are one stage. -/
theorem Registry.eq_of_id_eq (r : Registry β) {s t : Stage β} (hs : s ∈ r.stages) (ht : t ∈ r.stages)
    (h : s.id = t.id) : s = t :=
  List.inj_on_of_nodup_map r.distinct hs ht h

theorem Registry.precedes_of_ne (r : Registry β) {s t : Stage β} (hs : s ∈ r.stages)
    (ht : t ∈ r.stages) (hne : t ≠ s) (h : ¬ t.precedes s = true) : s.precedes t = true := by
  rw [Stage.precedes_iff] at h ⊢
  rcases lt_or_eq_of_le (not_lt.1 h) with hlt | heq
  · exact hlt
  · exact absurd (r.eq_of_id_eq ht hs (Stage.id_eq_of_key_eq heq.symm)) hne

/-! ## Taking the first -/

theorem takeLeast?_eq_none {l : List (Stage β)} : takeLeast? l = none ↔ l = [] := by
  cases l with
  | nil => simp [takeLeast?]
  | cons s l =>
    simp only [takeLeast?, reduceCtorEq, iff_false]
    split
    · simp
    · split <;> simp

/-- What is taken is one of the stages, none of the others precedes it, and the
others are left. -/
theorem takeLeast?_eq_some {l rest : List (Stage β)} {s : Stage β} (h : takeLeast? l = some (s, rest)) :
    l.Perm (s :: rest) ∧ ∀ t ∈ rest, ¬ t.precedes s = true := by
  induction l generalizing s rest with
  | nil => simp [takeLeast?] at h
  | cons u l ih =>
    simp only [takeLeast?] at h
    split at h
    · rename_i hl
      rw [takeLeast?_eq_none] at hl
      simp only [Option.some.injEq, Prod.mk.injEq] at h
      obtain ⟨rfl, rfl⟩ := h
      simp [hl]
    · rename_i v others hl
      obtain ⟨hp, hv⟩ := ih hl
      split at h
      · rename_i hvu
        simp only [Option.some.injEq, Prod.mk.injEq] at h
        obtain ⟨rfl, rfl⟩ := h
        refine ⟨(hp.cons u).trans (.swap v u others), ?_⟩
        intro t ht
        rcases List.mem_cons.1 ht with rfl | ht
        · rw [Stage.precedes_iff] at hvu ⊢
          exact not_lt.2 hvu.le
        · exact hv t ht
      · rename_i hvu
        simp only [Option.some.injEq, Prod.mk.injEq] at h
        obtain ⟨rfl, rfl⟩ := h
        refine ⟨hp.cons u, ?_⟩
        intro t ht
        rcases List.mem_cons.1 ht with rfl | ht
        · exact hvu
        · have htv := hv t ht
          rw [Stage.precedes_iff] at hvu htv ⊢
          exact not_lt.2 ((not_lt.1 hvu).trans (not_lt.1 htv))

/-! ## Sorted ids -/

theorem Text.le_iff {a b : Text} : (!decide (b < a)) = true ↔ a.codes ≤ b.codes := by
  simp [Text.lt_def]

/-- Ids, least first. -/
def sortedIds (ids : List Text) : List Text := ids.mergeSort fun a b => !decide (b < a)

theorem perm_sortedIds (ids : List Text) : (sortedIds ids).Perm ids := List.mergeSort_perm _ _

theorem pairwise_sortedIds (ids : List Text) :
    (sortedIds ids).Pairwise fun a b => a.codes ≤ b.codes := by
  have h : (sortedIds ids).Pairwise fun a b => (!decide (b < a)) = true := by
    refine List.pairwise_mergeSort ?_ ?_ ids
    · intro a b c hab hbc
      rw [Text.le_iff] at hab hbc ⊢
      exact hab.trans hbc
    · intro a b
      rw [Bool.or_eq_true, Text.le_iff, Text.le_iff]
      exact le_total _ _
  exact h.imp fun hab => Text.le_iff.1 hab

theorem sortedIds_eq_of_perm {ids ids' : List Text} (h : ids.Perm ids') :
    sortedIds ids = sortedIds ids' := by
  refine List.Perm.eq_of_pairwise ?_ (pairwise_sortedIds ids) (pairwise_sortedIds ids') ?_
  · intro a b _ _ hab hba
    exact Text.codes_injective (le_antisymm hab hba)
  · exact (perm_sortedIds ids).trans (h.trans (perm_sortedIds ids').symm)

theorem sortedIds_pairwise_lt {ids : List Text} (h : ids.Nodup) :
    (sortedIds ids).Pairwise (· < ·) := by
  have hn : (sortedIds ids).Nodup := (perm_sortedIds ids).nodup_iff.2 h
  refine ((pairwise_sortedIds ids).and hn).imp fun hab => ?_
  rw [Text.lt_def]
  exact lt_of_le_of_ne hab.1 fun he => hab.2 (Text.codes_injective he)

end PlotDigitizer
