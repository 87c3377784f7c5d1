/-
The loop that orders stages ends with nothing ready.

A ready stage that is taken makes no more stages ready than are named at all,
and each of those stands later in the listing of all that can be listed. So if
a ready stage weighs more than all that is named can weigh one place later
(`weight`), then every turn leaves less weight ready (`load_turn_lt`), and the
number of turns the loop is given is no less than the weight it begins with.
-/
import Mathlib.Algebra.GroupWithZero.Nat
import Mathlib.Algebra.Order.BigOperators.Group.List
import Mathlib.Algebra.Order.Group.Nat
import PlotDigitizer.Proofs.Stage.Reached

namespace PlotDigitizer

variable {β : Type}

namespace Registry

/-- How many dependencies are named in all. -/
def named (r : Registry β) : Nat := (r.stages.flatMap (·.dependencies)).length

/-- What a ready stage counts for: more the earlier it is in the listing. -/
def weight (r : Registry β) (listed : List (Stage β)) (s : Stage β) : Nat :=
  (r.named + 1) ^ (listed.length - (idsOf listed).idxOf s.id)

def load (r : Registry β) (listed ready : List (Stage β)) : Nat := (ready.map (r.weight listed)).sum

variable {r : Registry β} {o : Progress β} {first rest : List (Stage β)} {x : Stage β}

theorem length_dependents_le (r : Registry β) (id : Text) : (r.dependents id).length ≤ r.named := by
  simp only [dependents, named, List.length_flatMap, List.length_replicate]
  exact List.sum_le_sum fun s _ => List.count_le_length

/-- A stage is listed after all that it depends on. -/
theorem Lists.idxOf_lt {l : List (Stage β)} (h : r.Lists l) {s : Stage β} (hs : s ∈ l) {d : Text}
    (hd : d ∈ s.dependencies) : (idsOf l).idxOf d < (idsOf l).idxOf s.id := by
  obtain ⟨before, after, rfl⟩ := List.append_of_mem hs
  have hopen := (h before s after rfl).isOpen
  rw [idsOf_append, idsOf_cons, List.idxOf_append_of_mem (hopen.dependencies d hd),
    List.idxOf_append_of_notMem hopen.unlisted]
  exact (List.idxOf_lt_length_iff.2 (hopen.dependencies d hd)).trans_le (Nat.le_add_right _ _)

theorem idxOf_lt_length {l : List (Stage β)} {s : Stage β} (hs : s ∈ l) :
    (idsOf l).idxOf s.id < l.length := by
  simpa [idsOf] using List.idxOf_lt_length_iff.2 (id_mem_idsOf hs)

theorem one_le_weight (r : Registry β) (l : List (Stage β)) (s : Stage β) : 1 ≤ r.weight l s :=
  Nat.one_le_pow _ _ (Nat.succ_pos _)

/-- What has all it depends on listed is listed, if the listing cannot go on. -/
theorem ListsAll.mem {l : List (Stage β)} (h : r.ListsAll l) {s : Stage β} (hs : s ∈ r.stages)
    (hd : ∀ d ∈ s.dependencies, d ∈ idsOf l) : s ∈ l := by
  by_contra hns
  exact h.complete s ⟨hs, fun hid => hns (h.lists.mem_of_id_mem hs hid), hd⟩

/-- Whatever is ready will be listed. -/
theorem Reached.mem_listsAll (h : r.Reached o first) {l : List (Stage β)} (hl : r.ListsAll l) :
    ∀ s ∈ o.ready, s ∈ l := by
  intro s hs
  obtain ⟨hsr, hd⟩ := h.ready s hs
  exact hl.mem hsr fun d hds => ((hl.begins h.lists).map _).subset (hd d hds)

theorem load_le {l ready : List (Stage β)} {k : Nat} (h : ∀ s ∈ ready, r.weight l s ≤ k) :
    r.load l ready ≤ ready.length * k := by
  simpa [load] using List.sum_le_card_nsmul (ready.map (r.weight l)) k (by simpa using h)

/-- All that becomes ready weighs less than what was taken. -/
theorem load_freed_lt {l : List (Stage β)} (hl : r.ListsAll l) (taken : List (Stage β))
    (hx : x ∈ l) (hfreed : ∀ s ∈ r.freed taken x, s ∈ l) :
    r.load l (r.freed taken x) < r.weight l x := by
  obtain ⟨e, he⟩ := Nat.exists_eq_add_one.2 (Nat.sub_pos_of_lt (idxOf_lt_length hx))
  have hle : ∀ s ∈ r.freed taken x, r.weight l s ≤ (r.named + 1) ^ e := by
    intro s hs
    have hlt := hl.lists.idxOf_lt (hfreed s hs) (mem_freed.1 hs).1.2
    exact Nat.pow_le_pow_right (Nat.succ_pos _) (by omega)
  have hlen : (r.freed taken x).length ≤ r.named :=
    (List.length_filter_le _ _).trans (r.length_dependents_le x.id)
  calc r.load l (r.freed taken x)
      ≤ (r.freed taken x).length * (r.named + 1) ^ e := load_le hle
    _ ≤ r.named * (r.named + 1) ^ e := Nat.mul_le_mul_right _ hlen
    _ < (r.named + 1) * (r.named + 1) ^ e :=
        Nat.mul_lt_mul_of_pos_right (Nat.lt_succ_self _) (Nat.pow_pos (Nat.succ_pos _))
    _ = r.weight l x := by rw [weight, he, Nat.pow_succ, Nat.mul_comm]

theorem Reached.load_turn_lt (h : r.Reached o first) {l : List (Stage β)} (hl : r.ListsAll l)
    (hp : o.ready.Perm (x :: rest)) : r.load l (r.turn x rest o).ready < r.load l o.ready := by
  have hx : x ∈ l := h.mem_listsAll hl x (hp.symm.subset List.mem_cons_self)
  have hfreed : ∀ s ∈ r.freed o.ordered.toList x, s ∈ l := by
    intro s hs
    have hsr : s ∈ (r.turn x rest o).ready := List.mem_append_left _ (List.mem_reverse.2 hs)
    obtain ⟨hs, hd⟩ := h.ready_turn hp s hsr
    refine hl.mem hs fun d hds => ?_
    rcases mem_idsOf_concat.1 (hd d hds) with hdf | rfl
    · exact ((hl.begins h.lists).map _).subset hdf
    · exact id_mem_idsOf hx
  have hlt := load_freed_lt hl o.ordered.toList hx hfreed
  have hready : r.load l o.ready = r.weight l x + r.load l rest := by
    rw [load, (hp.map _).sum_eq, List.map_cons, List.sum_cons, load]
  have hturn : r.load l (r.turn x rest o).ready
      = r.load l (r.freed o.ordered.toList x) + r.load l rest := by
    simp [load, turn, List.sum_reverse]
  omega

/-! ## All that the loop keeps -/

/-- What holds after any number of turns. -/
structure Kept (r : Registry β) (o : Progress β) (first : List (Stage β)) : Prop where
  reached : r.Reached o first
  repeats : r.Repeats o first
  noRepeats : ¬ r.Doubles → NoRepeats o first

theorem kept_start (r : Registry β) : r.Kept r.start [] :=
  ⟨r.reached_start, r.repeats_start, fun _ => r.noRepeats_start⟩

theorem Kept.turn (h : r.Kept o first) (ht : takeLeast? o.ready = some (x, rest)) :
    ∃ next, r.Kept (r.turn x rest o) next := by
  obtain ⟨hp, hleast⟩ := takeLeast?_eq_some ht
  by_cases hx : x ∈ first
  · refine ⟨first, h.reached.turn_again hp hx, h.repeats.turn_again hp, fun hd => ?_⟩
    exact absurd hx ((h.noRepeats hd).not_mem hp)
  · have hnext := h.reached.isNext hp hleast hx
    refine ⟨first ++ [x], h.reached.turn_first hp hnext, h.repeats.turn_first h.reached hp, ?_⟩
    exact fun hd => (h.noRepeats hd).turn_first h.reached hp hnext hd

theorem Kept.advance {l : List (Stage β)} (hl : r.ListsAll l) (n : Nat) :
    ∀ {o : Progress β} {first : List (Stage β)}, r.Kept o first → r.load l o.ready ≤ n →
      ∃ last, r.Kept (r.advance n o) last ∧ (r.advance n o).ready = [] := by
  induction n with
  | zero =>
    intro o first h hn
    refine ⟨first, h, ?_⟩
    show o.ready = []
    cases hready : o.ready with
    | nil => rfl
    | cons s rest =>
      have hs := r.one_le_weight l s
      simp only [hready, load, List.map_cons, List.sum_cons] at hn
      omega
  | succ n ih =>
    intro o first h hn
    rw [Registry.advance]
    cases ht : takeLeast? o.ready with
    | none => exact ⟨first, h, takeLeast?_eq_none.1 ht⟩
    | some p =>
      obtain ⟨x, rest⟩ := p
      have hlt := h.reached.load_turn_lt hl (takeLeast?_eq_some ht).1
      obtain ⟨next, hnext⟩ := h.turn ht
      simp only [foldl_release_dependents x rest h.reached.waiting]
      exact ih hnext (by omega)

theorem load_start_le (r : Registry β) {l : List (Stage β)} (hl : r.ListsAll l) :
    r.load l r.start.ready ≤ r.room := by
  have hw (s : Stage β) : r.weight l s ≤ (r.named + 1) ^ r.size :=
    Nat.pow_le_pow_right (Nat.succ_pos _) ((Nat.sub_le _ _).trans hl.lists.length_le)
  calc r.load l r.start.ready
      ≤ r.start.ready.length * (r.named + 1) ^ r.size := load_le fun s _ => hw s
    _ ≤ r.size * (r.named + 1) ^ r.size := Nat.mul_le_mul_right _ (List.length_filter_le _ _)

/-- **The loop ends.** With the turns it is given nothing is left ready, and all
that can be listed has been taken. -/
theorem exists_listsAll_advance (r : Registry β) :
    ∃ first, r.ListsAll first ∧ r.Kept (r.advance r.room r.start) first ∧
      (r.advance r.room r.start).ready = [] := by
  obtain ⟨l, hl⟩ := r.exists_listsAll
  obtain ⟨first, hk, hr⟩ := Kept.advance hl r.room r.kept_start (r.load_start_le hl)
  refine ⟨first, ⟨hk.reached.lists, fun s hs => ?_⟩, hk, hr⟩
  have := hk.reached.isOpen s hs
  simp [hr] at this

end Registry
end PlotDigitizer
