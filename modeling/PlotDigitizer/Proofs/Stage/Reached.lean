/-
What the loop that orders stages has reached after any number of turns.

The stages taken, with their repetitions, are told from those taken for the
first time, which make a greedy listing (`Registry.Reached`): what is taken for
the first time is the next stage of that listing. A stage that names the last
of its dependencies more than once is ready more than once (`Repeats`); if no
stage does, nothing is ever taken twice (`NoRepeats`).
-/
import PlotDigitizer.Proofs.Stage.Turn

namespace PlotDigitizer

variable {β : Type}

namespace Registry

/-- Where the loop is: `first` holds the stages taken so far, each once. -/
structure Reached (r : Registry β) (o : Progress β) (first : List (Stage β)) : Prop where
  waiting : o.waiting = r.waitingAfter o.ordered.toList
  lists : r.Lists first
  taken : ∀ s, s ∈ first ↔ s ∈ o.ordered.toList
  ready : ∀ s ∈ o.ready, s ∈ r.stages ∧ ∀ d ∈ s.dependencies, d ∈ idsOf first
  isOpen : ∀ s, r.IsOpen first s → s ∈ o.ready

/-- The ids of the stages taken and of those ready, as often as they are. -/
def queued (o : Progress β) : List Text := idsOf (o.ordered.toList ++ o.ready)

/-- A stage is taken or ready as often as it names the last of its dependencies. -/
def Repeats (r : Registry β) (o : Progress β) (first : List (Stage β)) : Prop :=
  ∀ l t, l ++ [t] <+: first → ∀ s ∈ r.stages, (∀ d ∈ s.dependencies, d = t.id ∨ d ∈ idsOf l) →
    s.dependencies.count t.id ≤ (queued o).count s.id

/-- Nothing has been taken twice, or will be. -/
structure NoRepeats (o : Progress β) (first : List (Stage β)) : Prop where
  taken : o.ordered.toList = first
  once : (queued o).Nodup

variable {r : Registry β} {o : Progress β} {first rest : List (Stage β)} {x : Stage β}

theorem Reached.mem_idsOf_taken (h : r.Reached o first) {d : Text} :
    d ∈ idsOf o.ordered.toList ↔ d ∈ idsOf first := by
  simp [mem_idsOf, h.taken]

/-! ## The beginning -/

def start (r : Registry β) : Progress β where
  waiting := r.stages.map fun s => (s, s.dependencies)
  ready := r.stages.filter (·.dependencies.isEmpty)
  ordered := #[]

theorem reached_start (r : Registry β) : r.Reached r.start [] := by
  refine ⟨?_, lists_nil, by simp [start], ?_, ?_⟩
  · simp [start, waitingAfter]
  · intro s hs
    obtain ⟨hsr, hd⟩ := List.mem_filter.1 hs
    rw [List.isEmpty_iff] at hd
    simp [hsr, hd]
  · intro s hs
    refine List.mem_filter.2 ⟨hs.mem, ?_⟩
    rw [List.isEmpty_iff, List.eq_nil_iff_forall_not_mem]
    intro d hd
    have := hs.dependencies d hd
    simp at this

theorem repeats_start (r : Registry β) : r.Repeats r.start [] := by
  intro l t h
  simp at h

theorem noRepeats_start (r : Registry β) : NoRepeats r.start [] := by
  refine ⟨rfl, ?_⟩
  have hsub : (idsOf (r.stages.filter (·.dependencies.isEmpty))).Sublist r.ids :=
    List.filter_sublist.map _
  exact r.distinct.sublist hsub

/-! ## A turn that takes a stage again -/

theorem queued_turn (r : Registry β) (o : Progress β) (x : Stage β) (rest : List (Stage β)) :
    (queued (r.turn x rest o)).Perm (idsOf (r.freed o.ordered.toList x) ++
      idsOf (o.ordered.toList ++ x :: rest)) := by
  rw [List.perm_iff_count]
  intro id
  simp only [queued, turn, Array.toList_push, idsOf_append, idsOf_reverse, idsOf_cons, idsOf_nil,
    List.count_append, List.count_cons, List.count_nil, List.count_reverse]
  omega

theorem perm_queued (hp : o.ready.Perm (x :: rest)) :
    (queued o).Perm (idsOf (o.ordered.toList ++ x :: rest)) :=
  (hp.append_left _).map _

theorem count_queued_le_turn (hp : o.ready.Perm (x :: rest)) (id : Text) :
    (queued o).count id ≤ (queued (r.turn x rest o)).count id := by
  rw [(perm_queued hp).count_eq, (r.queued_turn o x rest).count_eq, List.count_append]
  exact Nat.le_add_left _ _

/-- What is taken again frees nothing but what has all it depends on. -/
theorem Reached.ready_turn (h : r.Reached o first) (hp : o.ready.Perm (x :: rest)) :
    ∀ s ∈ (r.turn x rest o).ready, s ∈ r.stages ∧ ∀ d ∈ s.dependencies, d ∈ idsOf (first ++ [x]) := by
  intro s hs
  rcases List.mem_append.1 hs with hs | hs
  · rw [List.mem_reverse, mem_freed] at hs
    refine ⟨hs.1.1, fun d hd => ?_⟩
    have hdt := hs.2 d hd
    rwa [mem_idsOf_concat, h.mem_idsOf_taken, ← mem_idsOf_concat] at hdt
  · obtain ⟨hsr, hsd⟩ := h.ready s (hp.symm.subset (List.mem_cons_of_mem x hs))
    refine ⟨hsr, fun d hd => ?_⟩
    simp [hsd d hd]

theorem Reached.turn_again (h : r.Reached o first) (hp : o.ready.Perm (x :: rest)) (hx : x ∈ first) :
    r.Reached (r.turn x rest o) first := by
  refine ⟨by simp [turn], h.lists, ?_, ?_, ?_⟩
  · intro s
    simp only [turn, Array.toList_push, List.mem_append, List.mem_singleton, h.taken]
    constructor
    · exact .inl
    · intro h
      rcases h with hs | rfl
      · exact hs
      · exact (h.taken s).1 hx
  · intro s hs
    obtain ⟨hsr, hsd⟩ := h.ready_turn hp s hs
    refine ⟨hsr, fun d hd => ?_⟩
    rcases mem_idsOf_concat.1 (hsd d hd) with hdf | rfl
    · exact hdf
    · exact id_mem_idsOf hx
  · intro s hs
    rcases List.mem_cons.1 (hp.subset (h.isOpen s hs)) with rfl | hr
    · exact absurd (id_mem_idsOf hx) hs.unlisted
    · exact List.mem_append_right _ hr

/-! ## A turn that takes a stage for the first time -/

/-- A ready stage that no other precedes is the next one of the listing. -/
theorem Reached.isNext (h : r.Reached o first) (hp : o.ready.Perm (x :: rest))
    (hleast : ∀ t ∈ rest, ¬ t.precedes x = true) (hx : x ∉ first) : r.IsNext first x := by
  obtain ⟨hxr, hxd⟩ := h.ready x (hp.symm.subset List.mem_cons_self)
  have hun : x.id ∉ idsOf first := fun hid => hx (h.lists.mem_of_id_mem hxr hid)
  refine ⟨⟨hxr, hun, hxd⟩, fun t ht hne => ?_⟩
  rcases List.mem_cons.1 (hp.subset (h.isOpen t ht)) with rfl | hr
  · exact absurd rfl hne
  · exact r.precedes_of_ne hxr ht.mem hne (hleast t hr)

theorem Reached.turn_first (h : r.Reached o first) (hp : o.ready.Perm (x :: rest))
    (hx : r.IsNext first x) : r.Reached (r.turn x rest o) (first ++ [x]) := by
  refine ⟨by simp [turn], lists_concat.2 ⟨h.lists, hx⟩, ?_, h.ready_turn hp, ?_⟩
  · intro s
    simp [turn, h.taken]
  · intro s hs
    by_cases hxs : x.id ∈ s.dependencies
    · -- The stage waited for `x`, and `x` is the last it waited for.
      refine List.mem_append_left rest (List.mem_reverse.2 (mem_freed.2 ⟨⟨hs.mem, hxs⟩, ?_⟩))
      intro d hd
      have hdf := hs.dependencies d hd
      rwa [mem_idsOf_concat, ← h.mem_idsOf_taken, ← mem_idsOf_concat] at hdf
    · have hun : s.id ∉ idsOf first ∧ s.id ≠ x.id := by simpa using hs.unlisted
      have hso : r.IsOpen first s := by
        refine ⟨hs.mem, hun.1, fun d hd => ?_⟩
        rcases mem_idsOf_concat.1 (hs.dependencies d hd) with hdf | rfl
        · exact hdf
        · exact absurd hd hxs
      rcases List.mem_cons.1 (hp.subset (h.isOpen s hso)) with rfl | hr
      · exact absurd rfl hun.2
      · exact List.mem_append_right _ hr

/-! ## How often a stage is ready -/

theorem count_dependents {s : Stage β} (hs : s ∈ r.stages) (id : Text) :
    (idsOf (r.dependents id)).count s.id = s.dependencies.count id := by
  have other {l : List (Stage β)} (hl : ∀ t ∈ l, t.id ≠ s.id) :
      (idsOf (l.flatMap fun t => List.replicate (t.dependencies.count id) t)).count s.id = 0 := by
    rw [List.count_eq_zero]
    intro h
    obtain ⟨t, ht, hid⟩ := mem_idsOf.1 h
    obtain ⟨u, hu, htu⟩ := List.mem_flatMap.1 ht
    rw [List.eq_of_mem_replicate htu] at hid
    exact hl u hu hid
  obtain ⟨before, after, he⟩ := List.append_of_mem hs
  have hd := r.distinct
  simp only [he, List.map_append, List.map_cons, List.nodup_append, List.nodup_cons] at hd
  obtain ⟨-, ⟨ha, -⟩, hb⟩ := hd
  have hbefore : ∀ t ∈ before, t.id ≠ s.id := fun t ht => hb _ (id_mem_idsOf ht) _ List.mem_cons_self
  have hafter : ∀ t ∈ after, t.id ≠ s.id := fun t ht hid => ha (hid ▸ id_mem_idsOf ht)
  have hself : (idsOf (List.replicate (s.dependencies.count id) s)).count s.id
      = s.dependencies.count id := by
    simp [idsOf]
  rw [dependents, he, List.flatMap_append, List.flatMap_cons, idsOf_append, idsOf_append,
    List.count_append, List.count_append, other hbefore, other hafter, hself]
  omega

/-- A stage with all it depends on becomes ready as often as it names the stage
that is taken. -/
theorem count_freed {taken : List (Stage β)} {s : Stage β} (hs : s ∈ r.stages)
    (hd : ∀ d ∈ s.dependencies, d ∈ idsOf (taken ++ [x])) :
    (idsOf (r.freed taken x)).count s.id = s.dependencies.count x.id := by
  rw [← count_dependents hs x.id, count_idsOf, count_idsOf, freed, List.countP_filter]
  refine List.countP_congr fun t ht => ?_
  constructor
  · intro h
    exact (Bool.and_eq_true_iff.1 h).1
  · intro h
    have hid : t.id = s.id := by simpa using h
    obtain rfl := r.eq_of_id_eq (mem_dependents.1 ht).1 hs hid
    simp only [beq_self_eq_true, Bool.true_and, List.all_eq_true, decide_eq_true_eq]
    exact hd

theorem Repeats.turn_again (h : r.Repeats o first) (hp : o.ready.Perm (x :: rest)) :
    r.Repeats (r.turn x rest o) first := by
  intro l t hl s hs hd
  exact (h l t hl s hs hd).trans (count_queued_le_turn hp s.id)

theorem Repeats.turn_first (h : r.Repeats o first) (hr : r.Reached o first)
    (hp : o.ready.Perm (x :: rest)) : r.Repeats (r.turn x rest o) (first ++ [x]) := by
  intro l t hl s hs hd
  rcases List.prefix_concat_iff.1 hl with he | hl
  · -- `x` is the last that the stage depends on.
    obtain ⟨rfl, ht⟩ := List.append_inj' he rfl
    obtain rfl : t = x := by simpa using ht
    have hdt : ∀ d ∈ s.dependencies, d ∈ idsOf (o.ordered.toList ++ [t]) := by
      intro d hds
      rw [mem_idsOf_concat, hr.mem_idsOf_taken]
      exact (hd d hds).symm
    rw [(r.queued_turn o t rest).count_eq, List.count_append, count_freed hs hdt]
    exact Nat.le_add_right _ _
  · exact (h l t hl s hs hd).trans (count_queued_le_turn hp s.id)

/-- What has just become ready was neither taken nor ready. -/
theorem Reached.not_mem_queued (h : r.Reached o first) (hx : x.id ∉ idsOf first) {s : Stage β}
    (hs : s ∈ r.stages) (hxs : x.id ∈ s.dependencies) : s.id ∉ queued o := by
  intro hq
  rw [queued, idsOf_append, List.mem_append, h.mem_idsOf_taken] at hq
  rcases hq with hq | hq
  · have hsf := h.lists.mem_of_id_mem hs hq
    exact hx (h.lists.dependencies hsf _ hxs)
  · have hsr := mem_of_id_mem (fun t ht => (h.ready t ht).1) hs hq
    exact hx ((h.ready s hsr).2 _ hxs)

theorem NoRepeats.turn_first (h : NoRepeats o first) (hr : r.Reached o first)
    (hp : o.ready.Perm (x :: rest)) (hx : r.IsNext first x) (hd : ¬ r.Doubles) :
    NoRepeats (r.turn x rest o) (first ++ [x]) := by
  refine ⟨by simp [turn, h.taken], ?_⟩
  rw [(r.queued_turn o x rest).nodup_iff, List.nodup_append]
  refine ⟨?_, (perm_queued hp).nodup_iff.1 h.once, ?_⟩
  · rw [List.nodup_iff_count_le_one]
    intro id
    by_cases hid : id ∈ idsOf (r.freed o.ordered.toList x)
    · obtain ⟨s, hs, rfl⟩ := mem_idsOf.1 hid
      obtain ⟨⟨hsr, -⟩, hsd⟩ := mem_freed.1 hs
      rw [count_freed hsr hsd]
      by_contra hcount
      refine hd ⟨first, x, s, lists_concat.2 ⟨hr.lists, hx⟩, hsr, fun d hds => ?_, by omega⟩
      have hdf := hsd d hds
      rw [h.taken, mem_idsOf_concat] at hdf
      exact hdf.symm
    · rw [List.count_eq_zero.2 hid]
      exact Nat.zero_le 1
  · intro a ha b hb hab
    obtain ⟨s, hs, rfl⟩ := mem_idsOf.1 ha
    obtain ⟨⟨hsr, hxs⟩, -⟩ := mem_freed.1 hs
    rw [← hab, ← (perm_queued hp).mem_iff] at hb
    exact hr.not_mem_queued hx.isOpen.unlisted hsr hxs hb

/-- A stage ready once has not been taken. -/
theorem NoRepeats.not_mem (h : NoRepeats o first) (hp : o.ready.Perm (x :: rest)) : x ∉ first := by
  intro hx
  have hn := (perm_queued hp).nodup_iff.1 h.once
  rw [h.taken, idsOf_append, List.nodup_append] at hn
  exact hn.2.2 x.id (id_mem_idsOf hx) x.id (id_mem_idsOf List.mem_cons_self) rfl

end Registry
end PlotDigitizer
