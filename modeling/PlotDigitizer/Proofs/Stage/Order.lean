/-
The order of the stages of a registry.

What the loop takes is known from `Registry.Taken`: every stage of the listing
that cannot go on, each once unless some stage names the last of its
dependencies more than once (`Registry.Doubles`). So the order is the greedy
one (`order_greedy`) for all registries in which no stage names a dependency
twice; and for the others it is told when the order can be trusted
(`order_sound_iff`).
-/
import Mathlib.Data.List.Permutation
import PlotDigitizer.Proofs.Stage.Room
import PlotDigitizer.Proofs.Success

namespace PlotDigitizer

variable {β : Type}

namespace Registry

/-! ## Registries are what is registered -/

/-- Registering one stage after another succeeds if it makes a registry of them
all, and every registry is made so. -/
theorem foldlM_register_eq_ok {ss : List (Stage β)} {r t : Registry β} :
    ss.foldlM register r = .ok t ↔ t.stages = r.stages ++ ss := by
  induction ss generalizing r with
  | nil =>
    cases r
    cases t
    simp [pure, Except.pure, eq_comm]
  | cons s ss ih =>
    rw [List.foldlM_cons, bind_eq_ok]
    constructor
    · intro h
      obtain ⟨u, hu, ht⟩ := h
      rw [ih.1 ht, (register_eq_ok.1 hu).2, List.append_assoc, List.singleton_append]
    · intro ht
      have hd := t.distinct
      rw [ht, List.append_cons, List.map_append, List.nodup_append] at hd
      refine ⟨⟨r.stages ++ [s], hd.1⟩, register_eq_ok.2 ⟨?_, rfl⟩, ih.2 ?_⟩
      · have hs := hd.1
        rw [List.map_append, List.nodup_append] at hs
        exact fun hid => hs.2.2 s.id hid s.id (by simp) rfl
      · simpa using ht

variable {r : Registry β}

/-! ## What is taken -/

theorem unknown?_eq_none : r.unknown? = none ↔ r.Closed := by
  simp [unknown?, Closed, List.findSome?_eq_none_iff, List.find?_eq_none]

/-- The ids of the stages not listed, least first. -/
def unlistedIds (r : Registry β) (l : List (Stage β)) : List Text :=
  sortedIds (idsOf (r.stages.filter fun s => decide (s.id ∉ idsOf l)))

theorem mem_unlistedIds {l : List (Stage β)} {id : Text} :
    id ∈ r.unlistedIds l ↔ id ∈ r.ids ∧ id ∉ idsOf l := by
  rw [unlistedIds, (perm_sortedIds _).mem_iff, mem_idsOf, ids, List.mem_map]
  constructor
  · intro h
    obtain ⟨s, hs, rfl⟩ := h
    obtain ⟨hsr, hsl⟩ := List.mem_filter.1 hs
    exact ⟨⟨s, hsr, rfl⟩, by simpa using hsl⟩
  · intro h
    obtain ⟨⟨s, hs, rfl⟩, hsl⟩ := h
    exact ⟨s, List.mem_filter.2 ⟨hs, by simpa using hsl⟩, rfl⟩

/-- What the loop has taken in the end, and the stages among it. -/
structure Taken (r : Registry β) (taken first : List (Stage β)) : Prop where
  listsAll : r.ListsAll first
  mem : ∀ s, s ∈ first ↔ s ∈ taken
  doubles : r.Doubles → ¬ (idsOf taken).Nodup
  eq : ¬ r.Doubles → taken = first

theorem ListsAll.id_mem_iff {l : List (Stage β)} (h : r.ListsAll l) {s : Stage β} (hs : s ∈ r.stages) :
    s.id ∈ idsOf l ↔ ∀ d ∈ s.dependencies, d ∈ idsOf l := by
  constructor
  · intro hid
    exact h.lists.dependencies (h.lists.mem_of_id_mem hs hid)
  · intro hd
    exact id_mem_idsOf (h.mem hs hd)

theorem waitingAfter_ids {taken first : List (Stage β)} (h : r.ListsAll first)
    (hmem : ∀ d, d ∈ idsOf taken ↔ d ∈ idsOf first) :
    (((r.waitingAfter taken).filter fun w => !w.2.isEmpty).map fun w => w.1.id)
      = idsOf (r.stages.filter fun s => decide (s.id ∉ idsOf first)) := by
  rw [waitingAfter, List.filter_map, List.map_map]
  refine congrArg idsOf (List.filter_congr fun s hs => ?_)
  rw [Bool.eq_iff_iff]
  simp [h.id_mem_iff hs, hmem, List.isEmpty_eq_false_iff]

/-- **What the order is.** If every dependency is registered, the order is all
that is taken, provided that is as many stages as there are. -/
theorem exists_order_eq (hc : r.Closed) : ∃ taken first, r.Taken taken first ∧
    r.order = if taken.length = r.size then .ok taken
      else .error (.circular (r.unlistedIds first)) := by
  obtain ⟨first, hl, hk, hr⟩ := r.exists_listsAll_advance
  refine ⟨(r.advance r.room r.start).ordered.toList, first, ⟨hl, hk.reached.taken, ?_, ?_⟩, ?_⟩
  · intro h hn
    obtain ⟨l, t, s, hlt, hs, hd, hcount⟩ := h
    have hrep := hk.repeats l t (hl.begins hlt) s hs hd
    rw [queued, hr, List.append_nil] at hrep
    have := List.nodup_iff_count_le_one.1 hn s.id
    omega
  · exact fun hd => (hk.noRepeats hd).taken
  · have hids := waitingAfter_ids hl fun d => hk.reached.mem_idsOf_taken
    rw [order, unknown?_eq_none.2 hc]
    show (if (r.advance r.room r.start).ordered.size = r.size then _ else _) = _
    rw [Array.length_toList]
    split
    · rfl
    · rw [unlistedIds, ← hids, ← hk.reached.waiting]
      rfl

theorem exists_order_eq_unknown (hc : ¬ r.Closed) : ∃ id d, r.order = .error (.unknown id d) := by
  rw [← unknown?_eq_none] at hc
  obtain ⟨⟨id, d⟩, h⟩ := Option.ne_none_iff_exists'.1 hc
  exact ⟨id, d, by rw [order, h]⟩

/-- If some stage is taken twice and none is left out, too many are taken. -/
theorem Taken.length_ne {taken first : List (Stage β)} (h : r.Taken taken first) (hd : r.Doubles)
    (hlen : first.length = r.size) : taken.length ≠ r.size := by
  intro htaken
  have hp := h.listsAll.lists.perm_of_length hlen
  have hsub : r.stages ⊆ taken := fun s hs => (h.mem s).1 (hp.symm.subset hs)
  have hpt : r.stages.Perm taken :=
    (List.subperm_of_subset r.distinct.of_map hsub).perm_of_length_le htaken.le
  have hn : (idsOf taken).Nodup := (hpt.map _).nodup_iff.1 r.distinct
  exact h.doubles hd hn

/-! ## The greedy order -/

/-- If no stage names a dependency twice, the order is the listing that cannot
go on, provided that is all stages. -/
theorem order_eq_of_listsAll (hc : r.Closed) (hd : ¬ r.Doubles) {l : List (Stage β)}
    (hl : r.ListsAll l) :
    r.order = if l.length = r.size then .ok l else .error (.circular (r.unlistedIds l)) := by
  obtain ⟨taken, first, ht, ho⟩ := exists_order_eq hc
  obtain rfl := ht.eq hd
  obtain rfl := ht.listsAll.unique hl
  exact ho

theorem exists_order_eq_ok_iff (hc : r.Closed) (hd : ¬ r.Doubles) :
    (∃ l, r.order = .ok l) ↔ ¬ r.Cyclic := by
  obtain ⟨first, hl⟩ := r.exists_listsAll
  have ho := order_eq_of_listsAll hc hd hl
  rw [← hl.length_eq_iff hc]
  constructor
  · intro hex
    obtain ⟨l, h⟩ := hex
    by_contra hlen
    rw [ho, if_neg hlen] at h
    cases h
  · intro hlen
    exact ⟨first, by rw [ho, if_pos hlen]⟩

theorem lists_of_order_eq_ok (hc : r.Closed) (hd : ¬ r.Doubles) {l : List (Stage β)}
    (h : r.order = .ok l) : l.Perm r.stages ∧ r.Lists l := by
  obtain ⟨first, hl⟩ := r.exists_listsAll
  rw [order_eq_of_listsAll hc hd hl] at h
  split at h
  · rename_i hlen
    obtain rfl := Except.ok.inj h
    exact ⟨hl.lists.perm_of_length hlen, hl.lists⟩
  · cases h

theorem ListsAll.mem_unlistedIds_iff {l : List (Stage β)} (h : r.ListsAll l) (hc : r.Closed)
    {id : Text} : id ∈ r.unlistedIds l ↔ r.Stuck id := by
  rw [mem_unlistedIds]
  constructor
  · intro h
    obtain ⟨hid, hn⟩ := h
    by_contra hs
    exact hn ((h.mem_iff_not_stuck hc hid).2 hs)
  · intro hs
    exact ⟨hs.mem_ids, fun hid => (h.mem_iff_not_stuck hc hs.mem_ids).1 hid hs⟩

theorem stuck_of_order_eq_error (hc : r.Closed) (hd : ¬ r.Doubles) {e : RegistryError}
    (h : r.order = .error e) :
    ∃ ids, e = .circular ids ∧ ids.Pairwise (· < ·) ∧ ∀ id, id ∈ ids ↔ r.Stuck id := by
  obtain ⟨first, hl⟩ := r.exists_listsAll
  rw [order_eq_of_listsAll hc hd hl] at h
  split at h
  · cases h
  · obtain rfl := Except.error.inj h
    have hn : (idsOf (r.stages.filter fun s => decide (s.id ∉ idsOf first))).Nodup :=
      r.distinct.sublist (List.filter_sublist.map _)
    exact ⟨_, rfl, sortedIds_pairwise_lt hn, fun id => hl.mem_unlistedIds_iff hc⟩

theorem ListsAll.of_perm {t : Registry β} (hp : t.stages.Perm r.stages) {l : List (Stage β)}
    (h : t.ListsAll l) : r.ListsAll l := by
  have hopen (m : List (Stage β)) (s : Stage β) : t.IsOpen m s ↔ r.IsOpen m s :=
    ⟨fun h => ⟨hp.mem_iff.1 h.mem, h.unlisted, h.dependencies⟩,
      fun h => ⟨hp.mem_iff.2 h.mem, h.unlisted, h.dependencies⟩⟩
  refine ⟨fun before s after he => ?_, fun s hs => h.complete s ((hopen l s).2 hs)⟩
  have hs := h.lists before s after he
  exact ⟨(hopen before s).1 hs.isOpen, fun u hu => hs.precedes u ((hopen before u).2 hu)⟩

theorem order_eq_of_perm {t : Registry β} (hp : t.stages.Perm r.stages) (hct : t.Closed)
    (hdt : ¬ t.Doubles) (hc : r.Closed) (hd : ¬ r.Doubles) : t.order = r.order := by
  obtain ⟨first, hl⟩ := r.exists_listsAll
  have hlt : t.ListsAll first := hl.of_perm hp.symm
  have hids : t.unlistedIds first = r.unlistedIds first := sortedIds_eq_of_perm ((hp.filter _).map _)
  have hsize : t.size = r.size := hp.length_eq
  rw [order_eq_of_listsAll hct hdt hlt, order_eq_of_listsAll hc hd hl, hids, hsize]

theorem not_doubles_of_nodup (h : ∀ s ∈ r.stages, s.dependencies.Nodup) : ¬ r.Doubles := by
  intro hd
  obtain ⟨l, t, s, -, hs, -, hcount⟩ := hd
  have := List.nodup_iff_count_le_one.1 (h s hs) t.id
  omega

/-- **The greedy order.** In a registry that has all that is depended on, and
where no stage names a dependency twice: there is an order if and only if there
is no cycle; it has each stage at the place where it is the next; without one
all stuck stages are reported, and no other; and the order in which stages were
registered makes no difference. -/
theorem order_greedy (r : Registry β) (known : r.Closed)
    (once : ∀ s ∈ r.stages, s.dependencies.Nodup) :
    ((∃ l, r.order = .ok l) ↔ ¬ r.Cyclic) ∧
    (∀ l, r.order = .ok l → l.Perm r.stages ∧
      ∀ before s after, l = before ++ s :: after → r.IsNext before s) ∧
    (∀ e, r.order = .error e → ∃ ids, e = .circular ids ∧ ids.Pairwise (· < ·) ∧
      ∀ id, id ∈ ids ↔ r.Stuck id) ∧
    (∀ t : Registry β, t.stages.Perm r.stages → t.order = r.order) := by
  have hd := not_doubles_of_nodup once
  refine ⟨exists_order_eq_ok_iff known hd, fun l => lists_of_order_eq_ok known hd,
    fun e => stuck_of_order_eq_error known hd, fun t hp => ?_⟩
  have hmem (id : Text) : id ∈ t.ids ↔ id ∈ r.ids := (hp.map _).mem_iff
  have hct : t.Closed := fun s hs d hds => (hmem d).2 (known s (hp.subset hs) d hds)
  have hdt := not_doubles_of_nodup fun s hs => once s (hp.subset hs)
  exact order_eq_of_perm hp hct hdt known hd

/-- Two stages that depend on each other, one that depends on one of them, and
one that depends on nothing. -/
def looped : Registry Unit where
  stages := [⟨"D", .assemble, ["C", "A"], ()⟩, ⟨"C", .interpret, ["B"], ()⟩,
    ⟨"B", .assemble, ["C"], ()⟩, ⟨"A", .interpret, [], ()⟩]
  distinct := by decide

theorem looped_stuck : looped.Closed ∧ (∀ s ∈ looped.stages, s.dependencies.Nodup) ∧
    ∀ id : Text, looped.Stuck id ↔ id ∈ (["B", "C", "D"] : List Text) := by
  have known : looped.Closed := by
    show ∀ s ∈ looped.stages, ∀ d ∈ s.dependencies, d ∈ looped.ids
    decide
  have once : ∀ s ∈ looped.stages, s.dependencies.Nodup := by decide
  have ho : looped.order = .error (.circular ["B", "C", "D"]) := by cbv
  obtain ⟨ids, he, -, hids⟩ := (order_greedy looped known once).2.2.1 _ ho
  obtain rfl := RegistryError.circular.inj he
  exact ⟨known, once, fun id => (hids id).symm⟩

/-! ## When the order can be trusted -/

/-- What is wanted of the order: all stages once, each after all it depends on;
and a cycle if one is reported. -/
structure Sound (r : Registry β) : Prop where
  perm : ∀ l, r.order = .ok l → l.Perm r.stages
  after : ∀ l, r.order = .ok l → ∀ before s after, l = before ++ s :: after →
    ∀ d ∈ s.dependencies, d ∈ idsOf before
  cyclic : ∀ ids, r.order = .error (.circular ids) → r.Cyclic

/-- An error is sound if a cycle is reported only where there is one. -/
theorem sound_of_error {e : RegistryError} (ho : r.order = .error e)
    (hcy : ∀ ids, e = .circular ids → r.Cyclic) : r.Sound := by
  have hne (l : List (Stage β)) : r.order ≠ .ok l := by
    rw [ho]
    exact nofun
  refine ⟨fun l h => absurd h (hne l), fun l h => absurd h (hne l), fun ids h => hcy ids ?_⟩
  exact Except.error.inj (ho.symm.trans h)

theorem sound_of_not_closed (hc : ¬ r.Closed) : r.Sound := by
  obtain ⟨id, d, ho⟩ := exists_order_eq_unknown hc
  exact sound_of_error ho nofun

theorem sound_of_not_doubles (hc : r.Closed) (hd : ¬ r.Doubles) : r.Sound := by
  refine ⟨fun l h => (lists_of_order_eq_ok hc hd h).1, fun l h before s after he => ?_, fun ids h => ?_⟩
  · exact ((lists_of_order_eq_ok hc hd h).2 before s after he).isOpen.dependencies
  · by_contra hcy
    obtain ⟨l, hl⟩ := (exists_order_eq_ok_iff hc hd).2 hcy
    rw [hl] at h
    cases h

theorem order_of_doubles (hc : r.Closed) (hd : r.Doubles) (hcy : ¬ r.Cyclic) :
    r.order = .error (.circular []) := by
  obtain ⟨taken, first, ht, ho⟩ := exists_order_eq hc
  have hlen := (ht.listsAll.length_eq_iff hc).2 hcy
  have hnone : r.unlistedIds first = [] := by
    rw [List.eq_nil_iff_forall_not_mem]
    intro id hid
    obtain ⟨hr, hn⟩ := mem_unlistedIds.1 hid
    have hp := (ht.listsAll.lists.perm_of_length hlen).map (·.id)
    exact hn (hp.symm.subset hr)
  rw [ho, if_neg (ht.length_ne hd hlen), hnone]

theorem not_nodup_of_doubles (hc : r.Closed) (hd : r.Doubles) {l : List (Stage β)}
    (h : r.order = .ok l) : ¬ (idsOf l).Nodup ∧ ∃ s ∈ r.stages, s ∉ l := by
  obtain ⟨taken, first, ht, ho⟩ := exists_order_eq hc
  rw [ho] at h
  split at h
  · rename_i hlen
    obtain rfl := Except.ok.inj h
    refine ⟨ht.doubles hd, ?_⟩
    by_contra hall
    simp only [not_exists, not_and, not_not] at hall
    have hsub : r.stages ⊆ first := fun s hs => (ht.mem s).2 (hall s hs)
    have hle := (List.subperm_of_subset r.distinct.of_map hsub).length_le
    exact ht.length_ne hd (ht.listsAll.lists.length_le.antisymm hle) hlen
  · cases h

/-- **When the order is sound.** Only a stage that names more than once the one
of its dependencies that is listed last can spoil the order. It does so unless
there is a cycle besides and an error is reported for it: in a registry without
cycles a cycle of no stages is reported, and where the repetitions make up for
the stages on cycles, a list is returned that has some stage twice and lacks
another. -/
theorem order_sound_iff (r : Registry β) :
    (r.Sound ↔ (r.Closed → r.Doubles → r.Cyclic ∧ ∃ e, r.order = .error e)) ∧
    (r.Closed → r.Doubles → ¬ r.Cyclic → r.order = .error (.circular [])) ∧
    (r.Closed → r.Doubles → ∀ l, r.order = .ok l → ¬ (idsOf l).Nodup ∧ ∃ s ∈ r.stages, s ∉ l) := by
  refine ⟨⟨fun h hc hd => ⟨?_, ?_⟩, fun h => ?_⟩, order_of_doubles,
    fun hc hd l h => not_nodup_of_doubles hc hd h⟩
  · by_contra hcy
    exact hcy (h.cyclic [] (order_of_doubles hc hd hcy))
  · cases ho : r.order with
    | error e => exact ⟨e, rfl⟩
    | ok l =>
      obtain ⟨-, s, hs, hn⟩ := not_nodup_of_doubles hc hd ho
      exact absurd ((h.perm l ho).symm.subset hs) hn
  · by_cases hc : r.Closed
    · by_cases hd : r.Doubles
      · obtain ⟨hcy, e, ho⟩ := h hc hd
        exact sound_of_error ho fun _ _ => hcy
      · exact sound_of_not_doubles hc hd
    · exact sound_of_not_closed hc

/-- A stage, and another that names it twice. -/
def namedTwice : Registry Unit where
  stages := [⟨"A", .interpret, [], ()⟩, ⟨"B", .interpret, ["A", "A"], ()⟩]
  distinct := by decide

theorem namedTwice_not_sound :
    namedTwice.order = .error (.circular []) ∧ ¬ namedTwice.Cyclic ∧ ¬ namedTwice.Sound := by
  have ho : namedTwice.order = .error (.circular []) := by cbv
  have hcy : ¬ namedTwice.Cyclic := by
    intro hc
    obtain ⟨a, h⟩ := hc
    have hdep {x y : Text} (hxy : namedTwice.DependsOn x y) : x = "B" ∧ y = "A" := by
      obtain ⟨s, hs, rfl, hy⟩ := hxy
      simp only [namedTwice, List.mem_cons, List.not_mem_nil, or_false] at hs
      rcases hs with rfl | rfl
      · cases hy
      · exact ⟨rfl, by simpa using hy⟩
    obtain ⟨b, hab, -⟩ := Relation.TransGen.head'_iff.1 h
    obtain ⟨c, -, hca⟩ := Relation.TransGen.tail'_iff.1 h
    have hne : ("B" : Text) ≠ "A" := by decide
    exact hne ((hdep hab).1.symm.trans (hdep hca).2)
  exact ⟨ho, hcy, fun h => hcy (h.cyclic [] ho)⟩

/-- A stage taken twice makes up for one that depends on itself. -/
example : ((⟨[⟨"A", .interpret, [], ()⟩, ⟨"B", .interpret, ["A", "A"], ()⟩,
    ⟨"C", .interpret, ["C"], ()⟩], by decide⟩ : Registry Unit).order.map idsOf)
      = .ok ["A", "B", "B"] := by rfl

end Registry
end PlotDigitizer
