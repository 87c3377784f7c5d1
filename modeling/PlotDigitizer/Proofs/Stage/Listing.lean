/-
Listing the stages of a registry greedily.

A stage is open after some others if it is not among them and all that it
depends on is; a greedy listing (`Registry.Lists`) always goes on with the open
stage that precedes the others. There is one way to do so (`Lists.comparable`).
A listing that cannot go on holds exactly the stages that are not stuck: those
from which no dependencies lead into a cycle (`ListsAll.mem_iff_not_stuck`).
-/
import Mathlib.Data.Fintype.Card
import Mathlib.Data.List.Induction
import Mathlib.Data.Set.Finite.List
import Mathlib.Logic.Relation
import Mathlib.Order.WellFounded
import PlotDigitizer.Proofs.Stage.Precedence

namespace PlotDigitizer

variable {β : Type}

def idsOf (l : List (Stage β)) : List Text := l.map (·.id)

@[simp] theorem idsOf_nil : idsOf ([] : List (Stage β)) = [] := rfl

@[simp] theorem idsOf_cons (s : Stage β) (l : List (Stage β)) : idsOf (s :: l) = s.id :: idsOf l := rfl

@[simp] theorem idsOf_append (l m : List (Stage β)) : idsOf (l ++ m) = idsOf l ++ idsOf m := by
  simp [idsOf]

@[simp] theorem idsOf_reverse (l : List (Stage β)) : idsOf l.reverse = (idsOf l).reverse := by
  simp [idsOf]

theorem mem_idsOf {l : List (Stage β)} {id : Text} : id ∈ idsOf l ↔ ∃ s ∈ l, s.id = id := by
  simp [idsOf]

theorem id_mem_idsOf {l : List (Stage β)} {s : Stage β} (h : s ∈ l) : s.id ∈ idsOf l :=
  mem_idsOf.2 ⟨s, h, rfl⟩

theorem mem_idsOf_concat {l : List (Stage β)} {s : Stage β} {id : Text} :
    id ∈ idsOf (l ++ [s]) ↔ id ∈ idsOf l ∨ id = s.id := by
  simp

theorem count_idsOf (l : List (Stage β)) (id : Text) :
    (idsOf l).count id = l.countP fun t => t.id == id := by
  rw [idsOf, List.count_eq_countP, List.countP_map]
  rfl

/-- What holds at every place of a list holds at every place but the last one,
and there. -/
theorem forall_split_concat {P : List β → β → Prop} {l : List β} {x : β} :
    (∀ before y after, l ++ [x] = before ++ y :: after → P before y) ↔
      (∀ before y after, l = before ++ y :: after → P before y) ∧ P l x := by
  constructor
  · intro h
    refine ⟨fun before y after hl => ?_, h l x [] rfl⟩
    exact h before y (after ++ [x]) (by simp [hl])
  · intro h before y after he
    obtain ⟨hl, hx⟩ := h
    rcases List.eq_nil_or_concat after with rfl | ⟨after', z, rfl⟩
    · obtain ⟨rfl, hy⟩ := List.append_inj' he rfl
      obtain rfl : x = y := by simpa using hy
      exact hx
    · have he' : l ++ [x] = (before ++ y :: after') ++ [z] := by simpa using he
      obtain ⟨rfl, -⟩ := List.append_inj' he' rfl
      exact hl before y after' rfl

namespace Registry

/-- Every dependency is registered. -/
def Closed (r : Registry β) : Prop := ∀ s ∈ r.stages, ∀ d ∈ s.dependencies, d ∈ r.ids

/-- The stage of one id names the other id among its dependencies. -/
def DependsOn (r : Registry β) (a b : Text) : Prop := ∃ s ∈ r.stages, s.id = a ∧ b ∈ s.dependencies

/-- Some stage depends on itself, directly or through others. -/
def Cyclic (r : Registry β) : Prop := ∃ a, Relation.TransGen r.DependsOn a a

/-- An id on a cycle, or from which dependencies lead to one. -/
def Stuck (r : Registry β) (a : Text) : Prop :=
  ∃ c, Relation.ReflTransGen r.DependsOn a c ∧ Relation.TransGen r.DependsOn c c

/-- A stage that is not among those listed, while all it depends on is. -/
structure IsOpen (r : Registry β) (listed : List (Stage β)) (s : Stage β) : Prop where
  mem : s ∈ r.stages
  unlisted : s.id ∉ idsOf listed
  dependencies : ∀ d ∈ s.dependencies, d ∈ idsOf listed

/-- The open stage that precedes all others. -/
structure IsNext (r : Registry β) (listed : List (Stage β)) (s : Stage β) : Prop where
  isOpen : r.IsOpen listed s
  precedes : ∀ t, r.IsOpen listed t → t ≠ s → s.precedes t = true

/-- A list each of whose stages is the next one after those before it. -/
def Lists (r : Registry β) (l : List (Stage β)) : Prop :=
  ∀ before s after, l = before ++ s :: after → r.IsNext before s

/-- After some greedy listing and one more stage `t`, a stage has all that it
depends on, and it names `t` more than once. -/
def Doubles (r : Registry β) : Prop :=
  ∃ l t s, r.Lists (l ++ [t]) ∧ s ∈ r.stages ∧ (∀ d ∈ s.dependencies, d = t.id ∨ d ∈ idsOf l) ∧
    2 ≤ s.dependencies.count t.id

variable {r : Registry β}

/-! ## Greedy listings -/

theorem lists_nil : r.Lists [] := by
  intro before s after h
  simp at h

theorem lists_concat {l : List (Stage β)} {s : Stage β} :
    r.Lists (l ++ [s]) ↔ r.Lists l ∧ r.IsNext l s := forall_split_concat

theorem Lists.mem_stages {l : List (Stage β)} (h : r.Lists l) {s : Stage β} (hs : s ∈ l) :
    s ∈ r.stages := by
  obtain ⟨before, after, rfl⟩ := List.append_of_mem hs
  exact (h before s after rfl).isOpen.mem

theorem Lists.nodup {l : List (Stage β)} (h : r.Lists l) : (idsOf l).Nodup := by
  induction l using List.reverseRecOn with
  | nil => simp
  | append_singleton l s ih =>
    obtain ⟨hl, hs⟩ := lists_concat.1 h
    rw [idsOf_append, List.nodup_append]
    refine ⟨ih hl, by simp, ?_⟩
    intro a ha b hb h
    subst h
    obtain rfl : a = s.id := by simpa using hb
    exact hs.isOpen.unlisted ha

/-- All that a listed stage depends on is listed. -/
theorem Lists.dependencies {l : List (Stage β)} (h : r.Lists l) {s : Stage β} (hs : s ∈ l) :
    ∀ d ∈ s.dependencies, d ∈ idsOf l := by
  intro d hd
  obtain ⟨before, after, rfl⟩ := List.append_of_mem hs
  have := (h before s after rfl).isOpen.dependencies d hd
  simp [this]

theorem mem_of_id_mem {l : List (Stage β)} (hl : ∀ t ∈ l, t ∈ r.stages) {s : Stage β}
    (hs : s ∈ r.stages) (h : s.id ∈ idsOf l) : s ∈ l := by
  obtain ⟨t, ht, hid⟩ := mem_idsOf.1 h
  rwa [← r.eq_of_id_eq (hl t ht) hs hid]

theorem Lists.mem_of_id_mem {l : List (Stage β)} (h : r.Lists l) {s : Stage β} (hs : s ∈ r.stages)
    (hid : s.id ∈ idsOf l) : s ∈ l :=
  Registry.mem_of_id_mem (fun _ ht => h.mem_stages ht) hs hid

theorem IsNext.unique {l : List (Stage β)} {s t : Stage β} (hs : r.IsNext l s) (ht : r.IsNext l t) :
    s = t := by
  by_contra hne
  have h₁ := hs.precedes t ht.isOpen (Ne.symm hne)
  have h₂ := ht.precedes s hs.isOpen hne
  rw [Stage.precedes_iff] at h₁ h₂
  exact lt_asymm h₁ h₂

/-- Of two listings one goes on from the other. -/
theorem Lists.comparable {l m : List (Stage β)} (hl : r.Lists l) (hm : r.Lists m) :
    l <+: m ∨ m <+: l := by
  induction l using List.reverseRecOn with
  | nil => exact .inl List.nil_prefix
  | append_singleton l s ih =>
    obtain ⟨hl, hs⟩ := lists_concat.1 hl
    rcases ih hl with ⟨k, rfl⟩ | h
    · cases k with
      | nil => exact .inr ⟨[s], by simp⟩
      | cons t k =>
        obtain rfl := hs.unique (hm l t k rfl)
        exact .inl ⟨k, by simp⟩
    · exact .inr (h.trans ⟨[s], rfl⟩)

theorem Lists.length_le {l : List (Stage β)} (h : r.Lists l) : l.length ≤ r.size := by
  have hsub : l ⊆ r.stages := fun s hs => h.mem_stages hs
  exact (List.subperm_of_subset h.nodup.of_map hsub).length_le

theorem Lists.perm_of_length {l : List (Stage β)} (h : r.Lists l) (hlen : l.length = r.size) :
    l.Perm r.stages := by
  have hsub : l ⊆ r.stages := fun s hs => h.mem_stages hs
  exact (List.subperm_of_subset h.nodup.of_map hsub).perm_of_length_le hlen.ge

/-! ## Listings that cannot go on -/

/-- A listing after which no stage is open. -/
structure ListsAll (r : Registry β) (l : List (Stage β)) : Prop where
  lists : r.Lists l
  complete : ∀ s, ¬ r.IsOpen l s

theorem exists_isNext {l : List (Stage β)} {s : Stage β} (hs : r.IsOpen l s) :
    ∃ t, r.IsNext l t := by
  classical
  have hmem (t : Stage β) : t ∈ r.stages.filter (fun t => decide (r.IsOpen l t)) ↔ r.IsOpen l t := by
    simp only [List.mem_filter, decide_eq_true_eq, and_iff_right_iff_imp]
    exact IsOpen.mem
  cases ht : takeLeast? (r.stages.filter fun t => decide (r.IsOpen l t)) with
  | none =>
    rw [takeLeast?_eq_none] at ht
    have := (hmem s).2 hs
    simp [ht] at this
  | some p =>
    obtain ⟨t, rest⟩ := p
    obtain ⟨hp, hleast⟩ := takeLeast?_eq_some ht
    have hto : r.IsOpen l t := (hmem t).1 (hp.symm.subset List.mem_cons_self)
    refine ⟨t, hto, fun u hu hne => ?_⟩
    rcases List.mem_cons.1 (hp.subset ((hmem u).2 hu)) with rfl | hr
    · exact absurd rfl hne
    · exact r.precedes_of_ne hto.mem hu.mem hne (hleast u hr)

theorem Lists.exists_listsAll (n : Nat) : ∀ {l : List (Stage β)}, r.Lists l →
    r.size ≤ l.length + n → ∃ m, r.ListsAll m := by
  induction n with
  | zero =>
    intro l hl hn
    have hp := hl.perm_of_length (Nat.le_antisymm hl.length_le hn)
    exact ⟨l, hl, fun s hs => hs.unlisted (id_mem_idsOf (hp.symm.subset hs.mem))⟩
  | succ n ih =>
    intro l hl hn
    by_cases h : ∃ s, r.IsOpen l s
    · obtain ⟨s, hs⟩ := h
      obtain ⟨t, ht⟩ := exists_isNext hs
      exact ih (lists_concat.2 ⟨hl, ht⟩) (by simp; omega)
    · exact ⟨l, hl, not_exists.1 h⟩

theorem exists_listsAll (r : Registry β) : ∃ l, r.ListsAll l :=
  lists_nil.exists_listsAll r.size (by simp)

/-- A listing that cannot go on begins with every other. -/
theorem ListsAll.begins {l m : List (Stage β)} (hl : r.ListsAll l) (hm : r.Lists m) : m <+: l := by
  rcases hm.comparable hl.lists with h | ⟨k, rfl⟩
  · exact h
  · cases k with
    | nil => simp
    | cons s k => exact absurd (hm l s k rfl).isOpen (hl.complete s)

theorem ListsAll.unique {l m : List (Stage β)} (hl : r.ListsAll l) (hm : r.ListsAll m) : l = m :=
  (hm.begins hl.lists).eq_of_length ((hm.begins hl.lists).length_le.antisymm
    (hl.begins hm.lists).length_le)

/-! ## Stuck stages -/

/-- What is stuck depends on something stuck. -/
theorem Stuck.step {a : Text} (h : r.Stuck a) : ∃ d, r.DependsOn a d ∧ r.Stuck d := by
  obtain ⟨c, hac, hcc⟩ := h
  rcases hac.cases_head with rfl | ⟨d, had, hdc⟩
  · obtain ⟨d, had, hdc⟩ := Relation.TransGen.head'_iff.1 hcc
    exact ⟨d, had, a, hdc, hcc⟩
  · exact ⟨d, had, c, hdc, hcc⟩

theorem Stuck.head {a d : Text} (had : r.DependsOn a d) (h : r.Stuck d) : r.Stuck a := by
  obtain ⟨c, hdc, hcc⟩ := h
  exact ⟨c, hdc.head had, hcc⟩

theorem Stuck.mem_ids {a : Text} (h : r.Stuck a) : a ∈ r.ids := by
  obtain ⟨_, ⟨s, hs, rfl, -⟩, -⟩ := h.step
  exact id_mem_idsOf hs

theorem cyclic_iff_exists_stuck : r.Cyclic ↔ ∃ a, r.Stuck a :=
  ⟨fun ⟨a, h⟩ => ⟨a, a, .refl, h⟩, fun ⟨_, c, _, h⟩ => ⟨c, h⟩⟩

/-- What is listed is not stuck: it only depends on what was listed before. -/
theorem Lists.not_stuck {l : List (Stage β)} (h : r.Lists l) : ∀ a ∈ idsOf l, ¬ r.Stuck a := by
  induction l using List.reverseRecOn with
  | nil => simp
  | append_singleton l s ih =>
    obtain ⟨hl, hs⟩ := lists_concat.1 h
    intro a ha hstuck
    rcases mem_idsOf_concat.1 ha with ha | rfl
    · exact ih hl a ha hstuck
    · obtain ⟨d, ⟨t, ht, hid, hd⟩, hsd⟩ := hstuck.step
      obtain rfl := r.eq_of_id_eq ht hs.isOpen.mem hid
      exact ih hl d (hs.isOpen.dependencies d hd) hsd

/-- On the ids that are not stuck, depending is well-founded. -/
theorem wellFounded_not_stuck (r : Registry β) :
    WellFounded fun b a : { a // a ∈ r.ids } => r.DependsOn a b ∧ ¬ r.Stuck a := by
  have : Finite { a // a ∈ r.ids } := List.finite_toSet r.ids
  let dep (b a : { a // a ∈ r.ids }) : Prop := r.DependsOn a b ∧ ¬ r.Stuck a
  have lift {b a : { a // a ∈ r.ids }} (h : Relation.TransGen dep b a) :
      Relation.TransGen r.DependsOn a b := by
    induction h with
    | single h => exact .single h.1
    | tail _ h ih => exact ih.head h.1
  have htrans : IsTrans { a // a ∈ r.ids } (Relation.TransGen dep) := ⟨fun _ _ _ => .trans⟩
  have hirrefl : Std.Irrefl (Relation.TransGen dep) := by
    refine ⟨fun a h => ?_⟩
    obtain ⟨b, -, hb⟩ := Relation.TransGen.tail'_iff.1 h
    exact hb.2 ⟨a, .refl, lift h⟩
  have hwf := Finite.wellFounded_of_trans_of_irrefl (Relation.TransGen dep)
  exact Subrelation.wf (fun h => .single h) hwf

/-- **What is never listed.** A listing that cannot go on has all stages but
the stuck ones. -/
theorem ListsAll.mem_iff_not_stuck {l : List (Stage β)} (h : r.ListsAll l) (hc : r.Closed) {a : Text}
    (ha : a ∈ r.ids) : a ∈ idsOf l ↔ ¬ r.Stuck a := by
  refine ⟨h.lists.not_stuck a, ?_⟩
  have key (a : { a // a ∈ r.ids }) : ¬ r.Stuck a → a.1 ∈ idsOf l := by
    induction a using r.wellFounded_not_stuck.induction with
    | h a ih =>
      intro hns
      by_contra hna
      obtain ⟨s, hs, hid⟩ := mem_idsOf.1 a.2
      refine h.complete s ⟨hs, hid ▸ hna, fun d hd => ?_⟩
      have hdep : r.DependsOn a d := ⟨s, hs, hid, hd⟩
      exact ih ⟨d, hc s hs d hd⟩ ⟨hdep, hns⟩ fun hsd => hns (.head hdep hsd)
  exact key ⟨a, ha⟩

theorem ListsAll.length_eq_iff {l : List (Stage β)} (h : r.ListsAll l) (hc : r.Closed) :
    l.length = r.size ↔ ¬ r.Cyclic := by
  rw [cyclic_iff_exists_stuck]
  constructor
  · intro hlen h
    obtain ⟨a, ha⟩ := h
    have hp := (h.lists.perm_of_length hlen).map (·.id)
    exact (h.mem_iff_not_stuck hc ha.mem_ids).1 (hp.symm.subset ha.mem_ids) ha
  · intro hns
    refine h.lists.length_le.antisymm ?_
    have hsub : r.stages ⊆ l := fun s hs => by
      have hid := (h.mem_iff_not_stuck hc (id_mem_idsOf hs)).2 fun ha => hns ⟨_, ha⟩
      exact h.lists.mem_of_id_mem hs hid
    exact (List.subperm_of_subset r.distinct.of_map hsub).length_le

end Registry
end PlotDigitizer
