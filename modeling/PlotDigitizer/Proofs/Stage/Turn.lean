/-
One turn of the loop that orders stages.

A turn takes a stage and releases those that name it, one after another and
each as often as it names it. Whatever that order, the turn comes to this: the
id is crossed off everywhere, and the stages that then have all they depend on
become ready, each as often as it names the one taken (`Registry.turn`,
`foldl_release_dependents`).
-/
import PlotDigitizer.Proofs.Stage.Listing

namespace PlotDigitizer

variable {β : Type}

/-! ## Crossing off -/

/-- Crosses an id off what some stages wait for. -/
def crossOff (id : Text) (ts : List (Stage β)) (waiting : List (Stage β × List Text)) :
    List (Stage β × List Text) :=
  waiting.map fun w => (w.1, if w.1.id ∈ idsOf ts then w.2.filter (· != id) else w.2)

/-- Whether a stage waits for nothing but an id. -/
def waitsOnlyFor (id : Text) (waiting : List (Stage β × List Text)) (s : Stage β) : Bool :=
  waiting.any fun w => w.1.id == s.id && (w.2.filter (· != id)).isEmpty

theorem crossOff_crossOff (id : Text) (ts us : List (Stage β)) (waiting : List (Stage β × List Text)) :
    crossOff id us (crossOff id ts waiting) = crossOff id (ts ++ us) waiting := by
  simp only [crossOff, List.map_map, idsOf_append, List.mem_append]
  refine List.map_congr_left fun w _ => ?_
  by_cases ht : w.1.id ∈ idsOf ts <;> by_cases hu : w.1.id ∈ idsOf us <;> simp [ht, hu]

theorem waitsOnlyFor_crossOff (id : Text) (ts : List (Stage β))
    (waiting : List (Stage β × List Text)) (s : Stage β) :
    waitsOnlyFor id (crossOff id ts waiting) s = waitsOnlyFor id waiting s := by
  simp only [waitsOnlyFor, crossOff, List.any_map]
  congr 1
  funext w
  by_cases ht : w.1.id ∈ idsOf ts <;> simp [ht]

theorem release_eq (id : Text) (o : Progress β) (s : Stage β) :
    o.release id s = { o with
      waiting := crossOff id [s] o.waiting
      ready := if waitsOnlyFor id o.waiting s then s :: o.ready else o.ready } := by
  have hany : (crossOff id [s] o.waiting).any (fun w => w.1.id == s.id && w.2.isEmpty)
      = waitsOnlyFor id o.waiting s := by
    simp only [crossOff, waitsOnlyFor, List.any_map]
    congr 1
    funext w
    by_cases hw : w.1.id = s.id
    · simp [hw]
    · have : (w.1.id == s.id) = false := by simpa using hw
      simp [this]
  have hmap : (o.waiting.map fun w =>
      (w.1, if w.1.id == s.id then w.2.filter (· != id) else w.2)) = crossOff id [s] o.waiting := by
    simp [crossOff]
  simp only [Progress.release, hmap]
  rw [hany]

/-- Releasing stages one after another, a stage among them more than once as
well: an id is crossed off for all of them, and every time one is released that
waited only for that id it becomes ready. -/
theorem foldl_release (id : Text) (ts : List (Stage β)) (o : Progress β) :
    ts.foldl (.release id) o = { o with
      waiting := crossOff id ts o.waiting
      ready := (ts.filter (waitsOnlyFor id o.waiting)).reverse ++ o.ready } := by
  induction ts generalizing o with
  | nil =>
    have : crossOff id [] o.waiting = o.waiting := by simp [crossOff]
    simp [this]
  | cons t ts ih =>
    rw [List.foldl_cons, ih, release_eq]
    simp only [crossOff_crossOff, List.singleton_append]
    have : waitsOnlyFor id (crossOff id [t] o.waiting) = waitsOnlyFor id o.waiting :=
      funext fun s => waitsOnlyFor_crossOff id [t] o.waiting s
    rw [this]
    by_cases ht : waitsOnlyFor id o.waiting t <;> simp [ht]

namespace Registry

variable {r : Registry β}

/-! ## One turn -/

/-- What is left to wait for after some stages have been taken. -/
def waitingAfter (r : Registry β) (taken : List (Stage β)) : List (Stage β × List Text) :=
  r.stages.map fun s => (s, s.dependencies.filter fun d => decide (d ∉ idsOf taken))

/-- The stages that become ready when a stage is taken after some others, each
as often as it names that stage. -/
def freed (r : Registry β) (taken : List (Stage β)) (x : Stage β) : List (Stage β) :=
  (r.dependents x.id).filter fun s => s.dependencies.all fun d => decide (d ∈ idsOf (taken ++ [x]))

theorem mem_dependents {s : Stage β} {id : Text} :
    s ∈ r.dependents id ↔ s ∈ r.stages ∧ id ∈ s.dependencies := by
  simp [dependents, List.mem_replicate, List.count_eq_zero]

theorem mem_idsOf_dependents {s : Stage β} {id : Text} (hs : s ∈ r.stages) :
    s.id ∈ idsOf (r.dependents id) ↔ id ∈ s.dependencies := by
  constructor
  · intro h
    obtain ⟨t, ht, hid⟩ := mem_idsOf.1 h
    obtain ⟨htr, htd⟩ := mem_dependents.1 ht
    obtain rfl := r.eq_of_id_eq htr hs hid
    exact htd
  · intro h
    exact id_mem_idsOf (mem_dependents.2 ⟨hs, h⟩)

theorem mem_freed {taken : List (Stage β)} {x s : Stage β} :
    s ∈ r.freed taken x ↔
      (s ∈ r.stages ∧ x.id ∈ s.dependencies) ∧ ∀ d ∈ s.dependencies, d ∈ idsOf (taken ++ [x]) := by
  simp [freed, mem_dependents]

theorem crossOff_waitingAfter (taken : List (Stage β)) (x : Stage β) :
    crossOff x.id (r.dependents x.id) (r.waitingAfter taken) = r.waitingAfter (taken ++ [x]) := by
  simp only [crossOff, waitingAfter, List.map_map]
  refine List.map_congr_left fun s hs => ?_
  simp only [Function.comp_apply, mem_idsOf_dependents hs, Prod.mk.injEq, true_and]
  split
  · rw [List.filter_filter]
    refine List.filter_congr fun d _ => ?_
    by_cases hd : d = x.id <;> simp [hd]
  · rename_i hx
    refine List.filter_congr fun d hd => ?_
    have hne : d ≠ x.id := fun h => hx (h ▸ hd)
    simp [hne]

theorem waitsOnlyFor_waitingAfter {taken : List (Stage β)} {x s : Stage β} (hs : s ∈ r.stages) :
    waitsOnlyFor x.id (r.waitingAfter taken) s
      = s.dependencies.all fun d => decide (d ∈ idsOf (taken ++ [x])) := by
  rw [Bool.eq_iff_iff]
  simp only [waitsOnlyFor, waitingAfter, List.any_map, List.any_eq_true, Function.comp_apply,
    Bool.and_eq_true, beq_iff_eq, List.isEmpty_iff, List.filter_eq_nil_iff, List.mem_filter,
    decide_eq_true_eq, List.all_eq_true, idsOf_append, idsOf_cons, idsOf_nil, List.mem_append,
    List.mem_singleton, bne_iff_ne]
  constructor
  · intro h d hd
    obtain ⟨t, ht, hid, hall⟩ := h
    obtain rfl := r.eq_of_id_eq ht hs hid
    by_cases hdt : d ∈ idsOf taken
    · exact .inl hdt
    · exact .inr (not_not.1 (hall d ⟨hd, hdt⟩))
  · intro hall
    refine ⟨s, hs, rfl, fun d hd hne => ?_⟩
    rcases hall d hd.1 with h | h
    · exact hd.2 h
    · exact hne h

/-- A turn of the loop, after some stages have been taken. -/
def turn (r : Registry β) (x : Stage β) (rest : List (Stage β)) (o : Progress β) : Progress β where
  waiting := r.waitingAfter (o.ordered.toList ++ [x])
  ready := (r.freed o.ordered.toList x).reverse ++ rest
  ordered := o.ordered.push x

theorem foldl_release_dependents {o : Progress β} (x : Stage β) (rest : List (Stage β))
    (h : o.waiting = r.waitingAfter o.ordered.toList) :
    (r.dependents x.id).foldl (.release x.id) { o with ready := rest, ordered := o.ordered.push x }
      = r.turn x rest o := by
  have hfreed : (r.dependents x.id).filter (waitsOnlyFor x.id (r.waitingAfter o.ordered.toList))
      = r.freed o.ordered.toList x :=
    List.filter_congr fun s hs => waitsOnlyFor_waitingAfter (mem_dependents.1 hs).1
  rw [foldl_release, turn]
  simp only [h, crossOff_waitingAfter, hfreed]

end Registry
end PlotDigitizer
