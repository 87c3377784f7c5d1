/-
What a pass leaves.

The list that a registry is ordered to has every stage after all that it
depends on, even if some stage is in it twice (`inOrder_of_order`). A pass runs
that list up to the first stage that fails, and is complete or empty
(`pass_outcome`): if none fails, the output is what the bodies leave one after
the other; if one does, nothing is kept but its report, which is never empty.
-/
import PlotDigitizer.Extraction
import PlotDigitizer.Proofs.Stage.Order

namespace PlotDigitizer

/-! ## Dependencies come first -/

section
variable {β : Type}

/-- Every stage comes after all that it depends on. -/
def InOrder (l : List (Stage β)) : Prop :=
  ∀ before s after, l = before ++ s :: after → ∀ d ∈ s.dependencies, d ∈ idsOf before

theorem inOrder_concat {l : List (Stage β)} {s : Stage β} :
    InOrder (l ++ [s]) ↔ InOrder l ∧ ∀ d ∈ s.dependencies, d ∈ idsOf l :=
  forall_split_concat

namespace Registry

/-- The stages that are taken are in order, and each of those that are ready may
come next. -/
structure Settled (r : Registry β) (o : Progress β) : Prop where
  waiting : o.waiting = r.waitingAfter o.ordered.toList
  taken : InOrder o.ordered.toList
  ready : ∀ s ∈ o.ready, ∀ d ∈ s.dependencies, d ∈ idsOf o.ordered.toList

variable {r : Registry β} {o : Progress β}

theorem settled_start (r : Registry β) : r.Settled r.start := by
  have h := r.reached_start
  exact ⟨h.waiting, fun before s after he => by simp [start] at he, fun s hs => (h.ready s hs).2⟩

theorem Settled.turn (h : r.Settled o) {x : Stage β} {rest : List (Stage β)}
    (hp : o.ready.Perm (x :: rest)) : r.Settled (r.turn x rest o) := by
  have hordered : (r.turn x rest o).ordered.toList = o.ordered.toList ++ [x] := Array.toList_push
  refine ⟨by rw [hordered]; rfl, ?_, fun s hs d hd => ?_⟩
  · rw [hordered, inOrder_concat]
    exact ⟨h.taken, h.ready x (hp.symm.subset List.mem_cons_self)⟩
  · rw [hordered]
    rcases List.mem_append.1 hs with hs | hs
    · exact (mem_freed.1 (List.mem_reverse.1 hs)).2 d hd
    · simp [h.ready s (hp.symm.subset (List.mem_cons_of_mem x hs)) d hd]

theorem Settled.advance (n : Nat) : ∀ {o : Progress β}, r.Settled o → r.Settled (r.advance n o) := by
  induction n with
  | zero => exact fun h => h
  | succ n ih =>
    intro o h
    rw [Registry.advance]
    cases ht : takeLeast? o.ready with
    | none => exact h
    | some p =>
      obtain ⟨x, rest⟩ := p
      simp only [foldl_release_dependents x rest h.waiting]
      exact ih (h.turn (takeLeast?_eq_some ht).1)

/-- **Dependencies come first** in every order, whatever the registry. -/
theorem inOrder_of_order {l : List (Stage β)} (h : r.order = .ok l) : InOrder l := by
  unfold order at h
  split at h
  · cases h
  · dsimp only at h
    split at h
    · obtain rfl := Except.ok.inj h
      exact (r.settled_start.advance r.room).taken
    · cases h

end Registry
end

/-! ## Reports -/

theorem DrawError.message_ne_empty (e : DrawError) : e.message ≠ "" := by
  have append (s : String) {t : String} (h : t ≠ "") : s ++ t ≠ "" := by
    simp [String.append_eq_empty_iff, h]
  cases e with
  | tooFew | tooMany | notUnpackable | notIterable | notSubscriptable | notAddable =>
    exact append _ (by decide)
  | outOfRange k | notMultipliable k => cases k <;> decide
  | noField position => exact Nat.repr_ne_empty
  | notSliceable | tooLarge => decide

theorem FlattenError.message_ne_empty (e : FlattenError) : e.message ≠ "" := by
  cases e with
  | incomparable => simp [FlattenError.message, String.append_eq_empty_iff]
  | divisionByZero => decide

theorem Fault.report_ne_empty (f : Fault) : f.report ≠ ("" : Text) := by
  cases f with
  | draw e => exact fun h => e.message_ne_empty (Text.ofString_inj.1 h)
  | flatten e => exact fun h => e.message_ne_empty (Text.ofString_inj.1 h)
  | named name text isNamed =>
    simp only [Fault.report]
    split
    · exact fun h => isNamed (Text.ofString_inj.1 h)
    · rename_i h
      rintro rfl
      exact h rfl

/-! ## Runs -/

variable {α : Type} {page : Page α} {stages before : List (Stage (Body α))} {s : Stage (Body α)}
  {o o' : Output α}

/-- The bodies of some stages, run one after the other, take one output to
another, and none of them fails. -/
inductive Runs (page : Page α) : List (Stage (Body α)) → Output α → Output α → Prop
  | nil (o : Output α) : Runs page [] o o
  | cons {s : Stage (Body α)} {rest : List (Stage (Body α))} {o o' o'' : Output α}
      (h : s.body page o = (o', none)) (hrest : Runs page rest o' o'') : Runs page (s :: rest) o o''

/-- Stages run to their end, or up to the first that fails. -/
theorem runs_or_fails (page : Page α) (stages : List (Stage (Body α))) (o : Output α) :
    (∃ o', Runs page stages o o') ∨
    ∃ before s after o' fault, stages = before ++ s :: after ∧ Runs page before o o' ∧
      (s.body page o').2 = some fault := by
  induction stages generalizing o with
  | nil => exact .inl ⟨o, .nil o⟩
  | cons s rest ih =>
    match hbody : s.body page o with
    | (_, some fault) => exact .inr ⟨[], s, rest, o, fault, rfl, .nil o, by rw [hbody]⟩
    | (o', none) =>
      rcases ih o' with ⟨o'', h⟩ | ⟨before, t, after, o'', fault, rfl, h, hfault⟩
      · exact .inl ⟨o'', .cons hbody h⟩
      · exact .inr ⟨s :: before, t, after, o'', fault, rfl, .cons hbody h, hfault⟩

/-- What a pass is after stages of which none failed. -/
structure Pass.IsThrough (p : Pass α) (stages : List (Stage (Body α))) (o : Output α) : Prop where
  output : p.output = o
  started : p.started = idsOf stages
  completed : ∀ id, id ∈ p.completed ↔ id ∈ idsOf stages
  once : p.completed.Nodup
  failure : p.failure = none

/-- What a pass is after a stage that failed. -/
structure Pass.IsStopped (p : Pass α) (before : List (Stage (Body α))) (s : Stage (Body α))
    (fault : Fault) : Prop where
  output : p.output = {}
  started : p.started = idsOf before ++ [s.id]
  completed : ∀ id, id ∈ p.completed ↔ id ∈ idsOf before
  once : p.completed.Nodup
  failure : p.failure = some (s.id, fault.report)

theorem Pass.isThrough_start : ({} : Pass α).IsThrough [] {} :=
  ⟨rfl, rfl, fun _ => Iff.rfl, List.nodup_nil, rfl⟩

/-- A stage that does not fail is completed, again if it has been already. -/
theorem Pass.IsThrough.step {p : Pass α} {done : List (Stage (Body α))} (hp : p.IsThrough done o)
    (hbody : s.body page o = (o', none)) (rest : List (Stage (Body α))) :
    ∃ q, q.IsThrough (done ++ [s]) o' ∧ Pass.run page (s :: rest) p = Pass.run page rest q := by
  have hrun : Pass.run page (s :: rest) p = Pass.run page rest { p with
      output := o'
      started := p.started ++ [s.id]
      completed := if p.completed.contains s.id then p.completed else p.completed ++ [s.id] } := by
    rw [Pass.run, hp.output, hbody]
  refine ⟨_, ?_, hrun⟩
  refine ⟨rfl, by simp [hp.started], fun id => ?_, ?_, hp.failure⟩
  · simp only [List.contains_iff_mem, mem_idsOf_concat]
    split
    · rename_i hmem
      rw [hp.completed] at hmem ⊢
      exact ⟨.inl, fun h => h.elim (fun h => h) fun h => h ▸ hmem⟩
    · rw [List.mem_append, List.mem_singleton, hp.completed]
  · simp only [List.contains_iff_mem]
    split
    · exact hp.once
    · rename_i hmem
      rw [← List.concat_eq_append]
      exact hp.once.concat hmem

/-- A pass goes on over stages that do not fail. -/
theorem Pass.IsThrough.run {p : Pass α} {done : List (Stage (Body α))} (hp : p.IsThrough done o)
    (h : Runs page before o o') (after : List (Stage (Body α))) :
    ∃ q, q.IsThrough (done ++ before) o' ∧
      Pass.run page (before ++ after) p = Pass.run page after q := by
  induction h generalizing p done with
  | nil o => exact ⟨p, by simpa using hp, rfl⟩
  | @cons s rest o o' o'' hbody _ ih =>
    obtain ⟨q, hq, hrun⟩ := hp.step hbody (rest ++ after)
    obtain ⟨q', hq', hrun'⟩ := ih hq
    exact ⟨q', by simpa using hq', hrun.trans hrun'⟩

theorem Pass.isThrough_run (h : Runs page stages {} o) : (Pass.run page stages {}).IsThrough stages o := by
  obtain ⟨q, hq, hrun⟩ := Pass.isThrough_start.run h []
  rw [List.append_nil] at hrun
  rw [hrun]
  exact hq

theorem Pass.isStopped_run (h : Runs page before {} o) {fault : Fault}
    (hfault : (s.body page o).2 = some fault) (after : List (Stage (Body α))) :
    (Pass.run page (before ++ s :: after) {}).IsStopped before s fault := by
  obtain ⟨q, hq, hrun⟩ := Pass.isThrough_start.run h (s :: after)
  rw [hrun, Pass.run, hq.output]
  obtain ⟨o', hbody⟩ : ∃ o', s.body page o = (o', some fault) := ⟨_, Prod.ext rfl hfault⟩
  rw [hbody]
  exact ⟨rfl, congrArg (· ++ [s.id]) hq.started, hq.completed, hq.once, rfl⟩

theorem Pass.IsThrough.curves {p : Pass α} (h : p.IsThrough stages o) : p.curves = .ok o.curves := by
  rw [Pass.curves, h.failure, h.output]

theorem Pass.IsStopped.curves {p : Pass α} {fault : Fault} (h : p.IsStopped before s fault) :
    p.curves = .error ⟨.extraction, s.id ++ ": " ++ fault.report⟩ := by
  rw [Pass.curves, h.failure]

/-- **A pass is complete or empty**, for all registries, whatever their stages
do. Without an order nothing is begun. Otherwise the stages of the order run
either to their end, or up to the first that fails. In the one case the pass has
their output, no failure, and all of them completed. In the other it has no
output, and the report of the stage that failed; it has completed what is
listed before that stage, so all that the stage depends on, and has begun
nothing after it. The curves are had exactly in the first case. -/
theorem pass_outcome (r : Registry (Body α)) (page : Page α) :
    (∀ e, r.order = .error e → r.pass page = ({}, some e)) ∧
    (∀ stages, r.order = .ok stages → ∃ pass, r.pass page = (pass, none) ∧
      (∀ o, Runs page stages {} o → pass.IsThrough stages o ∧ pass.curves = .ok o.curves) ∧
      (∀ before s after o fault, stages = before ++ s :: after → Runs page before {} o →
        (s.body page o).2 = some fault →
          pass.IsStopped before s fault ∧ fault.report ≠ ("" : Text) ∧
          (∀ d ∈ s.dependencies, d ∈ pass.completed) ∧
          pass.curves = .error ⟨.extraction, s.id ++ ": " ++ fault.report⟩) ∧
      ((∃ o, Runs page stages {} o) ∨
        ∃ before s after o fault, stages = before ++ s :: after ∧ Runs page before {} o ∧
          (s.body page o).2 = some fault)) := by
  refine ⟨fun e he => by rw [Registry.pass, he], fun stages hstages => ?_⟩
  refine ⟨Pass.run page stages {}, by rw [Registry.pass, hstages], fun o h => ?_,
    fun before s after o fault he h hfault => ?_, runs_or_fails page stages {}⟩
  · have hthrough := Pass.isThrough_run h
    exact ⟨hthrough, hthrough.curves⟩
  · have hstopped := Pass.isStopped_run h hfault after
    rw [← he] at hstopped
    have hdependencies := Registry.inOrder_of_order hstages before s after he
    exact ⟨hstopped, fault.report_ne_empty, fun d hd => (hstopped.completed d).2 (hdependencies d hd),
      hstopped.curves⟩

end PlotDigitizer
