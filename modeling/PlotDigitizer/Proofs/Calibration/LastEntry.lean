/-
The last entry of every slot.

A call on a calibration enters something in its slot, or empties all slots, or
changes nothing; which of these, its arguments tell (`Call.Enters`). So after
any calls a slot holds what was entered last for it since the last reset
(`holds_last_entries`): calls that fail may be left out, and two calls may
change places unless they enter the same slot.
-/
import Mathlib.Data.List.Induction
import PlotDigitizer.Calibration.Query
import PlotDigitizer.Number.Double
import PlotDigitizer.Proofs.Calibration.Changes

namespace PlotDigitizer.Calibrator

variable {α : Type}

/-- A call on a calibration. -/
inductive Call (α : Type) where
  | change (d : Change α)
  | query (q : Query α)

/-! ## What calls enter -/

section
variable [BEq α] [Zero α] [LT α] [DecidableLT α] [Reading α]

/-- What a call enters. A query enters nothing. -/
def Call.Enters : Call α → Entry α → Prop
  | .change d, x => d.Enters x
  | .query _, _ => False

/-- Of some calls, the last one that entered something for the slot of `x`
entered `x`, and none has reset the calibration since. -/
def LastEntered (calls : List (Call α)) (x : Entry α) : Prop :=
  ∃ before call rest, calls = before ++ call :: rest ∧ call.Enters x ∧
    ∀ later ∈ rest, later ≠ .change .reset ∧ ∀ y, later.Enters y → y.slot ≠ x.slot

/-- Two calls that may change places: neither resets, and they do not enter
the same slot. -/
structure Call.Apart (first second : Call α) : Prop where
  left : first ≠ .change .reset
  right : second ≠ .change .reset
  slots : ∀ x y, first.Enters x → second.Enters y → x.slot ≠ y.slot

variable {call : Call α} {x y : Entry α}

theorem Call.Enters.unique (hx : call.Enters x) (hy : call.Enters y) : x = y := by
  cases call with
  | change d => exact Change.Enters.unique hx hy
  | query q => exact hx.elim

theorem Call.Enters.ne_reset (h : call.Enters x) : call ≠ .change .reset := by
  rintro rfl
  cases h

/-- The three things a call may do. -/
theorem call_cases (call : Call α) :
    (∃ x, call.Enters x) ∨ call = .change .reset ∨ (call ≠ .change .reset ∧ ∀ x, ¬call.Enters x) := by
  by_cases henters : ∃ x, call.Enters x
  · exact .inl henters
  · by_cases hreset : call = .change .reset
    · exact .inr (.inl hreset)
    · exact .inr (.inr ⟨hreset, not_exists.1 henters⟩)

theorem not_lastEntered_nil : ¬LastEntered [] x := by
  rintro ⟨before, call, rest, h, -⟩
  cases before <;> cases h

/-- The last call enters `x`, or `x` was entered last before it and it touches
nothing of that. -/
theorem lastEntered_concat {calls : List (Call α)} : LastEntered (calls ++ [call]) x ↔
    call.Enters x ∨
      (LastEntered calls x ∧ call ≠ .change .reset ∧ ∀ y, call.Enters y → y.slot ≠ x.slot) := by
  constructor
  · rintro ⟨before, first, rest, heq, hfirst, hrest⟩
    rcases List.eq_nil_or_concat' rest with rfl | ⟨rest, last, rfl⟩
    · obtain ⟨-, h⟩ := List.append_inj' heq rfl
      cases h
      exact .inl hfirst
    · rw [← List.cons_append, ← List.append_assoc] at heq
      obtain ⟨rfl, h⟩ := List.append_inj' heq rfl
      cases h
      exact .inr ⟨⟨before, first, rest, rfl, hfirst, fun later h => hrest later (List.mem_append_left _ h)⟩,
        hrest call (List.mem_append_right _ (List.mem_singleton_self call))⟩
  · rintro (h | ⟨⟨before, first, rest, rfl, hfirst, hrest⟩, hcall⟩)
    · exact ⟨calls, call, [], rfl, h, fun later hlater => (List.not_mem_nil hlater).elim⟩
    · refine ⟨before, first, rest ++ [call], by rw [List.append_assoc, List.cons_append], hfirst, ?_⟩
      intro later hlater
      rcases List.mem_append.1 hlater with h | h
      · exact hrest later h
      · rw [List.mem_singleton.1 h]
        exact hcall

end

/-! ## Runs -/

section
variable [BEq α] [Zero α] [Add α] [Sub α] [Mul α] [Div α] [LT α] [DecidableLT α] [Reading α]

/-- The calibration after a call, if that does not fail. -/
def call (c : Calibrator α) : Call α → Except (QueryError α) (Calibrator α)
  | .change d => (c.change d).mapError .input
  | .query q => (c.ask q).map fun _ => c

/-- The calibration after a call. One that fails leaves it. -/
def next (c : Calibrator α) (call : Call α) : Calibrator α := (c.call call).toOption.getD c

def afterCalls (c : Calibrator α) (calls : List (Call α)) : Calibrator α := calls.foldl next c

/-- The calls of a run that do not fail. -/
def succeeding (c : Calibrator α) : List (Call α) → List (Call α)
  | [] => []
  | call :: rest =>
    match c.call call with
    | .ok d => call :: d.succeeding rest
    | .error _ => c.succeeding rest

variable {c : Calibrator α} {call : Call α} {x : Entry α}

theorem next_of_enters (h : call.Enters x) (c : Calibrator α) : c.next call = c.enter x := by
  cases call with
  | change d =>
    rw [next, Calibrator.call, change_of_enters h]
    rfl
  | query q => exact h.elim

theorem next_reset (c : Calibrator α) : c.next (.change .reset) = {} := rfl

/-- A call that enters nothing and does not reset leaves the calibration. -/
theorem next_of_not_enters (hreset : call ≠ .change .reset) (h : ∀ x, ¬call.Enters x)
    (c : Calibrator α) : c.next call = c := by
  cases call with
  | change d =>
    obtain ⟨e, herror⟩ := change_eq_error (c := c).2 ⟨fun hd => hreset (by rw [hd]), h⟩
    rw [next, Calibrator.call, herror]
    rfl
  | query q =>
    rw [next, Calibrator.call]
    cases c.ask q <;> rfl

theorem afterCalls_concat (c : Calibrator α) (calls : List (Call α)) (call : Call α) :
    c.afterCalls (calls ++ [call]) = (c.afterCalls calls).next call := by
  rw [afterCalls, List.foldl_append]
  rfl

/-- A slot holds what was entered last for it since the last reset. -/
theorem read_afterCalls (calls : List (Call α)) (s : Slot) (x : Entry α) :
    (({} : Calibrator α).afterCalls calls).read s = some x ↔ x.slot = s ∧ LastEntered calls x := by
  induction calls using List.reverseRecOn generalizing x with
  | nil => simp [afterCalls, not_lastEntered_nil]
  | append_singleton calls call ih =>
    rw [afterCalls_concat, lastEntered_concat]
    rcases call_cases call with ⟨y, hy⟩ | rfl | ⟨hreset, hnone⟩
    · have hunique (z : Entry α) : call.Enters z ↔ z = y := ⟨fun hz => hz.unique hy, fun h => h ▸ hy⟩
      rw [next_of_enters hy, read_enter]
      simp only [hunique, ne_eq, hy.ne_reset, not_false_eq_true, true_and, forall_eq]
      by_cases hs : y.slot = s
      · rw [if_pos hs, Option.some.injEq]
        constructor
        · rintro rfl
          exact ⟨hs, .inl rfl⟩
        · rintro ⟨hx, rfl | ⟨-, hne⟩⟩
          · rfl
          · exact (hne (hs.trans hx.symm)).elim
      · rw [if_neg hs, ih]
        constructor
        · rintro ⟨hx, hlast⟩
          exact ⟨hx, .inr ⟨hlast, fun h => hs (h.trans hx)⟩⟩
        · rintro ⟨hx, rfl | ⟨hlast, -⟩⟩
          · exact (hs hx).elim
          · exact ⟨hx, hlast⟩
    · have hnone (y : Entry α) : ¬(Call.change .reset : Call α).Enters y := fun h => h.ne_reset rfl
      rw [next_reset, read_empty]
      simp [hnone]
    · rw [next_of_not_enters hreset hnone, ih]
      simp [hnone, hreset]

theorem afterCalls_succeeding (c : Calibrator α) (calls : List (Call α)) :
    c.afterCalls (c.succeeding calls) = c.afterCalls calls := by
  induction calls generalizing c with
  | nil => rfl
  | cons call rest ih =>
    cases h : c.call call with
    | ok d =>
      have hnext : c.next call = d := by
        rw [next, h]
        rfl
      simp only [succeeding, h]
      show (c.next call).afterCalls (d.succeeding rest) = (c.next call).afterCalls rest
      rw [hnext, ih]
    | error e =>
      have hnext : c.next call = c := by
        rw [next, h]
        rfl
      simp only [succeeding, h]
      show c.afterCalls (c.succeeding rest) = (c.next call).afterCalls rest
      rw [hnext, ih]

theorem next_comm {d : Call α} (h : call.Apart d) (c : Calibrator α) :
    (c.next call).next d = (c.next d).next call := by
  rcases call_cases call with ⟨x, hx⟩ | hreset | ⟨hreset, hnone⟩
  · rcases call_cases d with ⟨y, hy⟩ | hreset | ⟨hreset, hnone⟩
    · simp only [next_of_enters hx, next_of_enters hy, enter_comm c (h.slots x y hx hy)]
    · exact (h.right hreset).elim
    · simp only [next_of_not_enters hreset hnone]
  · exact (h.left hreset).elim
  · simp only [next_of_not_enters hreset hnone]

theorem afterCalls_swap {d : Call α} (h : call.Apart d) (c : Calibrator α) (before rest : List (Call α)) :
    c.afterCalls (before ++ call :: d :: rest) = c.afterCalls (before ++ d :: call :: rest) := by
  simp only [afterCalls, List.foldl_append, List.foldl_cons]
  rw [next_comm h]

theorem HasFiniteValues.next (hc : c.HasFiniteValues) (call : Call α) : (c.next call).HasFiniteValues := by
  cases call with
  | query q =>
    rw [Calibrator.next, Calibrator.call]
    cases c.ask q <;> exact hc
  | change d =>
    rw [Calibrator.next, Calibrator.call]
    cases hd : c.change d with
    | error => exact hc
    | ok c' => exact hc.change hd

theorem HasFiniteValues.afterCalls (hc : c.HasFiniteValues) (calls : List (Call α)) :
    (c.afterCalls calls).HasFiniteValues := by
  induction calls generalizing c with
  | nil => exact hc
  | cons call rest ih => exact ih (hc.next call)

/-- The calls of a run but those that fail, or all of them with two neighbours
swapped that may change places. -/
def SameEntries (calls others : List (Call α)) : Prop :=
  others = ({} : Calibrator α).succeeding calls ∨
  ∃ before first second rest,
    calls = before ++ first :: second :: rest ∧ others = before ++ second :: first :: rest ∧
    first.Apart second

theorem SameEntries.afterCalls_eq {calls others : List (Call α)} (h : SameEntries calls others) :
    ({} : Calibrator α).afterCalls others = ({} : Calibrator α).afterCalls calls := by
  rcases h with rfl | ⟨before, first, second, rest, rfl, rfl, happart⟩
  · exact afterCalls_succeeding {} calls
  · exact (afterCalls_swap happart {} before rest).symm

/-- **The last entry of every slot holds.** A change enters what its arguments
tell, in its own slot and no other, or resets; if they tell nothing it is
refused, whatever the calibration is, and that is left as it was. So after any
calls each of the six slots holds what was entered last for it since the last
reset, and is empty if nothing was; and that is all there is of the
calibration. Without the calls that fail, and with neighbouring ones for
different slots swapped, it is the same and answers the same. The data values
in it are finite. -/
theorem holds_last_entries (calls : List (Call α)) :
    let c := ({} : Calibrator α).afterCalls calls
    (∀ (b b' : Calibrator α) (d : Change α),
      b.change d = .ok b' ↔ (∃ x, d.Enters x ∧ b' = b.enter x) ∨ (d = .reset ∧ b' = {})) ∧
    (∀ (b : Calibrator α) (d : Change α),
      (∃ e, b.change d = .error e) ↔ d ≠ .reset ∧ ∀ x, ¬d.Enters x) ∧
    (∀ (b : Calibrator α) (x : Entry α) (s : Slot),
      (b.enter x).read s = if x.slot = s then some x else b.read s) ∧
    (∀ s x, c.read s = some x ↔ x.slot = s ∧ LastEntered calls x) ∧
    (∀ d : Calibrator α, (∀ s, d.read s = c.read s) → d = c) ∧
    (∀ others, SameEntries calls others →
      ({} : Calibrator α).afterCalls others = c ∧
      ∀ q, (({} : Calibrator α).afterCalls others).ask q = c.ask q) ∧
    c.HasFiniteValues := by
  refine ⟨fun b b' d => change_eq_ok, fun b d => change_eq_error, read_enter, read_afterCalls calls,
    fun d h => eq_of_read h, fun others h => ⟨h.afterCalls_eq, fun q => by rw [h.afterCalls_eq]⟩, ?_⟩
  have hempty : ({} : Calibrator α).HasFiniteValues := by
    intro a v h
    cases a <;> rcases h with h | h <;> cases h
  exact hempty.afterCalls calls

end

/-- A reset, a data value that is entered twice, and calls that fail: there are
no scales, no axis goes by that name, no end does, texts are no numeral or none
of a number proper, and points are none, odd or uneven. -/
def interruptedCalls : List (Call Float) := [
  .change (.segment (.text "x") ⟨0, 0, 10, 0⟩),
  .query .scales,
  .change .reset,
  .change (.value (.text "z") (.text "start") (.int 1)),
  .change (.value (.text "x") (.text "start") (.int 5)),
  .change (.value (.text "x") (.text "start") (.text "five")),
  .change (.value (.text "x") (.text "end") (.text "nan")),
  .change (.value (.text "x") (.text "middle") (.int 6)),
  .change (.span (.text "y") (.list [])),
  .change (.span (.text "y") (.list [.int 1, .int 2, .int 3])),
  .change (.span (.text "y") (.list [.list [.int 1, .int 2], .list [.int 3]])),
  .change (.value (.text "x") (.text "start") (.text "7")),
  .query (.isCalibrated (some (.text "z"))),
  .change (.segment (.text "y") ⟨0, 0, 0, 10⟩)]

/-- Of fourteen calls nine fail. What the others leave is the segment of one
axis and one data value of the other. -/
theorem holds_interruptedCalls :
    let c := ({} : Calibrator Float).afterCalls interruptedCalls
    (LastEntered interruptedCalls (.value .x .start 7) ∧ c.read (.value .x .start) = some (.value .x .start 7)) ∧
    (LastEntered interruptedCalls (.segment .y ⟨0, 0, 0, 10⟩) ∧
      c.read (.segment .y) = some (.segment .y ⟨0, 0, 0, 10⟩)) ∧
    (∀ segment, ¬LastEntered interruptedCalls (.segment .x segment)) ∧
    (∀ v, ¬LastEntered interruptedCalls (.value .x .stop v)) ∧
    (({} : Calibrator Float).succeeding interruptedCalls).length = 5 ∧
    ({} : Calibrator Float).afterCalls (({} : Calibrator Float).succeeding interruptedCalls) = c ∧
    ∀ b : Calibrator Float, ∃ e, b.change (.value (.text "x") (.text "end") (.text "nan")) = .error e := by
  obtain ⟨-, hrefused, -, hread, -, hsame, -⟩ := holds_last_entries interruptedCalls
  have hstart : (({} : Calibrator Float).afterCalls interruptedCalls).read (.value .x .start)
      = some (.value .x .start 7) := by rfl
  have hsegment : (({} : Calibrator Float).afterCalls interruptedCalls).read (.segment .y)
      = some (.segment .y ⟨0, 0, 0, 10⟩) := by rfl
  have hreset : (({} : Calibrator Float).afterCalls interruptedCalls).read (.segment .x) = none := by rfl
  have hstop : (({} : Calibrator Float).afterCalls interruptedCalls).read (.value .x .stop) = none := by rfl
  refine ⟨⟨((hread _ _).1 hstart).2, hstart⟩, ⟨((hread _ _).1 hsegment).2, hsegment⟩, fun segment h => ?_,
    fun v h => ?_, by decide +kernel, (hsame _ (.inl rfl)).1, fun b => ?_⟩
  · rw [(hread (.segment .x) _).2 ⟨rfl, h⟩] at hreset
    cases hreset
  · rw [(hread (.value .x .stop) _).2 ⟨rfl, h⟩] at hstop
    cases hstop
  · -- refused once, a change is refused by every calibration
    have hnan : ∃ e, ({} : Calibrator Float).change (.value (.text "x") (.text "end") (.text "nan")) = .error e :=
      ⟨_, rfl⟩
    exact (hrefused b _).2 ((hrefused {} _).1 hnan)

end PlotDigitizer.Calibrator
