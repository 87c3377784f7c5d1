/-
What the changes of a calibration do to it.

There are six things to know of the axes of a chart, each with a slot of its
own. A change enters one of them, which its arguments tell (`Change.Enters`),
or empties all; any other is refused, and whether it is refused does not depend
on the calibration (`change_eq_ok`). What is entered fills its own slot and no
other (`read_enter`). A data value is entered only if it is a number proper, so
after any changes all of them are (`HasFiniteValues.after`).
-/
import PlotDigitizer.Proofs.Input

namespace PlotDigitizer

variable {α : Type}

/-- The segment from the least corner of a box to the greatest. -/
def Segment.across (b : Box α) : Segment α := ⟨b.xmin, b.ymin, b.xmax, b.ymax⟩

/-- Points span a segment if there are any. -/
theorem Segment.spanning_eq_ok [BEq α] [Zero α] [LT α] [DecidableLT α] {ps : List (Point α)} {s : Segment α} :
    Segment.spanning ps = .ok s ↔ ps ≠ [] ∧ s = Segment.across (Box.ofPoints ps) := by
  cases ps with
  | nil => simp [Segment.spanning]
  | cons p ps => simp [Segment.spanning, Segment.across, eq_comm]

namespace Calibrator

/-! ## Slots and entries -/

theorem slots_setSegment (c : Calibrator α) (a b : Axis) (segment : Segment α) :
    (c.setSegment a segment).slots b =
      if b = a then { c.slots b with segment := some segment } else c.slots b := by
  split
  · rename_i h
    rw [h, setSegment, slots_update_self]
  · rename_i h
    rw [setSegment, slots_update_of_ne c h]

theorem slots_setNumber (c : Calibrator α) (a b : Axis) (e : Endpoint) (v : α) :
    (c.setNumber a e v).slots b =
      if b = a then
        match e with
        | .start => { c.slots b with start := some v }
        | .stop => { c.slots b with stop := some v }
      else c.slots b := by
  split
  · rename_i h
    cases e <;> simp only [h, setNumber, slots_update_self]
  · rename_i h
    rw [setNumber, slots_update_of_ne c h]

/-- One of the six things to know of the axes. -/
inductive Slot where
  | segment (a : Axis)
  | value (a : Axis) (e : Endpoint)
deriving Repr, DecidableEq

/-- Something known, with the slot that it is for. -/
inductive Entry (α : Type) where
  | segment (a : Axis) (s : Segment α)
  | value (a : Axis) (e : Endpoint) (v : α)

def Entry.slot : Entry α → Slot
  | .segment a _ => .segment a
  | .value a e _ => .value a e

/-- What a slot holds. -/
def read (c : Calibrator α) : Slot → Option (Entry α)
  | .segment a => (c.slots a).segment.map (.segment a)
  | .value a .start => (c.slots a).start.map (.value a .start)
  | .value a .stop => (c.slots a).stop.map (.value a .stop)

def enter (c : Calibrator α) : Entry α → Calibrator α
  | .segment a s => c.setSegment a s
  | .value a e v => c.setNumber a e v

@[simp] theorem read_empty (s : Slot) : ({} : Calibrator α).read s = none := by
  rcases s with (_ | _) | ⟨_ | _, _ | _⟩ <;> rfl

/-- An entry fills its own slot and no other. -/
theorem read_enter (c : Calibrator α) (x : Entry α) (s : Slot) :
    (c.enter x).read s = if x.slot = s then some x else c.read s := by
  rcases x with ⟨a, _⟩ | ⟨a, e, _⟩
  · rcases s with b | ⟨b, d⟩
    · cases a <;> cases b <;> rfl
    · cases a <;> cases b <;> cases d <;> rfl
  · rcases s with b | ⟨b, d⟩
    · cases a <;> cases e <;> cases b <;> rfl
    · cases a <;> cases e <;> cases b <;> cases d <;> rfl

theorem read_enter_self (c : Calibrator α) (x : Entry α) : (c.enter x).read x.slot = some x := by
  rw [read_enter, if_pos rfl]

/-- The slots are all there is of a calibration. -/
theorem eq_of_read {c d : Calibrator α} (h : ∀ s, c.read s = d.read s) : c = d := by
  have hslots (a : Axis) : c.slots a = d.slots a := by
    have hsegment : (c.slots a).segment = (d.slots a).segment :=
      Option.map_injective (fun s t h => by cases h; rfl) (h (.segment a))
    have hstart : (c.slots a).start = (d.slots a).start :=
      Option.map_injective (fun v w h => by cases h; rfl) (h (.value a .start))
    have hstop : (c.slots a).stop = (d.slots a).stop :=
      Option.map_injective (fun v w h => by cases h; rfl) (h (.value a .stop))
    cases hc : c.slots a
    cases hd : d.slots a
    simp only [hc, hd] at hsegment hstart hstop
    rw [hsegment, hstart, hstop]
  have hx : c.x = d.x := hslots .x
  have hy : c.y = d.y := hslots .y
  cases c
  cases d
  rw [Calibrator.mk.injEq]
  exact ⟨hx, hy⟩

theorem enter_comm (c : Calibrator α) {x y : Entry α} (h : x.slot ≠ y.slot) :
    (c.enter x).enter y = (c.enter y).enter x := by
  refine eq_of_read fun s => ?_
  simp only [read_enter]
  split
  · rename_i hy
    rw [if_neg (fun hx => h (hx.trans hy.symm))]
  · rfl

/-! ## Changes -/

section
variable [BEq α] [Zero α] [LT α] [DecidableLT α] [Reading α]

/-- What a change enters. Its axis and its end go by their names; the points it
spans are not none, and its data value is a number proper. -/
inductive Change.Enters : Change α → Entry α → Prop where
  | segment (a : Axis) (s : Segment α) : Enters (.segment (.text (.ofString a.name)) s) (.segment a s)
  | span (a : Axis) {points : Value α} {ps : List (Point α)} (hpoints : points.HoldsPoints ps)
    (hne : ps ≠ []) :
    Enters (.span (.text (.ofString a.name)) points) (.segment a (Segment.across (Box.ofPoints ps)))
  | curve (a : Axis) {curve : Curve α} (hne : curve.points ≠ []) :
    Enters (.curve (.text (.ofString a.name)) curve)
      (.segment a (Segment.across (Box.ofPoints curve.points)))
  | value (a : Axis) (e : Endpoint) {given : Value α} {v : α} (hgiven : given.Gives v)
    (hfinite : Reading.isFinite v = true) :
    Enters (.value (.text (.ofString a.name)) (.text (.ofString e.name)) given) (.value a e v)

/-- The calibration after some changes. One that is refused is left out. -/
def after (c : Calibrator α) (changes : List (Change α)) : Calibrator α :=
  changes.foldl (fun c d => (c.change d).toOption.getD c) c

/-- The data values that are recorded are numbers proper. -/
def HasFiniteValues (c : Calibrator α) : Prop :=
  ∀ a v, (c.slots a).start = some v ∨ (c.slots a).stop = some v → Reading.isFinite v = true

variable {c c' : Calibrator α} {d : Change α} {x y : Entry α}

theorem change_of_enters (h : d.Enters x) (c : Calibrator α) : c.change d = .ok (c.enter x) := by
  cases h with
  | segment a s => simp only [change, Axis.ofValue_eq_ok.2 rfl, ok_bind, enter, pure_eq_ok]
  | span a hpoints hne =>
    simp only [change, setSpan, Axis.ofValue_eq_ok.2 rfl, Value.points_eq_ok.2 hpoints,
      Segment.spanning_eq_ok.2 ⟨hne, rfl⟩, ok_bind, enter, pure_eq_ok]
  | curve a hne =>
    simp only [change, setSpan, Axis.ofValue_eq_ok.2 rfl, Segment.spanning_eq_ok.2 ⟨hne, rfl⟩, ok_bind,
      enter, pure_eq_ok]
  | value a e hgiven hfinite =>
    simp only [change, enterValue, Axis.ofValue_eq_ok.2 rfl, Endpoint.ofValue_eq_ok.2 rfl,
      Value.scalar_eq_ok.2 hgiven, hfinite, Bool.not_true, Bool.false_eq_true, if_false, ok_bind, enter,
      pure_eq_ok]

/-- A change enters something, or empties all. If it does neither it is
refused, by every calibration. -/
theorem change_eq_ok : c.change d = .ok c' ↔
    (∃ x, d.Enters x ∧ c' = c.enter x) ∨ (d = .reset ∧ c' = {}) := by
  constructor
  · intro h
    cases d with
    | segment axis s =>
      simp only [change, bind_eq_ok, pure_eq_ok, Axis.ofValue_eq_ok] at h
      obtain ⟨a, rfl, rfl⟩ := h
      exact .inl ⟨_, .segment a s, rfl⟩
    | span axis points =>
      simp only [change, setSpan, bind_eq_ok, pure_eq_ok, Axis.ofValue_eq_ok, Value.points_eq_ok,
        Segment.spanning_eq_ok] at h
      obtain ⟨a, rfl, ps, hpoints, _, ⟨hne, rfl⟩, rfl⟩ := h
      exact .inl ⟨_, .span a hpoints hne, rfl⟩
    | curve axis curve =>
      simp only [change, setSpan, bind_eq_ok, pure_eq_ok, Axis.ofValue_eq_ok, Segment.spanning_eq_ok] at h
      obtain ⟨a, rfl, _, ⟨hne, rfl⟩, rfl⟩ := h
      exact .inl ⟨_, .curve a hne, rfl⟩
    | value axis endpoint given =>
      simp only [change, enterValue, bind_eq_ok, Axis.ofValue_eq_ok, Value.scalar_eq_ok] at h
      obtain ⟨a, rfl, v, hgiven, h⟩ := h
      cases hfinite : Reading.isFinite v with
      | false => simp [hfinite, throw_eq_error, error_bind] at h
      | true =>
        simp only [hfinite, Bool.not_true, Bool.false_eq_true, if_false, bind_eq_ok, pure_eq_ok,
          Endpoint.ofValue_eq_ok] at h
        obtain ⟨e, rfl, rfl⟩ := h
        exact .inl ⟨_, .value a e hgiven hfinite, rfl⟩
    | reset =>
      cases h
      exact .inr ⟨rfl, rfl⟩
  · rintro (⟨x, hx, rfl⟩ | ⟨rfl, rfl⟩)
    · exact change_of_enters hx c
    · rfl

theorem change_eq_error : (∃ e, c.change d = .error e) ↔ d ≠ .reset ∧ ∀ x, ¬d.Enters x := by
  constructor
  · rintro ⟨e, h⟩
    refine ⟨fun hd => ?_, fun x hx => ?_⟩
    · rw [hd] at h
      cases h
    · rw [change_of_enters hx] at h
      cases h
  · rintro ⟨hreset, hnone⟩
    cases h : c.change d with
    | error e => exact ⟨e, rfl⟩
    | ok c' =>
      rcases change_eq_ok.1 h with ⟨x, hx, -⟩ | ⟨hd, -⟩
      · exact (hnone x hx).elim
      · exact (hreset hd).elim

theorem Change.Enters.unique (hx : d.Enters x) (hy : d.Enters y) : x = y := by
  have henter : ({} : Calibrator α).enter x = ({} : Calibrator α).enter y :=
    Except.ok.inj ((change_of_enters hx {}).symm.trans (change_of_enters hy {}))
  have hread := read_enter_self {} x
  rw [henter, read_enter] at hread
  split at hread
  · exact (Option.some.inj hread).symm
  · rw [read_empty] at hread
    cases hread

theorem HasFiniteValues.change (hc : c.HasFiniteValues) (h : c.change d = .ok c') :
    c'.HasFiniteValues := by
  intro b w hw
  rcases change_eq_ok.1 h with ⟨x, hx, rfl⟩ | ⟨-, rfl⟩
  · cases hx with
    | segment a s | span a | curve a =>
      rw [enter, slots_setSegment] at hw
      split at hw <;> exact hc b w hw
    | value a e hgiven hfinite =>
      rw [enter, slots_setNumber] at hw
      split at hw
      · -- the end that was entered holds the value, the other what it held
        cases e with
        | start =>
          rcases hw with hw | hw
          · cases hw
            exact hfinite
          · exact hc b w (.inr hw)
        | stop =>
          rcases hw with hw | hw
          · exact hc b w (.inl hw)
          · cases hw
            exact hfinite
      · exact hc b w hw
  · cases b <;> rcases hw with hw | hw <;> cases hw

theorem HasFiniteValues.after (hc : c.HasFiniteValues) (changes : List (Change α)) :
    (c.after changes).HasFiniteValues := by
  induction changes generalizing c with
  | nil => exact hc
  | cons d changes ih =>
    have hstep : ((c.change d).toOption.getD c).HasFiniteValues := by
      cases hd : c.change d with
      | error => exact hc
      | ok c' => exact hc.change hd
    exact ih hstep

end

end Calibrator
end PlotDigitizer
