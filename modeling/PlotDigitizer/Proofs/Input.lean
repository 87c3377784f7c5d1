/-
What raw input is read as.

A name is read from a text that is the name, a scalar from a number or from a
numeral (`Value.Gives`), and points from lists that are nested evenly and not
too deep (`Value.HoldsPoints`). Each of the readers succeeds on exactly that
(`Value.named_eq_ok`, `Value.scalar_eq_ok`, `Value.points_eq_ok`) and refuses
everything else.
-/
import PlotDigitizer.Calibration.Calibrator
import PlotDigitizer.Proofs.Points

namespace PlotDigitizer

variable {α : Type}

namespace Value

/-! ## Names -/

theorem named_eq_ok {β : Type} {v : Value α} {family : String} {ofName? : String → Option β} {b : β} :
    v.named family ofName? = .ok b ↔ ∃ s, v = .text (.ofString s) ∧ ofName? s = some b := by
  constructor
  · intro h
    unfold named at h
    split at h
    · rename_i t
      split at h
      · rename_i b' hname
        obtain rfl := Except.ok.inj h
        obtain ⟨s, hs, hb⟩ := Option.bind_eq_some_iff.1 hname
        exact ⟨s, by rw [Text.toString?_eq_some.1 hs], hb⟩
      · cases h
    · cases h
  · rintro ⟨s, rfl, hb⟩
    simp [named, hb]

/-! ## Scalars -/

section
variable [Reading α]

/-- A value that stands for a scalar: the scalar itself, a numeral of it, or a
whole number that it is the nearest to. -/
inductive Gives : Value α → α → Prop where
  | real (x : α) : Gives (.real x) x
  | text {s : String} {x : α} (h : Reading.ofText? s = some x) : Gives (.text (.ofString s)) x
  | int {n : Int} {x : α} (h : Reading.ofInt? n = some x) : Gives (.int n) x
  | bool {b : Bool} {x : α} (h : Reading.ofInt? (if b then 1 else 0) = some x) : Gives (.bool b) x

/-- A whole number is read as the scalar nearest to it. -/
theorem scalar_of_whole? {v : Value α} {n : Int} (h : v.whole? = some n) {x : α} :
    v.scalar = .ok x ↔ Reading.ofInt? n = some x := by
  cases v with
  | int m | bool b =>
    obtain rfl := Option.some.inj h
    simp only [scalar, whole?]
    split
    · rename_i hx
      rw [Except.ok.injEq, hx, Option.some.injEq]
    · rename_i hx
      simp [hx]
  | _ => cases h

theorem scalar_eq_ok {v : Value α} {x : α} : v.scalar = .ok x ↔ v.Gives x := by
  cases v with
  | real y =>
    refine ⟨fun h => ?_, fun h => by cases h; rfl⟩
    obtain rfl := Except.ok.inj h
    exact .real _
  | int n => exact (scalar_of_whole? rfl).trans ⟨.int, fun h => by cases h; assumption⟩
  | bool b => exact (scalar_of_whole? rfl).trans ⟨.bool, fun h => by cases h; assumption⟩
  | text t =>
    constructor
    · intro h
      simp only [scalar] at h
      split at h
      · rename_i hnumeral
        obtain rfl := Except.ok.inj h
        obtain ⟨s, hs, hx⟩ := Option.bind_eq_some_iff.1 hnumeral
        rw [Text.toString?_eq_some.1 hs]
        exact .text hx
      · cases h
    · intro h
      cases h with
      | text h => simp [scalar, h]
  | _ => exact iff_of_false (fun h => by cases h) (fun h => by cases h)

/-- A missing coordinate is undefined. -/
def GivesCoordinate (v : Value α) (x : α) : Prop := (v = .null ∧ x = Reading.undefined) ∨ v.Gives x

theorem coordinate_eq_ok {v : Value α} {x : α} : v.coordinate = .ok x ↔ v.GivesCoordinate x := by
  constructor
  · intro h
    unfold coordinate at h
    split at h
    · exact .inl ⟨rfl, (Except.ok.inj h).symm⟩
    · exact .inr (scalar_eq_ok.1 h)
  · rintro (⟨rfl, rfl⟩ | h)
    · rfl
    · rw [← scalar_eq_ok] at h
      cases v with
      | null => cases h
      | _ => exact h

end

/-! ## Nestings -/

/-- Lists in lists, those of one depth being of one length; the lengths from
outside in. -/
inductive Nests : Value α → List Nat → Prop where
  | leaf {v : Value α} (h : ∀ items, v ≠ .list items) : Nests v []
  | empty : Nests (.list []) [0]
  | list {items : List (Value α)} {shape : List Nat} (hne : items ≠ [])
    (h : ∀ v ∈ items, Nests v shape) : Nests (.list items) (items.length :: shape)

theorem commonStart_self (s : List Nat) : commonStart s s = s := by
  induction s with
  | nil => rfl
  | cons n s ih => rw [commonStart, if_pos rfl, ih]

/-- Items go on evenly if all of them are even and like those before. -/
theorem shapeWith_eq_true {items : List (Value α)} {s t : List Nat} {u : Bool} :
    shapeWith (s, u) items = (t, true) ↔ s = t ∧ u = true ∧ ∀ v ∈ items, v.shape = (t, true) := by
  induction items generalizing s u with
  | nil => simp [shapeWith]
  | cons v items ih =>
    rw [shapeWith]
    rcases hv : v.shape with ⟨here, even⟩
    simp only [ih, Bool.and_eq_true, beq_iff_eq, List.forall_mem_cons, hv, Prod.mk.injEq]
    constructor
    · rintro ⟨hcommon, ⟨⟨rfl, rfl⟩, rfl⟩, hitems⟩
      rw [commonStart_self] at hcommon
      exact ⟨hcommon, rfl, ⟨hcommon, rfl⟩, hitems⟩
    · rintro ⟨rfl, rfl, ⟨rfl, rfl⟩, hitems⟩
      exact ⟨commonStart_self _, ⟨⟨rfl, rfl⟩, rfl⟩, hitems⟩

theorem shape_list_eq_true {v : Value α} {items : List (Value α)} {s : List Nat} :
    (Value.list (v :: items)).shape = (s, true) ↔
      ∃ t, s = (items.length + 1) :: t ∧ ∀ w ∈ v :: items, w.shape = (t, true) := by
  rw [shape]
  rcases hrest : shapeWith v.shape items with ⟨t, u⟩
  rcases hv : v.shape with ⟨here, even⟩
  rw [hv] at hrest
  simp only [Prod.mk.injEq, List.forall_mem_cons, hv]
  constructor
  · rintro ⟨rfl, rfl⟩
    obtain ⟨rfl, rfl, hitems⟩ := shapeWith_eq_true.1 hrest
    exact ⟨here, rfl, ⟨rfl, rfl⟩, hitems⟩
  · rintro ⟨t', rfl, ⟨rfl, rfl⟩, hitems⟩
    rw [shapeWith_eq_true.2 ⟨rfl, rfl, hitems⟩, Prod.mk.injEq] at hrest
    obtain ⟨rfl, rfl⟩ := hrest
    exact ⟨rfl, rfl⟩

theorem Nests.shape_eq {v : Value α} {s : List Nat} (h : v.Nests s) : v.shape = (s, true) := by
  induction h with
  | leaf h =>
    rename_i v
    cases v with
    | list items => exact (h items rfl).elim
    | _ => simp [shape]
  | empty => simp [shape]
  | list hne _ ih =>
    rename_i items _ _
    cases items with
    | nil => exact (hne rfl).elim
    | cons v items => exact shape_list_eq_true.2 ⟨_, rfl, ih⟩

theorem nests_of_shape {s : List Nat} : ∀ {v : Value α}, v.shape = (s, true) → v.Nests s
  | .list [], h => by
    simp only [shape, Prod.mk.injEq, and_true] at h
    obtain rfl := h
    exact .empty
  | .list (v :: items), h => by
    obtain ⟨t, rfl, hitems⟩ := shape_list_eq_true.1 h
    exact .list (List.cons_ne_nil v items) fun w hw => nests_of_shape (hitems w hw)
  | .null, h | .bool _, h | .int _, h | .real _, h | .text _, h | .record _, h => by
    simp only [shape, Prod.mk.injEq, and_true] at h
    obtain rfl := h
    exact .leaf (by simp)

theorem shape_eq_true {v : Value α} {s : List Nat} : v.shape = (s, true) ↔ v.Nests s :=
  ⟨nests_of_shape, Nests.shape_eq⟩

/-! ## Points -/

theorem coordinates_pairs {xs : List α} (h : xs.length % 2 = 0) : coordinates (pairs xs) = xs := by
  induction xs using pairs.induct with
  | case1 x y rest ih =>
    have hrest : rest.length % 2 = 0 := by
      simp only [List.length_cons] at h
      omega
    rw [pairs]
    exact congrArg (x :: y :: ·) (ih hrest)
  | case2 xs hxs =>
    cases xs with
    | nil => rfl
    | cons x rest =>
      cases rest with
      | nil => simp at h
      | cons y rest => exact (hxs x y rest rfl).elim

variable [Reading α]

/-- A value that holds points: an even nesting, not too deep, of their
coordinates in order. -/
structure HoldsPoints (v : Value α) (ps : List (Point α)) : Prop where
  nests : ∃ shape, v.Nests shape ∧ shape.length ≤ maxNesting
  coordinates : List.Forall₂ GivesCoordinate v.leaves (coordinates ps)

theorem points_eq_ok {v : Value α} {ps : List (Point α)} : v.points = .ok ps ↔ v.HoldsPoints ps := by
  have hcoordinates {xs : List α} :
      v.leaves.mapM coordinate = .ok xs ↔ List.Forall₂ GivesCoordinate v.leaves xs := by
    simp only [mapM_eq_ok, coordinate_eq_ok]
  constructor
  · intro h
    unfold points at h
    rcases hshape : v.shape with ⟨shape, uniform⟩
    simp only [hshape] at h
    split at h
    · cases h
    · rename_i hdepth
      cases uniform with
      | false => simp at h
      | true =>
        simp only [Bool.not_true, Bool.false_eq_true, if_false] at h
        obtain ⟨xs, hxs, h⟩ := bind_eq_ok.1 h
        split at h
        · rename_i heven
          obtain rfl := pure_eq_ok.1 h
          refine ⟨⟨shape, shape_eq_true.1 hshape, by simpa using hdepth⟩, ?_⟩
          rw [coordinates_pairs heven]
          exact hcoordinates.1 hxs
        · cases h
  · rintro ⟨⟨shape, hnests, hdepth⟩, h⟩
    have heven : (Value.coordinates ps).length % 2 = 0 := by
      rw [length_coordinates]
      omega
    simp only [points, hnests.shape_eq, hcoordinates.2 h, ok_bind, heven, pairs_coordinates]
    rw [if_neg (by simpa using hdepth), if_neg (by simp)]
    rfl

end Value

/-! ## Axes and ends -/

namespace Axis

theorem ofName?_eq_some {s : String} {a : Axis} : ofName? s = some a ↔ s = a.name := by
  cases a <;> grind [ofName?, name]

/-- An axis goes by its name alone. -/
theorem ofValue_eq_ok {v : Value α} {a : Axis} : ofValue v = .ok a ↔ v = .text (.ofString a.name) := by
  simp [ofValue, Value.named_eq_ok, ofName?_eq_some]

end Axis

namespace Endpoint

def name : Endpoint → String
  | start => "start"
  | stop => "end"

theorem ofName?_eq_some {s : String} {e : Endpoint} : ofName? s = some e ↔ s = e.name := by
  cases e <;> grind [ofName?, name]

/-- An end goes by its name alone. -/
theorem ofValue_eq_ok {v : Value α} {e : Endpoint} :
    ofValue v = .ok e ↔ v = .text (.ofString e.name) := by
  simp [ofValue, Value.named_eq_ok, ofName?_eq_some]

end Endpoint
end PlotDigitizer
