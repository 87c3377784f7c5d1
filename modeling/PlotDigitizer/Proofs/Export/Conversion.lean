/-
One conversion for single points, for many and for an export.

Points are converted by the scales, wherever there are any: one by one, all of a
list, column by column (`Scales.applyColumns_eq`), or curve by curve under their
labels (`Calibrator.label_of_scales`). So all of it is done by the same numbers,
and fails alike (`Calibrator.conversions_agree`).
-/
import PlotDigitizer.Export.Labeled
import PlotDigitizer.Proofs.Calibration.Scales
import PlotDigitizer.Proofs.Points

namespace PlotDigitizer

variable {α β : Type}

section
variable [Add α] [Mul α]

/-- The scales applied to a column of each coordinate, and the columns put side
by side. -/
def Scales.applyColumns (s : Scales α) (ps : List (Point α)) : List (Point α) :=
  List.zipWith Point.mk ((ps.map (·.x)).map s.x.apply) ((ps.map (·.y)).map s.y.apply)

theorem Scales.applyColumns_eq (s : Scales α) (ps : List (Point α)) : s.applyColumns ps = ps.map s.apply := by
  rw [applyColumns, List.map_map, List.map_map, List.zipWith_map, List.zipWith_self]
  rfl

end

variable [BEq α] [Zero α] [Add α] [Sub α] [Mul α] [Div α]

namespace Calibrator
variable {c : Calibrator α} {s : Scales α}

/-! ## Points -/

theorem convert?_of_scales (h : c.scales = .ok s) (p : Point α) : c.convert? p = some (s.apply p) := by
  rw [convert?, h]

theorem convertAll?_of_scales (h : c.scales = .ok s) (ps : List (Point α)) :
    c.convertAll? ps = some (ps.map s.apply) := by
  rw [convertAll?, h]

/-- A point is converted if there are scales, whatever point it is. -/
theorem isSome_convert? (c : Calibrator α) (p : Point α) :
    (c.convert? p).isSome = true ↔ ∃ s, c.scales = .ok s := by
  rw [convert?]
  cases c.scales <;> simp

theorem isSome_convertAll? (c : Calibrator α) (ps : List (Point α)) :
    (c.convertAll? ps).isSome = true ↔ ∃ s, c.scales = .ok s := by
  rw [convertAll?]
  cases c.scales <;> simp

/-- The rows are the points, each converted by itself. -/
theorem map_some_of_convertAll? {ps rows : List (Point α)} (h : c.convertAll? ps = some rows) :
    rows.map some = ps.map c.convert? := by
  rw [convertAll?] at h
  cases hs : c.scales with
  | error e => simp [hs] at h
  | ok s =>
    obtain rfl : ps.map s.apply = rows := by simpa [hs] using h
    rw [List.map_map]
    exact List.map_congr_left fun p _ => (convert?_of_scales hs p).symm

/-- There are as many rows as points, each the conversion of its point. -/
theorem rows_of_convertAll? {ps rows : List (Point α)} (h : c.convertAll? ps = some rows) :
    rows.length = ps.length ∧ ∀ (i : Nat) (p : Point α), ps[i]? = some p → rows[i]? = c.convert? p := by
  have hrows := map_some_of_convertAll? h
  refine ⟨by simpa using congrArg List.length hrows, fun i p hp => ?_⟩
  have hi : (rows.map some)[i]? = (ps.map c.convert?)[i]? := by rw [hrows]
  rw [List.getElem?_map, List.getElem?_map, hp, Option.map_some] at hi
  obtain ⟨row, hrow, hconvert⟩ := Option.map_eq_some_iff.1 hi
  rw [hrow, hconvert]

/-- Raw points are converted as the points they are. -/
theorem convertRaw_ofPoints [Reading α] (c : Calibrator α) (ps : List (Point α)) :
    c.convertRaw (.ofPoints ps) = .ok (c.convertAll? ps) := by
  rw [convertRaw, Value.points_ofPoints, convertAll?]
  cases hs : c.scales with
  | error e => rfl
  | ok s => simp only [Except.map, convertAll?, hs]

end Calibrator

/-! ## Exports -/

/-- A selected curve, converted. -/
def Labeled.ofSelection (s : Scales α) (p : β × Curve α) : Labeled β α where
  label := p.1
  points := p.2.points.map s.apply
  curveIndex := p.2.index

/-- An entry of an export is that of a selection: it has its label, its curve's
index, and its curve's points, each converted by itself. -/
structure Labeled.IsOf (c : Calibrator α) (selection : β × Curve α) (entry : Labeled β α) : Prop where
  label : entry.label = selection.1
  curveIndex : entry.curveIndex = selection.2.index
  points : entry.points.map some = selection.2.points.map c.convert?

namespace Calibrator
variable {c : Calibrator α} {s : Scales α}

/-- With scales, the curves that have points are labeled. -/
theorem label_of_scales (hs : c.scales = .ok s) (selections : List (β × Curve α)) :
    c.label selections = .ok ((selections.filter fun p => !p.2.points.isEmpty).map (Labeled.ofSelection s)) := by
  have hfull : c.isFullyCalibrated = true := isFullyCalibrated_of_scales hs
  simp only [label, hfull, hs, ok_bind, Bool.not_true, Bool.false_eq_true, if_false, convertAll?]
  refine congrArg Except.ok ?_
  induction selections with
  | nil => rfl
  | cons p selections ih =>
    cases hpoints : p.2.points with
    | nil => simp [hpoints, ih]
    | cons q rest => simp [hpoints, ih, Labeled.ofSelection]

/-- By a calibration with scales, curves that have points are all labeled. -/
theorem label_eq (hs : c.scales = .ok s) {selections : List (β × Curve α)}
    (hpoints : ∀ p ∈ selections, p.2.points ≠ []) :
    c.label selections = .ok (selections.map (Labeled.ofSelection s)) := by
  rw [label_of_scales hs, List.filter_eq_self.2 fun p hp => by simpa using hpoints p hp]

/-- Without scales nothing is labeled, and no curve is looked at. -/
theorem exists_label_error {e : Failure} (hs : c.scales = .error e) :
    ∃ e', ∀ selections : List (β × Curve α), c.label selections = .error e' := by
  cases hfull : c.isFullyCalibrated with
  | false => exact ⟨_, fun selections => by simp only [label, hfull]; rfl⟩
  | true => exact ⟨e, fun selections => by simp only [label, hfull, hs]; rfl⟩

theorem exists_scales_of_label {selections : List (β × Curve α)} {labeled : List (Labeled β α)}
    (h : c.label selections = .ok labeled) : ∃ s, c.scales = .ok s := by
  cases hs : c.scales with
  | ok s => exact ⟨s, rfl⟩
  | error e =>
    obtain ⟨e', he'⟩ := exists_label_error (β := β) hs
    rw [he' selections] at h
    cases h

/-- Why nothing is labeled is told without the selections. -/
theorem label_error_iff (c : Calibrator α) (selections selections' : List (β × Curve α)) (e : Failure) :
    c.label selections = .error e ↔ c.label selections' = .error e := by
  cases hs : c.scales with
  | ok s => simp [label_of_scales hs]
  | error e' =>
    obtain ⟨e'', he⟩ := exists_label_error (β := β) hs
    rw [he selections, he selections']

theorem isOf_ofSelection (hs : c.scales = .ok s) (selection : β × Curve α) :
    Labeled.IsOf c selection (.ofSelection s selection) where
  label := rfl
  curveIndex := rfl
  points := map_some_of_convertAll? (convertAll?_of_scales hs _)

/-- **Conversions agree.** Whether a point is converted does not depend on the
point. Points are all converted, each as by itself, if any is, and nothing is
otherwise; it is the same for columns of coordinates, and for raw points. If
curves are labeled at all, those that have points are, in order and as often as
they are selected, under the labels they are selected by, with their points
converted, each as by itself; and if they are not, for no reason of their own. -/
theorem conversions_agree [Reading α] (c : Calibrator α) :
    (∀ (p q : Point α), c.convert? p = none ↔ c.convert? q = none) ∧
    (∀ (ps : List (Point α)) (p : Point α), c.convertAll? ps = none ↔ c.convert? p = none) ∧
    (∀ ps rows : List (Point α), c.convertAll? ps = some rows →
      rows.length = ps.length ∧ ∀ (i : Nat) (p : Point α), ps[i]? = some p → rows[i]? = c.convert? p) ∧
    (∀ (ps : List (Point α)) (s : Scales α), c.scales = .ok s →
      c.convertAll? ps = some (s.applyColumns ps)) ∧
    (∀ ps : List (Point α), c.convertRaw (.ofPoints ps) = .ok (c.convertAll? ps)) ∧
    (∀ (selections : List (β × Curve α)) (labeled : List (Labeled β α)),
      c.label selections = .ok labeled →
        List.Forall₂ (Labeled.IsOf c) (selections.filter fun q => !q.2.points.isEmpty) labeled) ∧
    (∀ (selections selections' : List (β × Curve α)) (e : Failure),
      c.label selections = .error e ↔ c.label selections' = .error e) ∧
    (∀ (selections : List (β × Curve α)) (p : Point α),
      (∃ labeled, c.label selections = .ok labeled) ↔ c.convert? p ≠ none) := by
  have hnone (p : Point α) : c.convert? p = none ↔ ¬∃ s, c.scales = .ok s := by
    rw [← Option.not_isSome_iff_eq_none, isSome_convert?]
  have hnoneAll (ps : List (Point α)) : c.convertAll? ps = none ↔ ¬∃ s, c.scales = .ok s := by
    rw [← Option.not_isSome_iff_eq_none, isSome_convertAll?]
  refine ⟨fun p q => (hnone p).trans (hnone q).symm, fun ps p => (hnoneAll ps).trans (hnone p).symm,
    fun ps rows => rows_of_convertAll?, fun ps s hs => ?_, c.convertRaw_ofPoints,
    fun selections labeled h => ?_, c.label_error_iff, fun selections p => ?_⟩
  · rw [convertAll?_of_scales hs, s.applyColumns_eq]
  · obtain ⟨s, hs⟩ := exists_scales_of_label h
    rw [label_of_scales hs] at h
    obtain rfl := Except.ok.inj h
    exact List.forall₂_map_right_iff.2 (List.forall₂_same.2 fun selection _ => isOf_ofSelection hs selection)
  · rw [Ne, hnone p, not_not]
    constructor
    · rintro ⟨labeled, h⟩
      exact exists_scales_of_label h
    · rintro ⟨s, hs⟩
      exact ⟨_, label_of_scales hs selections⟩

end Calibrator

/-! ### A curve selected twice -/

namespace Calibrator

/-- A calibration that takes `(x, y)` to `(2 * x, 3 * y + 1)`. -/
def stretched : Calibrator Float where
  x := ⟨some ⟨0, 0, 10, 0⟩, some 0, some 20⟩
  y := ⟨some ⟨0, 0, 0, 10⟩, some 1, some 31⟩

def twoPoints : Curve Float where
  points := [⟨1, 2⟩, ⟨3, 4⟩]
  index := 7

/-- A curve is selected twice under one label, and between one that has no points. -/
def selectedTwice : List (Text × Curve Float) :=
  [("a", twoPoints), ("b", { points := [] }), ("a", twoPoints)]

theorem conversions_agree_selectedTwice :
    stretched.convertAll? twoPoints.points = some [⟨2, 7⟩, ⟨6, 13⟩] ∧
    stretched.convert? ⟨3, 4⟩ = some ⟨6, 13⟩ ∧
    ∃ first second, stretched.label selectedTwice = .ok [first, second] ∧
      first.IsOf stretched (("a" : Text), twoPoints) ∧ second.IsOf stretched (("a" : Text), twoPoints) := by
  obtain ⟨-, -, hrows, -, -, hentries, -, hlabeled⟩ := conversions_agree (β := Text) stretched
  have hall : stretched.convertAll? twoPoints.points = some [⟨2, 7⟩, ⟨6, 13⟩] := by decide +kernel
  have hlast := (hrows _ _ hall).2 1 ⟨3, 4⟩ rfl
  obtain ⟨labeled, h⟩ := (hlabeled selectedTwice ⟨3, 4⟩).2 (by rw [← hlast]; exact Option.some_ne_none _)
  have hselected : selectedTwice.filter (fun q => !q.2.points.isEmpty)
      = [(("a" : Text), twoPoints), (("a" : Text), twoPoints)] := rfl
  have hall' := hentries _ _ h
  rw [hselected] at hall'
  obtain ⟨first, _, hfirst, hrest, rfl⟩ := List.forall₂_cons_left_iff.1 hall'
  obtain ⟨second, _, hsecond, hnone, rfl⟩ := List.forall₂_cons_left_iff.1 hrest
  obtain rfl := List.forall₂_nil_left_iff.1 hnone
  exact ⟨hall, hlast.symm, first, second, h, hfirst, hsecond⟩

end Calibrator
end PlotDigitizer
