/-
How an export is answered.

An export asks for its curves first, then for the calibration, and writes its
file last. A table cannot be written if one of its labels has a lone half, since
a table is sent as it is; the other format spells such a half
(`status_handleExport`).
-/
import PlotDigitizer.Proofs.Export.Conversion
import PlotDigitizer.Service.Handler

namespace PlotDigitizer

/-! ## Texts of characters -/

namespace Text

theorem isSome_chars?_iff {t : Text} : t.chars?.isSome = true ↔ ∀ l ∈ t.letters, l.char?.isSome = true := by
  obtain ⟨ls⟩ := t
  rw [chars?]
  induction ls with
  | nil => simp
  | cons l ls ih =>
    rw [List.mapM_cons, List.forall_mem_cons, ← ih]
    cases l.char? <;> cases ls.mapM Letter.char? <;> simp

theorem isSome_chars?_append {t u : Text} :
    (t ++ u).chars?.isSome = true ↔ t.chars?.isSome = true ∧ u.chars?.isSome = true := by
  simp only [isSome_chars?_iff, letters_append, List.forall_mem_append]

theorem isSome_chars?_ofString (s : String) : (ofString s).chars?.isSome = true := by
  rw [ofString, chars?_ofChars]
  rfl

theorem isSome_chars?_unlines {lines : List Text} :
    (unlines lines).chars?.isSome = true ↔ ∀ t ∈ lines, t.chars?.isSome = true := by
  have hend : (Letter.char '\n').char?.isSome = true := rfl
  simp only [isSome_chars?_iff, unlines, List.forall_mem_flatMap, List.forall_mem_append,
    List.forall_mem_singleton, hend, and_true]

end Text

/-! ## Labeled curves -/

namespace Labeled

/-- The lines of a curve consist of characters if its label does, or if it has
no points to stand under it. -/
theorem isSome_lines_iff {c : Labeled Text Float} :
    (∀ t ∈ c.lines, t.chars?.isSome = true) ↔ (c.points ≠ [] → c.label.chars?.isSome = true) := by
  have hline (p : Point Float) :
      (c.label ++ ", " ++ cell p.x ++ ", " ++ cell p.y : Text).chars?.isSome = true ↔
        c.label.chars?.isSome = true := by
    simp only [Text.isSome_chars?_append, Text.isSome_chars?_ofString, and_true]
  simp only [lines, List.forall_mem_append, List.forall_mem_map, List.forall_mem_singleton,
    Text.isSome_chars?_ofString, and_true, hline]
  constructor
  · intro h hne
    obtain ⟨p, rest, hpoints⟩ := List.exists_cons_of_ne_nil hne
    exact h p (by rw [hpoints]; exact List.mem_cons_self)
  · exact fun h p hp => h (List.ne_nil_of_mem hp)

/-- A table can be written if the labels that stand in it consist of
characters. -/
theorem isSome_csv_iff {curves : List (Labeled Text Float)} : (csv curves).toString?.isSome = true ↔
    ∀ c ∈ curves, c.points ≠ [] → c.label.chars?.isSome = true := by
  simp only [Text.toString?, Option.isSome_map, csv, Text.isSome_chars?_unlines, List.forall_mem_cons,
    List.forall_mem_flatMap, Text.isSome_chars?_ofString, true_and, isSome_lines_iff]

end Labeled

namespace Service

variable {s : Session Float}

/-- All curves of an export are there. -/
def ExportRequest.isKnown (r : ExportRequest) (s : Session Float) : Bool :=
  r.curves.all fun p => (s.curve? p.2).isSome

/-- The labels of an export can be written in its format. -/
def ExportRequest.isWritable (r : ExportRequest) : Bool :=
  r.format == .json || r.curves.all fun p => p.1.chars?.isSome

/-- The status that an export is answered with. -/
def ExportRequest.status (r : ExportRequest) (s : Session Float) : Nat :=
  if !r.isKnown s then 404
  else if !s.calibrator.isFullyCalibrated then 409
  else if s.calibrator.isFlat .x || s.calibrator.isFlat .y then 422
  else if !r.isWritable then 500
  else 200

theorem ExportRequest.status_iff (r : ExportRequest) (s : Session Float) :
    (r.status s = 404 ↔ r.isKnown s = false) ∧
    (r.isKnown s = true →
      (r.status s = 200 ↔ (∃ t, s.calibrator.scales = .ok t) ∧ r.isWritable = true) ∧
      (r.status s = 409 ↔ ∃ a, s.calibrator.isCalibrated a = false) ∧
      (r.status s = 422 ↔
        (∀ a, s.calibrator.isCalibrated a = true) ∧ ∃ a, s.calibrator.isFlat a = true) ∧
      (r.status s = 500 ↔ (∃ t, s.calibrator.scales = .ok t) ∧ r.isWritable = false)) := by
  rw [Calibrator.exists_scales_iff_full, Calibrator.exists_not_isCalibrated,
    Calibrator.forall_isCalibrated, Axis.exists, ← Bool.or_eq_true, ExportRequest.status]
  cases r.isKnown s with
  | false => simp
  | true =>
    cases s.calibrator.isFullyCalibrated with
    | false => simp
    | true =>
      cases s.calibrator.isFlat .x || s.calibrator.isFlat .y with
      | true => simp
      | false => cases r.isWritable <;> simp

/-! ## Selections -/

theorem mem_of_curve? {index : Int} {c : Curve Float} (h : s.curve? index = some c) : c ∈ s.curves :=
  List.mem_of_find?_eq_some h

/-- Curves that are all there are selected under their labels. -/
theorem select_of_known {l : List (Text × Int)} (h : ∀ p ∈ l, (s.curve? p.2).isSome = true) :
    ∃ selections, s.select l = .ok selections ∧ selections.map (·.1) = l.map (·.1) ∧
      ∀ p ∈ selections, p.2 ∈ s.curves := by
  induction l with
  | nil => exact ⟨[], rfl, rfl, fun p hp => (List.not_mem_nil hp).elim⟩
  | cons p l ih =>
    rw [List.forall_mem_cons] at h
    obtain ⟨curve, hcurve⟩ := Option.isSome_iff_exists.1 h.1
    obtain ⟨selections, hselect, hlabels, hmem⟩ := ih h.2
    refine ⟨(p.1, curve) :: selections, ?_, by simp [hlabels], ?_⟩
    · simp [Session.select, hcurve, hselect]
    · exact List.forall_mem_cons.2 ⟨mem_of_curve? hcurve, hmem⟩

theorem select_of_unknown {l : List (Text × Int)} (h : ∃ p ∈ l, s.curve? p.2 = none) :
    ∃ index, s.select l = .error index := by
  induction l with
  | nil =>
    obtain ⟨p, hp, -⟩ := h
    cases hp
  | cons p l ih =>
    cases hcurve : s.curve? p.2 with
    | none => exact ⟨p.2, by simp [Session.select, hcurve, error_bind]⟩
    | some curve =>
      obtain ⟨q, hq, hnone⟩ := h
      have hne : q ≠ p := by
        rintro rfl
        rw [hcurve] at hnone
        cases hnone
      obtain ⟨index, hselect⟩ := ih ⟨q, List.mem_of_ne_of_mem hne hq, hnone⟩
      exact ⟨index, by simp [Session.select, hcurve, hselect]⟩

/-! ## Answers -/

/-- Whether there is a file for selected curves that have points. -/
theorem isSome_exportFile? (format : Format) (t : Scales Float) {selections : List (Text × Curve Float)}
    (h : ∀ p ∈ selections, p.2.points ≠ []) :
    (exportFile? format (selections.map (.ofSelection t))).isSome =
      (format == .json || selections.all fun p => p.1.chars?.isSome) := by
  cases format with
  | json => rfl
  | csv =>
    have hpoints : ∀ p ∈ selections, (Labeled.ofSelection t p).points ≠ [] := fun p hp => by
      simpa [Labeled.ofSelection] using h p hp
    have hcsv : (Format.csv == Format.json) = false := rfl
    rw [exportFile?, Option.isSome_map, Bool.eq_iff_iff, Labeled.isSome_csv_iff, hcsv, Bool.false_or,
      List.all_eq_true, List.forall_mem_map]
    exact ⟨fun hc p hp => hc p hp (hpoints p hp), fun hc p hp _ => hc p hp⟩

/-- **How an export is answered.** -/
theorem status_handleExport (h : ∀ c ∈ s.curves, c.points ≠ []) (r : ExportRequest) :
    (handleExport s r).2.status = r.status s := by
  unfold ExportRequest.status
  cases hknown : r.isKnown s with
  | false =>
    obtain ⟨index, hselect⟩ := select_of_unknown (by simpa [ExportRequest.isKnown] using hknown)
    simp only [handleExport, hselect]
    rfl
  | true =>
    obtain ⟨selections, hselect, hlabels, hmem⟩ := select_of_known (List.all_eq_true.1 hknown)
    have hpoints : ∀ p ∈ selections, p.2.points ≠ [] := fun p hp => h p.2 (hmem p hp)
    cases hfull : s.calibrator.isFullyCalibrated with
    | false =>
      simp only [handleExport, hselect, Calibrator.label, hfull]
      rfl
    | true =>
      have hscales := s.calibrator.scales_of_full hfull
      cases hflat : s.calibrator.isFlat .x || s.calibrator.isFlat .y with
      | true =>
        rw [if_pos hflat] at hscales
        obtain ⟨axis, hscales⟩ := hscales
        simp only [handleExport, hselect, Calibrator.label, hfull, hscales]
        rfl
      | false =>
        rw [hflat] at hscales
        obtain ⟨t, hscales⟩ := hscales
        have hfile := isSome_exportFile? r.format t hpoints
        have hall := congrArg (List.all · fun label => label.chars?.isSome) hlabels
        simp only [List.all_map, Function.comp_def] at hall
        rw [hall, ← ExportRequest.isWritable] at hfile
        simp only [handleExport, hselect, s.calibrator.label_eq hscales hpoints]
        cases hexport : exportFile? r.format (selections.map (.ofSelection t)) with
        | some file =>
          rw [hexport] at hfile
          rw [← hfile]
          rfl
        | none =>
          rw [hexport] at hfile
          rw [← hfile]
          rfl

end Service
end PlotDigitizer
