/-
Where the service tells whether there are scales.

The calibrator decides. A conversion, the status and an export follow it, each
in an order of its own (`TellsScales`), whatever was set and reset before; but
a table cannot be written under a label that has a lone half (`availability`).
-/
import PlotDigitizer.Proofs.Service.Effects
import PlotDigitizer.Proofs.Service.Export

namespace PlotDigitizer.Service

/-- A status shows whether a calibration has scales: by the scales in it, and by
an empty error where both axes are calibrated. -/
def ShowsScales (status : Value Float) (available : Prop) : Prop :=
  ∃ scale calibrated error, status.field? "scale" = some scale ∧
    status.field? "calibrated" = some (.bool calibrated) ∧
    status.field? "error" = some (.text error) ∧
    (scale ≠ .null ↔ available) ∧ (calibrated = true ∧ error = "" ↔ available)

/-- What is answered with a status. -/
def Asked.ShowsStatus : Asked → Prop
  | .status | .reset | .segment _ | .value _ => True
  | .health | .extract _ | .convert _ | .export _ => False

/-- All that tells of a session whether its calibration has scales says the
same. -/
structure TellsScales (settings : Settings) (s : Session Float) (available : Bool) : Prop where
  scales : (∃ t, s.calibrator.scales = .ok t) ↔ available = true
  convert : ∀ p, (s.calibrator.convert? p).isSome = available
  answerConvert : ∀ q r, q.asked? = some (.convert r) → ∃ v,
    answer settings s q = (s, .ok v) ∧ v.field? "available" = some (.bool available)
  answerStatus : ∀ q, q.asked? = some .status → ∃ v,
    answer settings s q = (s, .ok v) ∧ ShowsScales v (available = true)
  answerExport : ∀ q r, q.asked? = some (.export r) → r.isKnown s = true →
    ((answer settings s q).2.status = 200 ↔ available = true ∧ r.isWritable = true)

/-! ## What follows the calibrator -/

section
variable {c : Calibrator Float}

theorem View.status_of_scales {t : Scales Float} (h : c.scales = .ok t) :
    (View.status c).field? "scale" =
      some (.record [("x", View.scaleValue t.x), ("y", View.scaleValue t.y)]) ∧
    (View.status c).field? "error" = some (.text "") := by
  rw [View.status, h]
  exact ⟨rfl, rfl⟩

/-- Without scales there is an error to show, or an axis is not calibrated. -/
theorem View.status_of_fault {cause : Cause} (h : c.fault? = some cause) :
    (View.status c).field? "scale" = some .null ∧
    ∃ error, (View.status c).field? "error" = some (.text error) ∧
      ¬(c.isFullyCalibrated = true ∧ error = "") := by
  have hmessage (axis : Text) : axis = "x" ∨ axis = "y" →
      Failure.message { cause := .degenerateAxis axis } ≠ "" := by
    rintro (rfl | rfl) <;> decide
  rw [View.status, Calibrator.scales_eq_error_iff.2 h]
  refine ⟨rfl, _, rfl, ?_⟩
  rintro ⟨hfull, herror⟩
  rw [Calibrator.fault?, if_pos hfull] at h
  split at h
  · cases h
    exact hmessage _ (.inl rfl) herror
  · split at h
    · cases h
      exact hmessage _ (.inr rfl) herror
    · cases h

theorem View.calibrated_status (c : Calibrator Float) :
    (View.status c).field? "calibrated" = some (.bool c.isFullyCalibrated) := by
  cases h : c.scales <;> rw [View.status, h] <;> rfl

theorem View.showsScales_status (c : Calibrator Float) :
    ShowsScales (View.status c) (∃ t, c.scales = .ok t) := by
  cases hfault : c.fault? with
  | none =>
    obtain ⟨t, ht⟩ := Calibrator.exists_scales_iff.2 hfault
    obtain ⟨hscale, herror⟩ := View.status_of_scales ht
    exact ⟨_, _, _, hscale, View.calibrated_status c, herror,
      iff_of_true (fun h => nomatch h) ⟨t, ht⟩,
      iff_of_true ⟨Calibrator.isFullyCalibrated_of_scales ht, rfl⟩ ⟨t, ht⟩⟩
  | some cause =>
    have hnone : ¬∃ t, c.scales = .ok t := by simp [Calibrator.exists_scales_iff, hfault]
    obtain ⟨hscale, error, herror, hnot⟩ := View.status_of_fault hfault
    exact ⟨_, _, error, hscale, View.calibrated_status c, herror,
      iff_of_false (fun h => h rfl) hnone, iff_of_false hnot hnone⟩

end

variable {settings : Settings} {s : Session Float}

theorem tellsScales (h : ∀ c ∈ s.curves, c.points ≠ []) :
    TellsScales settings s s.calibrator.fault?.isNone := by
  have havailable : s.calibrator.fault?.isNone = true ↔ ∃ t, s.calibrator.scales = .ok t := by
    rw [Option.isNone_iff_eq_none, Calibrator.exists_scales_iff]
  refine ⟨havailable.symm, fun p => ?_, fun q r hq => ?_, fun q hq => ?_, fun q r hq hknown => ?_⟩
  · rw [Bool.eq_iff_iff, Calibrator.isSome_convert?, havailable]
  · have hsome : (s.calibrator.convertAll? r.points).isSome = s.calibrator.fault?.isNone := by
      rw [Bool.eq_iff_iff, Calibrator.isSome_convertAll?, havailable]
    rw [answer_of_asked hq, Asked.answer, handleConvert, hsome]
    exact ⟨_, rfl, rfl⟩
  · rw [answer_of_asked hq, havailable]
    exact ⟨_, rfl, View.showsScales_status s.calibrator⟩
  · obtain ⟨hok, -⟩ := (r.status_iff s).2 hknown
    rw [answer_of_asked hq, Asked.answer, status_handleExport h, hok, havailable]

/-- A status that is answered is that of the session after the request. -/
theorem Asked.answer_of_showsStatus {a : Asked} (ha : a.ShowsStatus)
    (hok : (a.answer settings s).2.status = 200) :
    (a.answer settings s).2 = .ok (View.status (a.answer settings s).1.calibrator) := by
  cases a with
  | status | reset => rfl
  | segment r =>
    rw [Asked.answer] at hok ⊢
    rcases handleSegment_cases s r with
      ⟨segment, -, h⟩ | ⟨_, -, -, h⟩ | ⟨-, _, h⟩ | ⟨_, _, -, -, -, h⟩
    · rw [h]
      rfl
    all_goals
      rw [h] at hok
      cases hok
  | value r =>
    rw [Asked.answer] at hok ⊢
    rcases handleValue_cases s r with ⟨v, -, -, h⟩ | ⟨_, h⟩
    · rw [h]
      rfl
    · rw [h] at hok
      cases hok
  | health | extract | convert | «export» => exact ha.elim

/-- **What is told of the scales.** Whatever requests came before: the
calibrator reports the first axis if that is degenerate, then the second, and
only then that an axis is not calibrated; without a failure it has scales. A
conversion, the status and an export say the same, and so does every status
that a change is answered with. An export asks for its curves first, then
whether both axes are calibrated, and last whether one is flat; and it succeeds
where there are scales, but for labels that its format cannot write. -/
theorem availability (settings : Settings) (before : List Request) :
    let s := serve settings {} before
    let c := s.calibrator
    ((c.scales = .error { cause := .degenerateAxis "x" } ↔ c.isDegenerate .x = true) ∧
      (c.scales = .error { cause := .degenerateAxis "y" } ↔
        c.isDegenerate .x = false ∧ c.isDegenerate .y = true) ∧
      (c.scales = .error { cause := .notCalibrated } ↔
        c.isDegenerate .x = false ∧ c.isDegenerate .y = false ∧ ∃ a, c.isCalibrated a = false) ∧
      ((∃ t, c.scales = .ok t) ↔
        c.isDegenerate .x = false ∧ c.isDegenerate .y = false ∧ ∀ a, c.isCalibrated a = true)) ∧
    (∃ available, TellsScales settings s available) ∧
    (∀ q a, q.asked? = some a → a.ShowsStatus → (answer settings s q).2.status = 200 → ∃ v,
      (answer settings s q).2 = .ok v ∧
      ShowsScales v (∃ t, (answer settings s q).1.calibrator.scales = .ok t)) ∧
    ∀ q r, q.asked? = some (.export r) →
      ((answer settings s q).2.status = 404 ↔ r.isKnown s = false) ∧
      (r.isKnown s = true →
        ((answer settings s q).2.status = 409 ↔ ∃ a, c.isCalibrated a = false) ∧
        ((answer settings s q).2.status = 422 ↔
          (∀ a, c.isCalibrated a = true) ∧ ∃ a, c.isFlat a = true)) := by
  intro s c
  have hpoints := points_ne_nil_serve settings before
  refine ⟨c.scales_iff, ⟨_, tellsScales hpoints⟩, fun q a hq ha hok => ?_, fun q r hq => ?_⟩
  · rw [answer_of_asked hq] at hok ⊢
    exact ⟨_, Asked.answer_of_showsStatus ha hok, View.showsScales_status _⟩
  · rw [answer_of_asked hq, Asked.answer, status_handleExport hpoints]
    obtain ⟨hunknown, hknown⟩ := r.status_iff s
    exact ⟨hunknown, fun h => ⟨(hknown h).2.1, (hknown h).2.2.1⟩⟩

/-! ### A label with a lone half -/

/-- A request that sends a value. -/
def Request.post (path : String) (v : Value Float) : Request where
  method := "POST"
  path := path
  body := some (Json.compact v).toUTF8.toList

/-- The diagonal of the unit square as the reference of an axis, and the data
values at its ends. -/
def unitAxis (axis : String) : List Request := [
  .post "/api/calibration/segment" (.record [("axis", .text axis),
    ("points", .list [.list [.int 0, .int 0], .list [.int 1, .int 1]])]),
  .post "/api/calibration/value" (.record [
    ("axis", .text axis), ("endpoint", .text "start"), ("value", .text "0")]),
  .post "/api/calibration/value" (.record [
    ("axis", .text axis), ("endpoint", .text "end"), ("value", .text "1")])]

/-- A curve of one point is extracted, and both axes are calibrated. -/
def pointRequests : List Request :=
  .post "/api/extract" (.record [("operators", .list [
    .record [("op", .text "m"), ("args", .list [.int 1, .int 1])], .record [("op", .text "S")]])])
  :: unitAxis "x" ++ unitAxis "y"

/-- A request for a table of the curve, under a label that is half a character. -/
def halfLabelRequest : Request := .post "/api/export" (.record [("curves", .list [
  .record [("label", .text ⟨[.half ⟨0xD800, by decide⟩]⟩), ("curve_index", .int 0)]])])

theorem exists_asked_halfLabelRequest : ∃ r, halfLabelRequest.asked? = some (.export r) := by
  have hendpoint : halfLabelRequest.endpoint? = some .export := by decide +kernel
  have hchecked : (checked? ExportRequest.check halfLabelRequest.body).isSome = true := by
    decide +kernel
  obtain ⟨r, hr⟩ := Option.isSome_iff_exists.1 hchecked
  refine ⟨r, ?_⟩
  rw [Request.asked?, hendpoint]
  exact Option.map_eq_some_iff.2 ⟨r, hr, rfl⟩

theorem status_answer_halfLabelRequest :
    (answer {} (serve {} {} pointRequests) halfLabelRequest).2.status = 500 := by
  decide +kernel

/-- Scales do not make every export of known curves succeed. -/
theorem known_export_refused : ¬∀ (before : List Request) (q : Request) (r : ExportRequest),
    q.asked? = some (.export r) → r.isKnown (serve {} {} before) = true →
    (∃ t, (serve {} {} before).calibrator.scales = .ok t) →
    (answer {} (serve {} {} before) q).2.status = 200 := by
  intro h
  obtain ⟨r, hr⟩ := exists_asked_halfLabelRequest
  have hstatus := status_answer_halfLabelRequest
  have hok := h pointRequests halfLabelRequest r hr
  rw [hstatus] at hok
  rw [answer_of_asked hr, Asked.answer, status_handleExport (points_ne_nil_serve {} _)] at hstatus
  obtain ⟨hunknown, hknown⟩ := r.status_iff (serve {} {} pointRequests)
  cases hk : r.isKnown (serve {} {} pointRequests) with
  | false =>
    rw [hunknown.2 hk] at hstatus
    cases hstatus
  | true =>
    obtain ⟨-, -, -, hfails⟩ := hknown hk
    cases hok hk (hfails.1 hstatus).1

end PlotDigitizer.Service
