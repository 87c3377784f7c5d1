/-
What an answer does to the session.

A request that is not answered with success leaves the session as it was, and
one that is changes its own part of it only (`Effect`). So after any run the
page and the curves are those of the last extraction, and the segment of an
axis is the one that was picked last, with the extent that its curve had then
(`session_frame`).
-/
import PlotDigitizer.Proofs.Calibration.Changes
import PlotDigitizer.Proofs.Service.Requests

namespace PlotDigitizer.Service

/-- A request for a segment picks this one: it spans a curve of the session, or
the points that are given. -/
def SegmentRequest.Picks (r : SegmentRequest) (s : Session Float) (segment : Segment Float) : Prop :=
  match r.curveIndex with
  | some index => ∃ curve, s.curve? index = some curve ∧ Segment.spanning curve.points = .ok segment
  | none => ∃ points, r.points = some points ∧ Segment.spanning points = .ok segment

/-- What an answer does to a session that was asked for something. -/
def Effect (settings : Settings) (before after : Session Float) : Asked → Prop
  | .health | .status | .convert _ | .export _ => after = before
  | .extract r =>
    after = { before with
      page := some r.page, curves := (extractPage (r.toPage settings)).output.curves }
  | .segment r => ∃ segment c, r.Picks before segment ∧ after = { before with calibrator := c } ∧
    ∀ a, c.slots a =
      if a = r.axis then { before.calibrator.slots a with segment := some segment }
      else before.calibrator.slots a
  | .value r => ∃ v c, r.value.toString?.bind Numeral.double? = some v ∧
    after = { before with calibrator := c } ∧
    ∀ a, c.slots a =
      if a = r.axis then
        match r.endpoint with
        | .start => { before.calibrator.slots a with start := some v }
        | .stop => { before.calibrator.slots a with stop := some v }
      else before.calibrator.slots a
  | .reset => after = { before with calibrator := {} }

variable {settings : Settings} {s : Session Float}

/-! ## Handlers -/

/-- An extraction is always answered, with curves that have points. -/
theorem handleExtract_eq (settings : Settings) (s : Session Float) (r : ExtractRequest) :
    (∃ v, handleExtract s settings r =
      (s.extracted r.page (extractPage (r.toPage settings)), .ok v)) ∧
    ∀ c ∈ (extractPage (r.toPage settings)).output.curves, c.points ≠ [] := by
  have hcurves : ∀ c ∈ (extractPage (r.toPage settings)).output.curves, c.points ≠ [] ∧ Described c := by
    cases hpaths : extractPaths (r.toPage settings).operators with
    | error e =>
      rw [extractPage_of_error hpaths]
      exact fun c hc => (List.not_mem_nil hc).elim
    | ok paths =>
      obtain ⟨curves, hassemble, hpoints⟩ := exists_assemble (isSound_flattening settings r) paths
      rw [extractPage_of_ok hpaths hassemble]
      intro c hc
      obtain ⟨d, hd, rfl⟩ := List.mem_map.1 hc
      exact ⟨hpoints d hd, rfl⟩
  exact ⟨⟨_, handleExtract_of_described rfl fun c hc => (hcurves c hc).2⟩, fun c hc => (hcurves c hc).1⟩

/-- Points are spanned, if there are any. -/
theorem handleSpan_cases (s : Session Float) (a : Axis) (points : List (Point Float)) :
    (∃ segment, Segment.spanning points = .ok segment ∧
      handleSpan s a points = calibrated s (s.calibrator.setSegment a segment)) ∨
    (points = [] ∧ handleSpan s a points = (s, .serverError)) := by
  cases points with
  | nil => exact .inr ⟨rfl, rfl⟩
  | cons p rest => exact .inl ⟨_, rfl, rfl⟩

/-- A segment is picked, or there is no such curve, or nothing to pick; and a
curve without points fails. -/
theorem handleSegment_cases (s : Session Float) (r : SegmentRequest) :
    (∃ segment, r.Picks s segment ∧
      handleSegment s r = calibrated s (s.calibrator.setSegment r.axis segment)) ∨
    (∃ index, r.curveIndex = some index ∧ s.curve? index = none ∧
      handleSegment s r = unknownCurve s index) ∨
    (r.curveIndex = none ∧ ∃ reason, handleSegment s r = (s, .refusal 422 reason)) ∨
    (∃ index curve, r.curveIndex = some index ∧ s.curve? index = some curve ∧ curve.points = [] ∧
      handleSegment s r = (s, .serverError)) := by
  cases hindex : r.curveIndex with
  | some index =>
    cases hcurve : s.curve? index with
    | none => exact .inr (.inl ⟨index, rfl, hcurve, by simp only [handleSegment, hindex, hcurve]⟩)
    | some curve =>
      have hspan : handleSegment s r = handleSpan s r.axis curve.points := by
        simp only [handleSegment, hindex, hcurve]
      rw [hspan]
      rcases handleSpan_cases s r.axis curve.points with ⟨segment, hsegment, h⟩ | ⟨hpoints, h⟩
      · refine .inl ⟨segment, ?_, h⟩
        simp only [SegmentRequest.Picks, hindex]
        exact ⟨curve, hcurve, hsegment⟩
      · exact .inr (.inr (.inr ⟨index, curve, rfl, hcurve, hpoints, h⟩))
  | none =>
    cases hpoints : r.points with
    | none => exact .inr (.inr (.inl ⟨rfl, _, by simp only [handleSegment, hindex, hpoints]; rfl⟩))
    | some points =>
      cases points with
      | nil => exact .inr (.inr (.inl ⟨rfl, _, by simp only [handleSegment, hindex, hpoints]; rfl⟩))
      | cons p rest =>
        refine .inl ⟨_, ?_, by simp only [handleSegment, hindex, hpoints]; rfl⟩
        simp only [SegmentRequest.Picks, hindex]
        exact ⟨_, hpoints, rfl⟩

theorem handleValue_cases (s : Session Float) (r : ValueRequest) :
    (∃ v, r.value.toString?.bind Numeral.double? = some v ∧ Binary64.isFinite v = true ∧
      handleValue s r = calibrated s (s.calibrator.setNumber r.axis r.endpoint v)) ∨
    ∃ reason, handleValue s r = (s, .refusal 422 reason) := by
  unfold handleValue
  split
  · rename_i v hv
    cases hfinite : Binary64.isFinite v with
    | true => exact .inl ⟨v, hv, hfinite, by rw [if_pos rfl]⟩
    | false => exact .inr ⟨_, rfl⟩
  · exact .inr ⟨_, rfl⟩

theorem handleExport_fst (s : Session Float) (r : ExportRequest) : (handleExport s r).1 = s := by
  unfold handleExport
  split
  · rfl
  · split
    · split <;> rfl
    · split <;> rfl

/-! ## One answer -/

theorem Asked.answer_frame (settings : Settings) (s : Session Float) (a : Asked) :
    ((a.answer settings s).2.status ≠ 200 → (a.answer settings s).1 = s) ∧
    ((a.answer settings s).2.status = 200 → Effect settings s (a.answer settings s).1 a) := by
  have same {reply : Reply} (h : reply.1 = s) :
      (reply.2.status ≠ 200 → reply.1 = s) ∧ (reply.2.status = 200 → reply.1 = s) :=
    ⟨fun _ => h, fun _ => h⟩
  have failed {r : Asked} {response : Response} (h : response.status ≠ 200) :
      (response.status ≠ 200 → s = s) ∧ (response.status = 200 → Effect settings s s r) :=
    ⟨fun _ => rfl, fun hok => (h hok).elim⟩
  cases a with
  | health | status | convert => exact same rfl
  | «export» r => exact same (handleExport_fst s r)
  | extract r =>
    obtain ⟨⟨v, h⟩, -⟩ := handleExtract_eq settings s r
    rw [Asked.answer, h]
    exact ⟨fun hne => (hne rfl).elim, fun _ => rfl⟩
  | segment r =>
    rw [Asked.answer]
    rcases handleSegment_cases s r with
      ⟨segment, hpick, h⟩ | ⟨_, -, -, h⟩ | ⟨-, _, h⟩ | ⟨_, _, -, -, -, h⟩
    · rw [h]
      exact ⟨fun hne => (hne rfl).elim, fun _ =>
        ⟨segment, _, hpick, rfl, fun a => s.calibrator.slots_setSegment r.axis a segment⟩⟩
    all_goals
      rw [h]
      exact failed fun h => nomatch h
  | value r =>
    rw [Asked.answer]
    rcases handleValue_cases s r with ⟨v, hv, -, h⟩ | ⟨_, h⟩
    · rw [h]
      exact ⟨fun hne => (hne rfl).elim, fun _ =>
        ⟨v, _, hv, rfl, fun a => s.calibrator.slots_setNumber r.axis a r.endpoint v⟩⟩
    · rw [h]
      exact failed fun h => nomatch h
  | reset => exact ⟨fun hne => (hne rfl).elim, fun _ => rfl⟩

/-- A failed request leaves the session as it was, and an answered one has its
effect. -/
theorem answer_frame (settings : Settings) (s : Session Float) (q : Request) :
    ((answer settings s q).2.status ≠ 200 → (answer settings s q).1 = s) ∧
    ((answer settings s q).2.status = 200 →
      ∃ a, q.asked? = some a ∧ Effect settings s (answer settings s q).1 a) := by
  cases ha : q.asked? with
  | none =>
    have hrefused : Reply.Refuses (answer settings s q) s := answer_of_refused ha
    exact ⟨fun _ => hrefused.1, fun hok => (hrefused.2 hok).elim⟩
  | some a =>
    obtain ⟨hfailed, hanswered⟩ := a.answer_frame settings s
    rw [answer_of_asked ha]
    exact ⟨hfailed, fun hok => ⟨a, rfl, hanswered hok⟩⟩

/-! ## Runs -/

/-- The session after some requests. -/
def serve (settings : Settings) (s : Session Float) (qs : List Request) : Session Float :=
  qs.foldl (fun s q => (answer settings s q).1) s

/-- The extraction that a request asks for. -/
def Request.extraction? (q : Request) : Option ExtractRequest :=
  match q.asked? with
  | some (.extract r) => some r
  | _ => none

/-- A request sets the segment of an axis: it is answered, and picks one or
resets the calibration. -/
def Request.SetsSegment (settings : Settings) (s : Session Float) (q : Request) (a : Axis) : Prop :=
  (answer settings s q).2.status = 200 ∧
    (q.asked? = some .reset ∨ ∃ r, q.asked? = some (.segment r) ∧ r.axis = a)

/-- No request of a run sets the segment of an axis. -/
def KeepsSegment (settings : Settings) (a : Axis) : Session Float → List Request → Prop
  | _, [] => True
  | s, q :: qs => ¬q.SetsSegment settings s a ∧ KeepsSegment settings a (answer settings s q).1 qs

/-- Only extractions replace the page and the curves. -/
theorem page_curves_answer (settings : Settings) (s : Session Float) (q : Request) :
    ((answer settings s q).1.page, (answer settings s q).1.curves) =
      match q.extraction? with
      | some r => (some r.page, (extractPage (r.toPage settings)).output.curves)
      | none => (s.page, s.curves) := by
  obtain ⟨hfailed, hanswered⟩ := answer_frame settings s q
  unfold Request.extraction?
  cases ha : q.asked? with
  | none => rw [(answer_of_refused ha).1]
  | some a =>
    by_cases hok : (answer settings s q).2.status = 200
    · obtain ⟨b, hb, heffect⟩ := hanswered hok
      obtain rfl : a = b := Option.some.inj (ha.symm.trans hb)
      cases a with
      | health | status | convert | «export» | extract | reset => rw [heffect]
      | segment r =>
        obtain ⟨segment, c, -, h, -⟩ := heffect
        rw [h]
      | value r =>
        obtain ⟨v, c, -, h, -⟩ := heffect
        rw [h]
    · cases a with
      | extract r =>
        obtain ⟨⟨v, h⟩, -⟩ := handleExtract_eq settings s r
        rw [answer_of_asked ha, Asked.answer, h] at hok
        exact (hok rfl).elim
      | health | status | convert | «export» | segment | value | reset => rw [hfailed hok]

/-- The page and the curves are those of the last extraction. -/
theorem page_curves_serve (settings : Settings) (s : Session Float) (qs : List Request) :
    ((serve settings s qs).page, (serve settings s qs).curves) =
      match (qs.filterMap Request.extraction?).getLast? with
      | some r => (some r.page, (extractPage (r.toPage settings)).output.curves)
      | none => (s.page, s.curves) := by
  induction qs generalizing s with
  | nil => rfl
  | cons q qs ih =>
    have hstep := page_curves_answer settings s q
    have hrest := ih (answer settings s q).1
    show ((serve settings (answer settings s q).1 qs).page, _) = _
    rw [List.filterMap_cons]
    cases hq : q.extraction? with
    | none =>
      rw [hq] at hstep
      rw [hstep] at hrest
      exact hrest
    | some r =>
      rw [hq] at hstep
      rw [hstep] at hrest
      rw [List.getLast?_cons]
      cases hlast : (qs.filterMap Request.extraction?).getLast? <;> rw [hlast] at hrest <;> exact hrest

theorem segment_answer {q : Request} {a : Axis} (h : ¬q.SetsSegment settings s a) :
    ((answer settings s q).1.calibrator.slots a).segment = (s.calibrator.slots a).segment := by
  obtain ⟨hfailed, hanswered⟩ := answer_frame settings s q
  by_cases hok : (answer settings s q).2.status = 200
  · obtain ⟨b, hb, heffect⟩ := hanswered hok
    cases b with
    | health | status | convert | «export» | extract => rw [heffect]
    | segment r =>
      obtain ⟨segment, c, -, hafter, hslots⟩ := heffect
      have hne : a ≠ r.axis := fun ha => h ⟨hok, .inr ⟨r, hb, ha.symm⟩⟩
      rw [hafter]
      show (c.slots a).segment = _
      rw [hslots, if_neg hne]
    | value r =>
      obtain ⟨v, c, -, hafter, hslots⟩ := heffect
      rw [hafter]
      show (c.slots a).segment = _
      rw [hslots]
      split
      · split <;> rfl
      · rfl
    | reset => exact (h ⟨hok, .inl hb⟩).elim
  · rw [hfailed hok]

theorem segment_serve {qs : List Request} {a : Axis} (h : KeepsSegment settings a s qs) :
    ((serve settings s qs).calibrator.slots a).segment = (s.calibrator.slots a).segment := by
  induction qs generalizing s with
  | nil => rfl
  | cons q qs ih => exact (ih h.2).trans (segment_answer h.1)

/-- All curves of a session have points, whatever was asked for. -/
theorem points_ne_nil_serve (settings : Settings) (qs : List Request) :
    ∀ c ∈ (serve settings {} qs).curves, c.points ≠ [] := by
  have h := congrArg Prod.snd (page_curves_serve settings {} qs)
  simp only at h
  rw [h]
  cases (qs.filterMap Request.extraction?).getLast? with
  | none => exact fun c hc => (List.not_mem_nil hc).elim
  | some r => exact (handleExtract_eq settings {} r).2

/-- **Every request minds its own part of the session.** In any session that
requests lead to, a request that is not answered with success changes nothing,
and one that is has its effect and no other. The page and the curves of the
session are those of the last extraction alone. A segment that is picked from a
curve keeps the extent that the curve had, until one is picked for that axis
anew or the calibration is reset. -/
theorem session_frame (settings : Settings) (before : List Request) (q : Request) :
    let s := serve settings {} before
    let reply := answer settings s q
    (reply.2.status ≠ 200 → reply.1 = s) ∧
    (reply.2.status = 200 → ∃ a, q.asked? = some a ∧ Effect settings s reply.1 a) ∧
    ((s.page, s.curves) = match (before.filterMap Request.extraction?).getLast? with
      | some r => (some r.page, (extractPage (r.toPage settings)).output.curves)
      | none => (none, [])) ∧
    ∀ r index, q.asked? = some (.segment r) → r.curveIndex = some index → reply.2.status = 200 →
      ∃ curve segment, s.curve? index = some curve ∧ Segment.spanning curve.points = .ok segment ∧
        ∀ later, KeepsSegment settings r.axis reply.1 later →
          ((serve settings reply.1 later).calibrator.slots r.axis).segment = some segment := by
  intro s reply
  obtain ⟨hfailed, hanswered⟩ := answer_frame settings s q
  refine ⟨hfailed, hanswered, page_curves_serve settings {} before, fun r index hr hindex hok => ?_⟩
  obtain ⟨a, ha, heffect⟩ := hanswered hok
  obtain rfl : Asked.segment r = a := Option.some.inj (hr.symm.trans ha)
  obtain ⟨segment, c, hpick, hafter, hslots⟩ := heffect
  simp only [SegmentRequest.Picks, hindex] at hpick
  obtain ⟨curve, hcurve, hspan⟩ := hpick
  refine ⟨curve, segment, hcurve, hspan, fun later hlater => ?_⟩
  have hset : (reply.1.calibrator.slots r.axis).segment = some segment := by
    rw [hafter]
    show (c.slots r.axis).segment = some segment
    rw [hslots, if_pos rfl]
  rw [segment_serve hlater, hset]

end PlotDigitizer.Service
