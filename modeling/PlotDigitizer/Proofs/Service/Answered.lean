/-
Every request that passes its checks is answered.

Three faults could stop a handler, and none can happen: all curves of a session
have points, so a segment spans them; points are pairs, so reading them leaves
no coordinate over; and only the span of an axis that is not flat is divided
by. What is left is a table under a label that has a lone half (`answered`).
-/
import PlotDigitizer.Proofs.Points
import PlotDigitizer.Proofs.Service.Availability

namespace PlotDigitizer

namespace Service

/-- An export that scales are there for, and that yet cannot be written. -/
def Asked.IsUnwritable (a : Asked) (s : Session Float) : Prop :=
  ∃ r, a = .export r ∧ r.isKnown s = true ∧ (∃ t, s.calibrator.scales = .ok t) ∧ r.isWritable = false

variable {s : Session Float}

/-! ## Status -/

theorem Asked.status_of_isUnwritable (settings : Settings) (h : ∀ c ∈ s.curves, c.points ≠ [])
    {a : Asked} (ha : a.IsUnwritable s) : (a.answer settings s).2.status = 500 := by
  obtain ⟨r, rfl, hknown, hscales, hlabels⟩ := ha
  obtain ⟨-, -, -, hfails⟩ := (r.status_iff s).2 hknown
  rw [Asked.answer, status_handleExport h, hfails]
  exact ⟨hscales, hlabels⟩

theorem ExportRequest.status_mem (r : ExportRequest) (h : ¬(Asked.export r).IsUnwritable s) :
    r.status s ∈ [200, 404, 409, 422] := by
  obtain ⟨hunknown, hknown⟩ := r.status_iff s
  have hne : r.status s ≠ 500 := by
    intro hfails
    cases hk : r.isKnown s with
    | false =>
      rw [hunknown.2 hk] at hfails
      cases hfails
    | true =>
      obtain ⟨hscales, hlabels⟩ := (hknown hk).2.2.2.1 hfails
      exact h ⟨r, rfl, hk, hscales, hlabels⟩
  revert hne
  unfold ExportRequest.status
  split_ifs <;> simp

/-- The status of an answer, where all curves have points. -/
theorem Asked.status_mem (settings : Settings) (h : ∀ c ∈ s.curves, c.points ≠ []) {a : Asked}
    (ha : ¬a.IsUnwritable s) : (a.answer settings s).2.status ∈ [200, 404, 409, 422] := by
  cases a with
  | health | status | convert | reset => exact List.mem_cons_self
  | extract r =>
    obtain ⟨⟨v, hv⟩, -⟩ := handleExtract_eq settings s r
    rw [Asked.answer, hv]
    exact List.mem_cons_self
  | segment r =>
    rw [Asked.answer]
    rcases handleSegment_cases s r with
      ⟨_, -, hs⟩ | ⟨_, -, -, hs⟩ | ⟨-, _, hs⟩ | ⟨_, curve, -, hcurve, hempty, -⟩
    · simp [hs, calibrated, Response.ok]
    · simp [hs, unknownCurve, Response.refusal]
    · simp [hs, Response.refusal]
    · exact (h curve (mem_of_curve? hcurve) hempty).elim
  | value r =>
    rw [Asked.answer]
    rcases handleValue_cases s r with ⟨_, -, -, hs⟩ | ⟨_, hs⟩
    · simp [hs, calibrated, Response.ok]
    · simp [hs, Response.refusal]
  | «export» r =>
    rw [Asked.answer, status_handleExport h]
    exact r.status_mem ha

/-- **Every request that passes its checks is answered.** In any session that
requests lead to, a segment spans the points of every curve, and they are read
as pairs; and an axis is divided by the span of its reference only where that
is not zero. What passes its checks is answered with success or with one of
three refusals, exactly if it is not an export under a label that cannot be
written. -/
theorem answered (settings : Settings) (before : List Request) :
    let s := serve settings {} before
    (∀ c ∈ s.curves, c.points ≠ [] ∧ (∃ segment, Segment.spanning c.points = .ok segment) ∧
      (Value.ofPoints c.points).points = .ok c.points) ∧
    (∀ a t, s.calibrator.axisScale? a = .ok (some t) → ∃ segment start stop,
      s.calibrator.slots a = ⟨some segment, some start, some stop⟩ ∧ segment.isFlat a = false ∧
      t = .between (segment.extent a).1 (segment.extent a).2 start stop) ∧
    ∀ q a, q.asked? = some a →
      ((answer settings s q).2.status ∈ [200, 404, 409, 422] ↔ ¬a.IsUnwritable s) ∧
      (a.IsUnwritable s → (answer settings s q).2.status = 500) := by
  intro s
  have hpoints : ∀ c ∈ s.curves, c.points ≠ [] := points_ne_nil_serve settings before
  refine ⟨fun c hc => ⟨hpoints c hc, ?_, Value.points_ofPoints c.points⟩,
    fun a t ht => Calibrator.axisScale?_eq_some.1 ht, fun q a ha => ?_⟩
  · obtain ⟨p, rest, hp⟩ := List.exists_cons_of_ne_nil (hpoints c hc)
    rw [hp]
    exact ⟨_, rfl⟩
  · have hfails : a.IsUnwritable s → (a.answer settings s).2.status = 500 :=
      Asked.status_of_isUnwritable settings hpoints
    rw [answer_of_asked ha]
    refine ⟨⟨fun hstatus hunwritable => ?_, Asked.status_mem settings hpoints⟩, hfails⟩
    rw [hfails hunwritable] at hstatus
    simp at hstatus

/-- A request that passes its checks can fail. -/
theorem halfLabelRequest_fails : ¬∀ (before : List Request) (q : Request) (a : Asked),
    q.asked? = some a →
    (answer {} (serve {} {} before) q).2.status ∈ [200, 404, 409, 422] := by
  intro h
  obtain ⟨r, hr⟩ := exists_asked_halfLabelRequest
  have hstatus := h pointRequests halfLabelRequest _ hr
  rw [status_answer_halfLabelRequest] at hstatus
  simp at hstatus

end Service
end PlotDigitizer
