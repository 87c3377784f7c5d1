/-
Requests by what they ask for.

A request that has an endpoint and passes the checks there asks for something,
and is answered by that alone (`answer_of_asked`). Every other request is
refused, and leaves the session as it is (`answer_of_refused`). So whatever is
shown of an answer needs one case for each thing to ask for, and one for all
refusals.
-/
import Mathlib.Data.List.Basic
import PlotDigitizer.Proofs.Service.Extract

namespace PlotDigitizer.Service

/-- What can be asked for, checked. -/
inductive Asked where
  | health
  | extract (r : ExtractRequest)
  | status
  | reset
  | segment (r : SegmentRequest)
  | value (r : ValueRequest)
  | convert (r : ConvertRequest)
  | export (r : ExportRequest)

/-- What a body asks for at an endpoint, if it passes. -/
def Endpoint.asked? (body : Option (List UInt8)) : Endpoint → Option Asked
  | .health => some .health
  | .extract => (checked? ExtractRequest.check body).map .extract
  | .status => some .status
  | .reset => some .reset
  | .segment => (checked? SegmentRequest.check body).map .segment
  | .value => (checked? ValueRequest.check body).map .value
  | .convert => (checked? ConvertRequest.check body).map .convert
  | .export => (checked? ExportRequest.check body).map .export

/-- The endpoint of a request, if it has one. -/
def Request.endpoint? (q : Request) : Option Endpoint := do
  (← methodsAt? q.path).lookup q.method.upper

/-- What a request asks for, if it has an endpoint and passes. -/
def Request.asked? (q : Request) : Option Asked := do (← q.endpoint?).asked? q.body

/-- The answer to what is asked for. -/
def Asked.answer (settings : Settings) (s : Session Float) : Asked → Reply
  | .health => handleHealth s
  | .extract r => handleExtract s settings r
  | .status => handleStatus s
  | .reset => handleReset s
  | .segment r => handleSegment s r
  | .value r => handleValue s r
  | .convert r => handleConvert s r
  | .export r => handleExport s r

/-- A reply that refuses a request. -/
def Reply.Refuses (reply : Reply) (s : Session Float) : Prop := reply.1 = s ∧ reply.2.status ≠ 200

/-! ## Bodies -/

theorem refuses_refusal (s : Session Float) (reason : Value Float) {status : Nat} (h : status ≠ 200) :
    Reply.Refuses (s, .refusal status reason) s := ⟨rfl, h⟩

theorem refuses_invalid (s : Session Float) (problems : List Problem) :
    Reply.Refuses (s, .invalid problems) s := by
  refine ⟨rfl, ?_⟩
  show (Response.invalid problems).status ≠ 200
  unfold Response.invalid
  split
  · exact fun h => nomatch h
  · exact fun h => nomatch h

theorem withBody_of_not_checked {β : Type} {s : Session Float} {body : Option (List UInt8)}
    {check : Value Float → Check β} (h : checked? check body = none) (handle : β → Reply) :
    Reply.Refuses (withBody s body check handle) s := by
  cases body with
  | none => exact refuses_refusal s _ (by decide)
  | some bytes =>
    simp only [withBody, Option.getD_some]
    split
    · exact refuses_refusal s _ (by decide)
    · split
      · exact refuses_refusal s _ (by decide)
      · rename_i ls hdecode
        split
        · exact refuses_refusal s _ (by decide)
        · exact refuses_refusal s _ (by decide)
        · exact refuses_refusal s _ (by decide)
        · rename_i v hread
          split
          · rename_i b hcheck
            -- A body that passes is not refused.
            simp [checked?, hdecode, hread, hcheck, Except.toOption] at h
          · exact refuses_invalid s _

/-! ## Answers -/

variable {settings : Settings} {s : Session Float} {q : Request}

theorem handle_of_asked {e : Endpoint} {body : Option (List UInt8)} {a : Asked}
    (h : e.asked? body = some a) : e.handle settings s body = a.answer settings s := by
  cases e with
  | health | status | reset =>
    cases h
    rfl
  | extract | segment | value | convert | «export» =>
    obtain ⟨r, hr, rfl⟩ := Option.map_eq_some_iff.1 h
    exact withBody_of_checked hr _

theorem handle_of_not_asked {e : Endpoint} {body : Option (List UInt8)} (h : e.asked? body = none) :
    Reply.Refuses (e.handle settings s body) s := by
  cases e with
  | health | status | reset => cases h
  | extract | segment | value | convert | «export» =>
    exact withBody_of_not_checked (Option.map_eq_none_iff.1 h) _

/-- No path is there for the headers alone. -/
theorem lookup_head {path : String} {methods : List (Text × Endpoint)}
    (h : methodsAt? path = some methods) : methods.lookup (Text.ofString "HEAD") = none := by
  have hall : ∀ route ∈ routes, route.2.lookup (Text.ofString "HEAD") = none := by decide
  rw [methodsAt?, List.lookup_eq_some_iff] at h
  obtain ⟨before, after, hroutes, -⟩ := h
  exact hall (dropLineEnd path, methods) (by rw [hroutes]; simp)

theorem answer_of_endpoint {e : Endpoint} (h : q.endpoint? = some e) :
    answer settings s q = e.handle settings s q.body := by
  simp only [Request.endpoint?, Option.bind_eq_bind, Option.bind_eq_some_iff] at h
  obtain ⟨methods, hmethods, he⟩ := h
  have hhead : q.method.upper ≠ Text.ofString "HEAD" := by
    intro hmethod
    rw [hmethod, lookup_head hmethods] at he
    cases he
  simp only [answer, route, hmethods, he, if_neg hhead]

theorem answer_of_no_endpoint (h : q.endpoint? = none) : Reply.Refuses (answer settings s q) s := by
  have hroute : Reply.Refuses (route settings s q) s := by
    unfold route
    cases hmethods : methodsAt? q.path with
    | none =>
      refine ⟨rfl, ?_⟩
      show (if _ then Response.redirect else Response.notFound).status ≠ 200
      split
      · exact fun h => nomatch h
      · exact fun h => nomatch h
    | some methods =>
      have hlookup : methods.lookup q.method.upper = none := by
        simpa [Request.endpoint?, hmethods] using h
      simp only [hlookup]
      exact ⟨rfl, fun h => nomatch h⟩
  refine ⟨hroute.1, ?_⟩
  simp only [answer]
  split
  · exact hroute.2
  · exact hroute.2

/-- What a request asks for is answered. -/
theorem answer_of_asked {a : Asked} (h : q.asked? = some a) :
    answer settings s q = a.answer settings s := by
  obtain ⟨e, he, ha⟩ := Option.bind_eq_some_iff.1 h
  rw [answer_of_endpoint he, handle_of_asked ha]

/-- A request that asks for nothing is refused. -/
theorem answer_of_refused (h : q.asked? = none) : Reply.Refuses (answer settings s q) s := by
  cases he : q.endpoint? with
  | none => exact answer_of_no_endpoint he
  | some e =>
    have ha : e.asked? q.body = none := by simpa [Request.asked?, he] using h
    rw [answer_of_endpoint he]
    exact handle_of_not_asked ha

end PlotDigitizer.Service
