/-
Requests to extract.

A request that passes its checks is answered, and the session takes over what
the pass leaves: all curves of the drawing, each with points and features, or
none and the report of the first stage (`answer_extracts`). The stages after
the first cannot fail: the settings of a request are sound.
-/
import PlotDigitizer.Proofs.Curve.Assembled
import PlotDigitizer.Proofs.Extraction
import PlotDigitizer.Service.Handler

namespace PlotDigitizer.Service

/-! ## Requests that pass -/

/-- What a body is checked to be, if it can be read and passes. -/
def checked? {β : Type} (check : Value Float → Check β) (body : Option (List UInt8)) : Option β := do
  let bytes ← body
  let ls ← (Encoding.detect bytes).decode? bytes
  let v ← (Json.read ls).toOption
  (check v).toOption

/-- A request to extract that passes all checks. -/
structure Request.Extracts (q : Request) (r : ExtractRequest) : Prop where
  method : q.method.upper = Text.ofString "POST"
  path : dropLineEnd q.path = "/api/extract"
  body : checked? ExtractRequest.check q.body = some r

/-- The page of a request. -/
def ExtractRequest.toPage (r : ExtractRequest) (settings : Settings) : Page Float :=
  { operators := .list r.operators, number := r.page, flattening := r.flattening settings }

theorem withBody_of_checked {β : Type} {s : Session Float} {body : Option (List UInt8)}
    {check : Value Float → Check β} {b : β} (h : checked? check body = some b) (handle : β → Reply) :
    withBody s body check handle = handle b := by
  simp only [checked?, Option.bind_eq_bind, Option.bind_eq_some_iff, toOption_eq_some] at h
  obtain ⟨bytes, rfl, ls, hdecode, v, hread, hcheck⟩ := h
  have hempty : bytes.isEmpty = false := by
    cases bytes with
    | cons => rfl
    | nil =>
      -- No bytes are no letters, and those are no JSON.
      obtain rfl : [] = ls := Option.some.inj hdecode
      cases hread
  simp [withBody, hempty, hdecode, hread, hcheck]

theorem answer_of_extracts {settings : Settings} {s : Session Float} {q : Request}
    {r : ExtractRequest} (h : q.Extracts r) :
    answer settings s q = handleExtract s settings r := by
  have hmethods : methodsAt? q.path = some [(Text.ofString "POST", Service.Endpoint.extract)] := by
    rw [methodsAt?, h.path]
    rfl
  have hroute : route settings s q = handleExtract s settings r := by
    simp only [route, hmethods, h.method]
    exact withBody_of_checked h.body _
  have hhead : Text.ofString "POST" ≠ Text.ofString "HEAD" := by decide
  simp only [answer, hroute, h.method, if_neg hhead]

/-! ## The settings of a request -/

theorem isSound_flattening (settings : Settings) (r : ExtractRequest) :
    (r.flattening settings).IsSound :=
  { Flattening.isSound_default with tolerance := ⟨_, rfl⟩, maxDepth := ⟨_, rfl⟩ }

/-! ## What is shown -/

/-- All four features of a curve are recorded, and are those of its points. -/
def Described (c : Curve Float) : Prop :=
  c.features = some
    { pointCount := c.points.length, box := c.box, length := c.length, isClosed := c.isClosed }

namespace View

/-- A curve with the features of its points. -/
def curveValue (c : Curve Float) : Value Float := .record [
  ("index", .int c.index),
  ("path_index", .int c.pathIndex),
  ("operation", .text c.paint.label),
  ("points", .list (c.points.map pointValue)),
  ("bbox", boxValue c.box),
  ("closed", .bool c.isClosed),
  ("point_count", .int c.points.length),
  ("length", number c.length)]

/-- A pass, by what is left of it. -/
def passValue (page : Int) (paths : Nat) (curves : List (Curve Float)) (stages : Nat)
    (errors : List (Text × Text)) : Value Float := .record [
  ("page", .int page),
  ("path_count", .int paths),
  ("curves", .list (curves.map curveValue)),
  ("stages_completed", .int stages),
  ("errors", .record (errors.map fun (stage, report) => (stage, .text report)))]

theorem curve?_of_described {c : Curve Float} (h : Described c) : curve? c = some (curveValue c) := by
  rw [curve?, h]
  rfl

theorem mapM_curve?_of_described {curves : List (Curve Float)} (h : ∀ c ∈ curves, Described c) :
    curves.mapM curve? = some (curves.map curveValue) := by
  induction curves with
  | nil => rfl
  | cons c curves ih =>
    have hc := curve?_of_described (h c List.mem_cons_self)
    rw [List.mapM_cons, hc, ih fun d hd => h d (List.mem_cons_of_mem c hd)]
    rfl

/-- A pass can be shown if its curves are described. -/
theorem pass?_of_described {p : Pass Float} (h : ∀ c ∈ p.output.curves, Described c) (page : Int) :
    pass? page p = some (passValue page p.output.paths.length p.output.curves p.completed.length
      p.failure.toList) := by
  rw [pass?, mapM_curve?_of_described h]
  rfl

end View

theorem handleExtract_of_described {s : Session Float} {settings : Settings} {r : ExtractRequest}
    {p : Pass Float} (hp : extractPage (r.toPage settings) = p) (h : ∀ c ∈ p.output.curves, Described c) :
    handleExtract s settings r = (s.extracted r.page p,
      .ok (View.passValue r.page p.output.paths.length p.output.curves p.completed.length
        p.failure.toList)) := by
  rw [ExtractRequest.toPage] at hp
  simp only [handleExtract, hp, View.pass?_of_described h]

/-! ## The answer -/

/-- **A pass is complete or empty.** A request to extract that passes its checks
is answered. If its drawing can be replayed, then with all curves, each with
points and features, from three stages without an error; otherwise with none,
from no stage, and with the error of the first. Whatever paths are drawn, the
stages after the first do not fail, and neither of the divisions by a chord is
by zero. -/
theorem answer_extracts (settings : Settings) (s : Session Float) {q : Request} {r : ExtractRequest}
    (h : q.Extracts r) :
    (match extractPaths (.list r.operators) with
      | .ok paths => ∃ curves, assemble (r.flattening settings) paths = .ok curves ∧
        (∀ c ∈ curves.map .described, c.points ≠ [] ∧ Described c) ∧
        answer settings s q = ({ s with page := some r.page, curves := curves.map .described },
          .ok (View.passValue r.page paths.length (curves.map .described) 3 []))
      | .error e => answer settings s q = ({ s with page := some r.page, curves := [] },
          .ok (View.passValue r.page 0 [] 0 [("E0.01", e.message)]))) ∧
    (∀ paths, ∃ curves, assembleBody (r.toPage settings) { paths } = ({ paths, curves }, none) ∧
      describeBody (r.toPage settings) { paths, curves }
        = ({ paths, curves := curves.map .described }, none)) ∧
    ∃ epsilon, (r.flattening settings).chordEpsilon = .ok epsilon ∧ ∀ mid start stop : Point Float,
      (start.distance stop ≤ epsilon → flatness epsilon mid start stop = .ok (start.distance mid)) ∧
      (¬start.distance stop ≤ epsilon → (start.distance stop == 0) = false ∧
        flatness epsilon mid start stop
          = .ok ((mid.cross start stop).abs / start.distance stop / start.distance stop)) := by
  have hsound := isSound_flattening settings r
  rw [answer_of_extracts h]
  refine ⟨?_, fun paths => ?_, ?_⟩
  · cases hpaths : extractPaths (.list r.operators) with
    | ok paths =>
      obtain ⟨curves, hcurves, hpoints⟩ := exists_assemble hsound paths
      have hdescribed : ∀ c ∈ curves.map .described, c.points ≠ [] ∧ Described c := by
        intro c hc
        obtain ⟨d, hd, rfl⟩ := List.mem_map.1 hc
        exact ⟨hpoints d hd, rfl⟩
      exact ⟨curves, hcurves, hdescribed, handleExtract_of_described (extractPage_of_ok hpaths hcurves)
        fun c hc => (hdescribed c hc).2⟩
    | error e => exact handleExtract_of_described (extractPage_of_error hpaths) (by simp)
  · obtain ⟨curves, hcurves, -⟩ := exists_assemble hsound paths
    exact ⟨curves, by simp [assembleBody, ExtractRequest.toPage, hcurves], rfl⟩
  · obtain ⟨epsilon, hepsilon, hcovers⟩ := hsound.chordEpsilon
    exact ⟨epsilon, hepsilon, flatness_of_coversZero hcovers⟩

/-! ### A curve without extent -/

/-- A request to extract a drawing with one path, a curve that goes back to where it
begins and whose first control point is no number. -/
def loopRequest : Request where
  method := "post"
  path := "/api/extract"
  body := some (Json.compact (.record [("operators", .list [
    .record [("op", .text "m"), ("args", .list [.int 1, .int 1])],
    .record [("op", .text "c"),
      ("args", .list [.int 1, .real Binary64.nan, .int 2, .int 1, .int 1, .int 1])],
    .record [("op", .text "S")]])])).toUTF8.toList

theorem answer_loopRequest : ∃ r paths curves, loopRequest.Extracts r ∧
    extractPaths (.list r.operators) = .ok paths ∧ paths.length = 1 ∧
    (∀ c ∈ curves, c.points ≠ [] ∧ Described c) ∧
    answer {} {} loopRequest = ({ page := some r.page, curves },
      .ok (View.passValue r.page 1 curves 3 [])) := by
  have hdrawn : ((checked? ExtractRequest.check loopRequest.body).map fun r =>
      (extractPaths (.list r.operators)).toOption.map List.length) = some (some 1) := by
    decide +kernel
  obtain ⟨r, hbody, hpaths⟩ := Option.map_eq_some_iff.1 hdrawn
  obtain ⟨paths, hpaths, hlength⟩ := Option.map_eq_some_iff.1 hpaths
  rw [toOption_eq_some] at hpaths
  have hr : loopRequest.Extracts r := ⟨by decide +kernel, rfl, hbody⟩
  obtain ⟨hanswer, -⟩ := answer_extracts {} {} hr
  rw [hpaths] at hanswer
  obtain ⟨curves, -, hcurves, hanswer⟩ := hanswer
  rw [hlength] at hanswer
  exact ⟨r, paths, curves.map .described, hr, hpaths, hlength, hcurves, hanswer⟩

end PlotDigitizer.Service
