/-
The service: one request answered at a time, on a session.

A request goes to the endpoint of its path and method, which may be spelled in
any case; a line end after the path does not count, and slashes after it are
taken back by the client. A body that the endpoint needs is read as JSON and
checked before anything else happens, and a refusal changes nothing.
-/
import PlotDigitizer.Export.Labeled
import PlotDigitizer.Extraction
import PlotDigitizer.Json.Reader
import PlotDigitizer.Service.Response
import PlotDigitizer.Service.Target

namespace PlotDigitizer.Service

structure Request where
  method : Text
  path : String
  body : Option (List UInt8)

/-- The request of a method, a target and a text. The target is checked first,
then the text is written, and last the host is looked at. -/
def Request.ofTarget (method target : Text) (body : Option Text) :
    Except Target.Fault Request := do
  let r ← Target.Reference.ofText target
  let path ← r.resource
  let body ← body.mapM fun t => t.utf8.mapError .unwritten
  if let some fault := r.hostFault? then throw fault
  return { method, path, body }

inductive Endpoint where
  | health
  | extract
  | status
  | reset
  | segment
  | value
  | convert
  | export
deriving Repr, DecidableEq

/-- The paths of the service, and what each method does there. -/
def routes : List (String × List (Text × Endpoint)) := [
  ("/api/health", [("GET", .health)]),
  ("/api/extract", [("POST", .extract)]),
  ("/api/calibration", [("GET", .status), ("DELETE", .reset)]),
  ("/api/calibration/segment", [("POST", .segment)]),
  ("/api/calibration/value", [("POST", .value)]),
  ("/api/calibration/convert", [("POST", .convert)]),
  ("/api/export", [("POST", .export)])]

def version : String := "0.1.0"

abbrev Reply := Session Float × Response

section
variable (s : Session Float)

def handleHealth : Reply :=
  let stages : Registry (Body Float) := Registry.builtIn
  (s, .ok (.record [
    ("status", .text "ok"), ("version", .text version), ("stages_registered", .int stages.size)]))

def handleExtract (settings : Settings) (r : ExtractRequest) : Reply :=
  let pass := extractPage
    { operators := .list r.operators, number := r.page, flattening := r.flattening settings }
  (s.extracted r.page pass,
    match View.pass? r.page pass with
    | some v => .ok v
    | none => .serverError)

def handleStatus : Reply := (s, .ok (View.status s.calibrator))

/-- The session with another calibration, and that calibration's status. -/
def calibrated (c : Calibrator Float) : Reply :=
  ({ s with calibrator := c }, .ok (View.status c))

def unknownCurve (index : Int) : Reply :=
  (s, .refusal 404 (.text ("No curve with index " ++ toString index)))

/-- A segment that spans points, which are there. -/
def handleSpan (a : Axis) (points : List (Point Float)) : Reply :=
  match s.calibrator.setSpan a points with
  | .ok c => calibrated s c
  | .error _ => (s, .serverError)

def handleSegment (r : SegmentRequest) : Reply :=
  match r.curveIndex, r.points with
  | some index, _ =>
    match s.curve? index with
    | some curve => handleSpan s r.axis curve.points
    | none => unknownCurve s index
  | none, some (p :: rest) => handleSpan s r.axis (p :: rest)
  | none, _ => (s, .refusal 422 (.text "Provide curve_index or points"))

def handleValue (r : ValueRequest) : Reply :=
  match r.value.toString?.bind Numeral.double? with
  | some v =>
    if Binary64.isFinite v then calibrated s (s.calibrator.setNumber r.axis r.endpoint v)
    else refused
  | none => refused
where
  refused : Reply := (s, .refusal 422 (.text ("Not a number: " ++ r.value.quoted)))

def handleReset : Reply := calibrated s {}

def handleConvert (r : ConvertRequest) : Reply :=
  let points? := s.calibrator.convertAll? r.points
  (s, .ok (.record [
    ("available", .bool points?.isSome),
    ("points", .list ((points?.getD []).map View.pointValue))]))

/-- The file of an export. A table with a label that does not consist of
characters cannot be written. -/
def exportFile? (format : Format) (curves : List (Labeled Text Float)) : Option Content :=
  let name := "extracted_data." ++ format.name
  match format with
  | .csv => (Labeled.csv curves).toString?.map (.file name "text/csv; charset=utf-8")
  | .json => some (.file name "application/json" (Labeled.json curves))

def handleExport (r : ExportRequest) : Reply :=
  match s.select r.curves with
  | .error index => unknownCurve s index
  | .ok selections =>
    match s.calibrator.label selections with
    | .ok curves =>
      match exportFile? r.format curves with
      | some file => (s, ⟨200, file⟩)
      | none => (s, .serverError)
    | .error f =>
      match f.cause with
      | .notCalibrated => (s, .refusal 409 (.text f.message))
      | _ => (s, .refusal 422 (.text f.message))

/-- Answers a request by the checked value of its body. -/
def withBody {β : Type} (body : Option (List UInt8)) (check : Value Float → Check β)
    (handle : β → Reply) : Reply :=
  let bytes := body.getD []
  if bytes.isEmpty then (s, .refusal 422 (.list [.list [.list [.text "body"], .text "missing"]]))
  else
    match (Encoding.detect bytes).decode? bytes with
    | none => unreadable
    | some ls =>
      match Json.read ls with
      | .error (.malformed rest) => (s, .malformed (ls.length - rest.length))
      | .error .oversized | .error .nested => unreadable
      | .ok v =>
        match check v with
        | .ok b => handle b
        | .error problems => (s, .invalid problems)
where
  unreadable : Reply := (s, .refusal 400 (.text "There was an error parsing the body"))

end

/-- Answers a request at its endpoint. -/
def Endpoint.handle (settings : Settings) (s : Session Float) (body : Option (List UInt8)) :
    Endpoint → Reply
  | .health => handleHealth s
  | .extract => withBody s body ExtractRequest.check (handleExtract s settings)
  | .status => handleStatus s
  | .reset => handleReset s
  | .segment => withBody s body SegmentRequest.check (handleSegment s)
  | .value => withBody s body ValueRequest.check (handleValue s)
  | .convert => withBody s body ConvertRequest.check (handleConvert s)
  | .export => withBody s body ExportRequest.check (handleExport s)

/-- A path without a line end after it. -/
def dropLineEnd (path : String) : String :=
  let cs := path.toList
  if cs.getLast? = some '\n' then String.ofList cs.dropLast else path

/-- What the methods do at a path, if it is one of the service. -/
def methodsAt? (path : String) : Option (List (Text × Endpoint)) := routes.lookup (dropLineEnd path)

/-- A path without slashes after it. -/
def dropSlashes (path : String) : String :=
  String.ofList (path.toList.reverse.dropWhile (· == '/')).reverse

/-- Answers a request at its endpoint, if there is one. With slashes after its
path the service only says where that is. -/
def route (settings : Settings) (s : Session Float) (r : Request) : Reply :=
  match methodsAt? r.path with
  | none => (s, if (methodsAt? (dropSlashes r.path)).isSome then .redirect else .notFound)
  | some methods =>
    match methods.lookup r.method.upper with
    | none => (s, .methodNotAllowed)
    | some endpoint => endpoint.handle settings s r.body

/-- Answers a request. A request for the headers alone is answered without
content. -/
def answer (settings : Settings) (s : Session Float) (r : Request) : Reply :=
  let (s, response) := route settings s r
  (s, if r.method.upper = Text.ofString "HEAD" then response.withoutContent else response)

end PlotDigitizer.Service
