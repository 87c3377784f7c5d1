/-
Responses, and the views of the session that they show.

Numbers that JSON has no form for are shown as null.
-/
import PlotDigitizer.Session
import PlotDigitizer.Service.Request

namespace PlotDigitizer.Service

/-- What a response carries. -/
inductive Content where
  | json (v : Value Float)
  /-- A file under a name, of a media type. -/
  | file (name mediaType text : String)
  | plain (text : String)
  /-- Nothing, under the content type of what is left out. -/
  | headers (contentType : Option String)

structure Response where
  status : Nat
  content : Content

namespace Response

/-- The content type of a response, unless there is nothing to have one. -/
def contentType? (r : Response) : Option String :=
  match r.content with
  | .json _ => some "application/json"
  | .file _ mediaType _ => some mediaType
  | .plain _ => some "text/plain; charset=utf-8"
  | .headers contentType => contentType

/-- How a client is told to keep a file. -/
def disposition? (r : Response) : Option String :=
  match r.content with
  | .file name _ _ => some ("attachment; filename=\"" ++ name ++ "\"")
  | _ => none

/-- The response without what it carries. -/
def withoutContent (r : Response) : Response := { r with content := .headers r.contentType? }

def ok (v : Value Float) : Response := ⟨200, .json v⟩

/-- A refusal, and the reason for it. -/
def refusal (status : Nat) (reason : Value Float) : Response :=
  ⟨status, .json (.record [("detail", reason)])⟩

def notFound : Response := refusal 404 (.text "Not Found")

/-- The advice to make the same request elsewhere. -/
def redirect : Response := ⟨307, .headers none⟩

def methodNotAllowed : Response := refusal 405 (.text "Method Not Allowed")

def serverError : Response := ⟨500, .plain "Internal Server Error"⟩

/-- The refusal of a body that has problems. A value that JSON has no form for
cannot be shown, and makes the response fail. -/
def invalid (problems : List Problem) : Response :=
  if problems.all fun p => isWritable p.input then
    refusal 422 (.list (problems.map fun p =>
      .list [.list (.text "body" :: p.place.map stepValue), .text p.flaw.code]))
  else serverError
where
  stepValue : Step → Value Float
    | .field name => .text name
    | .item position => .int position

/-- The refusal of a body that is no JSON from a position on. -/
def malformed (position : Nat) : Response :=
  refusal 422 (.list [.list [.list [.text "body", .int position], .text "json_invalid"]])

end Response

namespace View

def number (x : Float) : Value Float := if Binary64.isFinite x then .real x else .null

def pointValue (p : Point Float) : Value Float := .list [number p.x, number p.y]

def boxValue (b : Box Float) : Value Float :=
  .list [number b.xmin, number b.ymin, number b.xmax, number b.ymax]

/-- A described curve; one without features cannot be shown. -/
def curve? (c : Curve Float) : Option (Value Float) :=
  c.features.map fun f => .record [
    ("index", .int c.index),
    ("path_index", .int c.pathIndex),
    ("operation", .text c.paint.label),
    ("points", .list (c.points.map pointValue)),
    ("bbox", boxValue f.box),
    ("closed", .bool f.isClosed),
    ("point_count", .int f.pointCount),
    ("length", number f.length)]

/-- A pass over a page. -/
def pass? (page : Int) (p : Pass Float) : Option (Value Float) := do
  let curves ← p.output.curves.mapM curve?
  return .record [
    ("page", .int page),
    ("path_count", .int p.output.paths.length),
    ("curves", .list curves),
    ("stages_completed", .int p.completed.length),
    ("errors", .record (p.failure.toList.map fun (stage, report) => (stage, .text report)))]

def segmentValue (s : Segment Float) : Value Float :=
  .list [number s.x₁, number s.y₁, number s.x₂, number s.y₂]

def orNull {β : Type} (view : β → Value Float) : Option β → Value Float
  | some b => view b
  | none => .null

def valuesValue (s : AxisSlots Float) : Value Float :=
  .record [("min", orNull number s.start), ("max", orNull number s.stop)]

def scaleValue (s : AxisScale Float) : Value Float := .record [
  ("scale", number s.scale), ("offset", number s.offset),
  ("data_min", number s.dataStart), ("data_max", number s.dataStop)]

/-- A calibration: its slots, and the scales of both axes where there are
scales. Only a reference without extent is reported. -/
def status (c : Calibrator Float) : Value Float :=
  let (scale, error) : Value Float × Text := match c.scales with
    | .ok s => (.record [("x", scaleValue s.x), ("y", scaleValue s.y)], "")
    | .error f => (.null, match f.cause with
      | .degenerateAxis _ => f.message
      | _ => "")
  .record [
    ("calibrated", .bool c.isFullyCalibrated),
    ("x_calibrated", .bool (c.isCalibrated .x)),
    ("y_calibrated", .bool (c.isCalibrated .y)),
    ("segments", .record [
      ("x", orNull segmentValue c.x.segment), ("y", orNull segmentValue c.y.segment)]),
    ("values", .record [("x", valuesValue c.x), ("y", valuesValue c.y)]),
    ("scale", scale),
    ("error", .text error)]

end View
end PlotDigitizer.Service
