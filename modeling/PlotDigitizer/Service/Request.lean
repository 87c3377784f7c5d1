/-
The requests that carry data, and the settings of the service.
-/
import PlotDigitizer.Bezier.Settings
import PlotDigitizer.Calibration.Calibrator
import PlotDigitizer.Service.Check

namespace PlotDigitizer.Service

open Check

/-- An operator code or spelling with its arguments, as a drawing holds it. -/
def checkOperator (v : Value Float) : Check (Value Float) := do
  let o ← object v
  let (op, args) ← both (required o "op" wholeOrText) (optional o "args" [] (list anything))
  return .list [op, .list args]

structure ExtractRequest where
  operators : List (Value Float)
  page : Int
  tolerance : Option Float
  maxDepth : Option Int

def ExtractRequest.check (v : Value Float) : Check ExtractRequest := do
  let o ← object v
  let (operators, page, tolerance, maxDepth) ←
    both (required o "operators" (list checkOperator)) <|
    both (optional o "page" 1 whole) <|
    both (optional o "tolerance" none (nullable positive))
      (optional o "max_depth" none (nullable natural))
  return { operators, page, tolerance, maxDepth }

def checkPoints : Value Float → Check (List (Point Float)) :=
  list fun v => (pair number v).map fun (x, y) => ⟨x, y⟩

structure SegmentRequest where
  axis : Axis
  curveIndex : Option Int
  points : Option (List (Point Float))

def SegmentRequest.check (v : Value Float) : Check SegmentRequest := do
  let o ← object v
  let (axis, curveIndex, points) ←
    both (required o "axis" (oneOf .notInEnum Axis.ofName?)) <|
    both (optional o "curve_index" none (nullable whole))
      (optional o "points" none (nullable checkPoints))
  return { axis, curveIndex, points }

structure ValueRequest where
  axis : Axis
  endpoint : Endpoint
  value : Text

def ValueRequest.check (v : Value Float) : Check ValueRequest := do
  let o ← object v
  let (axis, endpoint, value) ←
    both (required o "axis" (oneOf .notInEnum Axis.ofName?)) <|
    both (required o "endpoint" (oneOf .notInEnum Endpoint.ofName?)) (required o "value" text)
  return { axis, endpoint, value }

structure ConvertRequest where
  points : List (Point Float)

def ConvertRequest.check (v : Value Float) : Check ConvertRequest := do
  let o ← object v
  let points ← optional o "points" [] checkPoints
  return { points }

/-- The file formats of an export. -/
inductive Format where
  | csv
  | json
deriving Repr, DecidableEq

def Format.name : Format → String
  | .csv => "csv"
  | .json => "json"

def Format.ofName? (s : String) : Option Format :=
  if s = "csv" then some .csv else if s = "json" then some .json else none

structure ExportRequest where
  /-- Labels, and the indices of the curves to go under them. -/
  curves : List (Text × Int)
  format : Format

def checkSelection (v : Value Float) : Check (Text × Int) := do
  let o ← object v
  both (required o "label" text) (required o "curve_index" whole)

def ExportRequest.check (v : Value Float) : Check ExportRequest := do
  let o ← object v
  let (curves, format) ←
    both (required o "curves" (list checkSelection))
      (optional o "format" .csv (oneOf .notLiteral Format.ofName?))
  return { curves, format }

/-- The settings in force for requests that give none of their own. -/
structure Settings where
  tolerance : Float := 0.01
  maxDepth : Int := 10

/-- The names of all settings. -/
def Settings.names : List String :=
  ["charttrace_env", "charttrace_log_level", "cors_origins", "curve_tolerance", "curve_max_depth"]

/-- The options for reading settings from elsewhere. They are taken in this
spelling only, and say nothing about settings that are given. -/
def Settings.options : List String := [
  "_case_sensitive", "_nested_model_default_partial_update", "_env_prefix", "_env_prefix_target",
  "_env_file", "_env_file_encoding", "_env_ignore_empty", "_env_nested_delimiter",
  "_env_nested_max_split", "_env_parse_none_str", "_env_parse_enums", "_cli_prog_name",
  "_cli_parse_args", "_cli_settings_source", "_cli_parse_none_str", "_cli_hide_none_type",
  "_cli_avoid_json", "_cli_enforce_required", "_cli_use_class_docs_for_groups",
  "_cli_exit_on_error", "_cli_prefix", "_cli_flag_prefix_char", "_cli_implicit_flags",
  "_cli_ignore_unknown_args", "_cli_kebab_case", "_cli_shortcuts", "_secrets_dir"]

def Settings.isOption (field : Text × Value Float) : Bool :=
  options.any fun name => Text.ofString name == field.1

/-- Whether a field's name is that of a setting, in any case. -/
def Settings.isSpelled (name : String) (field : Text × Value Float) : Bool :=
  (field.1.chars?.map fun cs => String.ofList (cs.map Char.toLower)) == some name

/-- The settings that fields give, under their own names. Of several fields
for one setting the first counts. -/
def Settings.given (fields : List (Text × Value Float)) : Value Float :=
  .record <| names.filterMap fun name =>
    (fields.find? (isSpelled name)).map fun f => (Text.ofString name, f.2)

/-- Settings by name. Those that do not bear on requests are checked all the
same, and others are refused. Nothing is checked if a name does not consist of
characters. -/
def Settings.check (fields : List (Text × Value Float)) : Check Settings := do
  if fields.any fun f => f.1.chars?.isNone then fail .notUnicode (.record fields)
  let v := given fields
  let defaults : Settings := {}
  let known :=
    both (optional v "charttrace_env" (Text.ofString "") text) <|
    both (optional v "charttrace_log_level" (Text.ofString "") text) <|
    both (optional v "cors_origins" [] (list text)) <|
    both (optional v "curve_tolerance" defaults.tolerance number)
      (optional v "curve_max_depth" defaults.maxDepth whole)
  let isKnown (f : Text × Value Float) : Bool := isOption f || names.any (isSpelled · f)
  let others : List Problem := (fields.filter fun f => !isKnown f).map fun f =>
    ⟨[.field f.1], .extra, f.2⟩
  let rest : Check Unit := if others.isEmpty then .ok () else .error others
  let ((_, _, _, tolerance, maxDepth), ()) ← both known rest
  return { tolerance, maxDepth }

/-- How closely the curves of an extraction are followed. -/
def ExtractRequest.flattening (r : ExtractRequest) (s : Settings) : Flattening Float :=
  { Flattening.default with
    tolerance := .ok (r.tolerance.getD s.tolerance)
    maxDepth := .ok (r.maxDepth.getD s.maxDepth) }

end PlotDigitizer.Service
