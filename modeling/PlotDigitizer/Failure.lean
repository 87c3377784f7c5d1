/-
Failures of extraction and calibration, by cause.

A failure says what it was given to say, or else what its cause says by
itself. The causes form a hierarchy.
-/
import PlotDigitizer.Text.Upper

namespace PlotDigitizer

inductive Cause where
  | unknown
  | extraction
  | calibration
  | notCalibrated
  /-- A reference has no extent along its own axis. -/
  | degenerateAxis (axis : Text)
deriving Repr, DecidableEq

namespace Cause

def message : Cause → Text
  | unknown => "An unknown ChartTrace error occurred."
  | extraction => "Operator stream could not be extracted."
  | calibration => "Axis calibration is unavailable."
  | notCalibrated => "Both axes must be calibrated first."
  | degenerateAxis axis =>
    let direction := if axis = Text.ofString "x" then "horizontal" else "vertical"
    axis.upper ++ "-axis calibration error: selected path has no " ++ direction ++ " extent"

/-- The cause that a cause is a case of. -/
def broader? : Cause → Option Cause
  | unknown => none
  | extraction | calibration => some unknown
  | notCalibrated | degenerateAxis _ => some calibration

/-- A cause and all that it is a case of, the broadest last. -/
def lineage (c : Cause) : List Cause :=
  match c.broader? with
  | none => [c]
  | some b =>
    match b.broader? with
    | none => [c, b]
    | some a => [c, b, a]

end Cause

structure Failure where
  cause : Cause
  /-- What the failure says, if it is not to say what its cause does. -/
  note : Text := ""
deriving Repr, DecidableEq

def Failure.message (f : Failure) : Text := if f.note.isEmpty then f.cause.message else f.note

end PlotDigitizer
