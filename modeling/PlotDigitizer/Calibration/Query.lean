/-
Asking a calibration.

A question changes nothing. It may fail: an axis may be none, points may not be
points, and there may be no scales.
-/
import PlotDigitizer.Calibration.Calibrator

namespace PlotDigitizer.Calibrator

variable {α : Type}

/-- What can be asked of a calibration, in raw values. -/
inductive Query (α : Type) where
  /-- Whether an axis is calibrated; if none is named, whether both are. -/
  | isCalibrated (axis : Option (Value α))
  | scales
  | convert (p : Point α)
  | convertAll (points : Value α)
  | status

inductive Answer (α : Type) where
  | flag (b : Bool)
  | scales (s : Scales α)
  | point (p : Option (Point α))
  | points (ps : Option (List (Point α)))
  /-- Whether both axes are calibrated, whether each is, and what is known of
  them. -/
  | status (full x y : Bool) (known : Calibrator α)

/-- Why a question has no answer. -/
inductive QueryError (α : Type) where
  | input (e : InputError α)
  | failure (f : Failure)

variable [BEq α] [Zero α] [Add α] [Sub α] [Mul α] [Div α] [Reading α]

def ask (c : Calibrator α) : Query α → Except (QueryError α) (Answer α)
  | .isCalibrated none => .ok (.flag c.isFullyCalibrated)
  | .isCalibrated (some axis) => ((Axis.ofValue axis).mapError .input).map fun a => .flag (c.isCalibrated a)
  | .scales => (c.scales.mapError .failure).map .scales
  | .convert p => .ok (.point (c.convert? p))
  | .convertAll points => ((c.convertRaw points).mapError .input).map .points
  | .status => .ok (.status c.isFullyCalibrated (c.isCalibrated .x) (c.isCalibrated .y) c)

end PlotDigitizer.Calibrator
