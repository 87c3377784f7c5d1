/-
Labeled curves in data coordinates, and the files they are written to.

A table has a line per point and a blank line after every curve. Its numbers
are written without a point where they are whole. The JSON file holds the
curves as they are.
-/
import PlotDigitizer.Calibration.Calibrator
import PlotDigitizer.Json.Writer

namespace PlotDigitizer

/-- A curve in data coordinates under a label. -/
structure Labeled (β α : Type) where
  label : β
  points : List (Point α)
  curveIndex : Int
deriving Repr

/-- The selected curves in data coordinates, those without points left out.
Nothing is exported before both axes are calibrated. -/
def Calibrator.label {β α : Type} [BEq α] [Zero α] [Add α] [Sub α] [Mul α] [Div α]
    (c : Calibrator α) (selections : List (β × Curve α)) : Except Failure (List (Labeled β α)) :=
  if !c.isFullyCalibrated then
    .error ⟨.notCalibrated, "Calibrator must be calibrated before exporting data"⟩
  else do
    let _ ← c.scales
    return selections.filterMap fun (label, curve) =>
      match c.convertAll? curve.points with
      | none | some [] => none
      | some points => some { label, points, curveIndex := curve.index }

namespace Labeled

/-- A number in a table. -/
def cell (x : Float) : String :=
  match Binary64.toInt? x with
  | some n => toString n
  | none => Layout.plain.double x

def header : String := "Label, X, Y"

/-- The lines of a curve in a table, the blank one included. -/
def lines (c : Labeled Text Float) : List Text :=
  (c.points.map fun p => c.label ++ ", " ++ cell p.x ++ ", " ++ cell p.y) ++ [("" : Text)]

def csv (curves : List (Labeled Text Float)) : Text :=
  Text.unlines (header :: curves.flatMap lines)

def toValue (c : Labeled Text Float) : Value Float :=
  .record [
    ("label", .text c.label),
    ("points", .list (c.points.map fun p => .record [("x", .real p.x), ("y", .real p.y)])),
    ("curve_index", .int c.curveIndex)]

def json (curves : List (Labeled Text Float)) : String :=
  Json.indented (.list (curves.map toValue))

end Labeled
end PlotDigitizer
