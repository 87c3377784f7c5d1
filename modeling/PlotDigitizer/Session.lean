/-
A session: one document's calibration, and the curves of its last extraction.

Each extraction replaces the curves of the one before, also when it fails and
there are none. The calibration stays.
-/
import PlotDigitizer.Calibration.Calibrator
import PlotDigitizer.Stage.Pass

namespace PlotDigitizer

/-- The first curve of a list whose index a raw value equals. -/
def Curve.findAt? {α : Type} [BEq α] [Reading α] (curves : List (Curve α)) (index : Value α) :
    Option (Curve α) :=
  curves.find? fun c => index.isWhole Reading.ofInt? c.index

structure Session (α : Type) where
  calibrator : Calibrator α := {}
  page : Option Int := none
  curves : List (Curve α) := []

namespace Session
variable {α : Type}

/-- The session after a pass over a page. -/
def extracted (s : Session α) (page : Int) (pass : Pass α) : Session α :=
  { s with page := some page, curves := pass.output.curves }

/-- The curve that goes by an index. -/
def curve? (s : Session α) (index : Int) : Option (Curve α) := Curve.find? s.curves index

/-- The curve that goes by an index given as a raw value. -/
def curveAt? [BEq α] [Reading α] (s : Session α) (index : Value α) : Option (Curve α) :=
  Curve.findAt? s.curves index

/-- The curves that a selection names by their indices, or the first index
that no curve goes by. -/
def select {β : Type} (s : Session α) :
    List (β × Int) → Except Int (List (β × Curve α))
  | [] => .ok []
  | (label, index) :: rest => do
    let curve ← match s.curve? index with
      | some c => .ok c
      | none => .error index
    return (label, curve) :: (← s.select rest)

end Session
end PlotDigitizer
