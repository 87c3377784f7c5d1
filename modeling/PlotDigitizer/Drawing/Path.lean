/-
Paths: what a drawing leaves behind.

The coordinates of a command are those of the page; the map in force when it
was drawn is already in them.
-/
import PlotDigitizer.Drawing.Operator
import PlotDigitizer.Plane.Point

namespace PlotDigitizer

inductive Command (α : Type) where
  | move (stop : Point α)
  | line (stop : Point α)
  | cubic (control₁ control₂ stop : Point α)
  | close
deriving Repr, DecidableEq

/-- Where a command ends, unless it goes back to where its sub-path began. -/
def Command.stop? {α : Type} : Command α → Option (Point α)
  | .move p | .line p | .cubic _ _ p => some p
  | .close => none

/-- A painted path, or one that was never painted. -/
structure Path (α : Type) where
  commands : List (Command α)
  paint : Paint
deriving Repr, DecidableEq

/-- How many commands of the path end in a point of their own. -/
def Path.pointCount {α : Type} (p : Path α) : Nat := p.commands.countP (·.stop?.isSome)

end PlotDigitizer
