/-
Extracting the curves of a page: the drawing is replayed into paths, the paths
are assembled into curves, and the curves are described.
-/
import PlotDigitizer.Curve.Assembly
import PlotDigitizer.Drawing.Replay
import PlotDigitizer.Failure
import PlotDigitizer.Stage.Pass

namespace PlotDigitizer

/-- The curves that a pass leaves, or its failure. -/
def Pass.curves {α : Type} (p : Pass α) : Except Failure (List (Curve α)) :=
  match p.failure with
  | some (stage, report) => .error ⟨.extraction, stage ++ ": " ++ report⟩
  | none => .ok p.output.curves

variable {α : Type} [BEq α] [Zero α] [One α] [Add α] [Sub α] [Mul α] [Div α] [Neg α]
  [OfNat α 2] [OfNat α 3] [OfNat α 6]
  [LE α] [DecidableLE α] [LT α] [DecidableLT α] [Euclidean α] [Reading α]

def interpretBody : Body α := fun page output =>
  match extractPaths page.operators with
  | .error e => (output, some (.draw e))
  | .ok paths => ({ output with paths }, none)

def assembleBody : Body α := fun page output =>
  match assemble page.flattening output.paths with
  | .error e => (output, some (.flatten e))
  | .ok curves => ({ output with curves }, none)

def describeBody : Body α := fun _ output =>
  ({ output with curves := output.curves.map .described }, none)

/-- The stages that every extraction has. -/
def Registry.builtIn : Registry (Body α) where
  stages := [
    ⟨"E0.01", .interpret, [], interpretBody⟩,
    ⟨"E1.01", .assemble, ["E0.01"], assembleBody⟩,
    ⟨"E1.02", .assemble, ["E1.01"], describeBody⟩]
  distinct := by simp

/-- A pass over a page. What fails in it is recorded in the pass. -/
def extractPage (page : Page α) : Pass α := (Registry.builtIn.pass page).1

/-- The curves of a page, or the failure of the pass. -/
def extractCurves (page : Page α) : Except Failure (List (Curve α)) := (extractPage page).curves

end PlotDigitizer
