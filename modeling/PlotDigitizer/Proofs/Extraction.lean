/-
What a pass over a page leaves: everything if the drawing can be replayed and
its paths assembled, and nothing but a report if it cannot be replayed.
-/
import PlotDigitizer.Extraction

namespace PlotDigitizer

section
variable {α : Type} [BEq α] [Zero α] [One α] [Add α] [Sub α] [Mul α] [Div α] [Neg α]
  [OfNat α 2] [OfNat α 3] [OfNat α 6]
  [LE α] [DecidableLE α] [LT α] [DecidableLT α] [Euclidean α] [Reading α]

/-- The built-in stages run as they are registered: each depends on the one
before it. -/
theorem builtIn_order : (Registry.builtIn (α := α)).order = .ok Registry.builtIn.stages := rfl

theorem pass_builtIn (page : Page α) :
    Registry.builtIn.pass page = (Pass.run page Registry.builtIn.stages {}, none) := by
  rw [Registry.pass, builtIn_order]

/-- A pass over a page whose drawing can be replayed, and whose paths can be
assembled, completes all stages. -/
theorem extractPage_of_ok {page : Page α} {paths : List (Path α)} {curves : List (Curve α)}
    (hp : extractPaths page.operators = .ok paths) (hc : assemble page.flattening paths = .ok curves) :
    extractPage page = {
      output := { paths, curves := curves.map .described }
      started := ["E0.01", "E1.01", "E1.02"]
      completed := ["E0.01", "E1.01", "E1.02"] } := by
  rw [extractPage, pass_builtIn]
  simp only [Registry.builtIn, Pass.run, interpretBody, assembleBody, describeBody, hp, hc]
  rfl

/-- A drawing that cannot be replayed leaves nothing but the report of that. -/
theorem extractPage_of_error {page : Page α} {e : DrawError}
    (hp : extractPaths page.operators = .error e) :
    extractPage page = { started := ["E0.01"], failure := some ("E0.01", e.message) } := by
  rw [extractPage, pass_builtIn]
  simp only [Registry.builtIn, Pass.run, interpretBody, hp]
  rfl

/-- So do paths that cannot be assembled. -/
theorem extractPage_of_not_assembled {page : Page α} {paths : List (Path α)} {e : FlattenError}
    (hp : extractPaths page.operators = .ok paths) (hc : assemble page.flattening paths = .error e) :
    extractPage page = {
      started := ["E0.01", "E1.01"]
      completed := ["E0.01"]
      failure := some ("E1.01", e.message) } := by
  rw [extractPage, pass_builtIn]
  simp only [Registry.builtIn, Pass.run, interpretBody, assembleBody, hp, hc]
  rfl

/-- If the drawing can be replayed and its paths assembled, the pass does not
fail, and leaves the paths and the curves, described. -/
theorem extractPage_eq {page : Page α} {paths : List (Path α)} {curves : List (Curve α)}
    (hp : extractPaths page.operators = .ok paths) (hc : assemble page.flattening paths = .ok curves) :
    (extractPage page).failure = none ∧
      (extractPage page).output = { paths, curves := curves.map .described } := by
  rw [extractPage_of_ok hp hc]
  exact ⟨rfl, rfl⟩

/-- Pages whose paths are assembled alike have the same curves, or fail alike. -/
theorem extractCurves_congr {page page' : Page α} {paths paths' : List (Path α)}
    (hp : extractPaths page.operators = .ok paths) (hp' : extractPaths page'.operators = .ok paths')
    (h : assemble page'.flattening paths' = assemble page.flattening paths) :
    extractCurves page' = extractCurves page := by
  rw [extractCurves, extractCurves]
  cases hc : assemble page.flattening paths with
  | error e => rw [extractPage_of_not_assembled hp hc, extractPage_of_not_assembled hp' (h.trans hc)]
  | ok curves => rw [extractPage_of_ok hp hc, extractPage_of_ok hp' (h.trans hc)]; rfl

end
end PlotDigitizer
