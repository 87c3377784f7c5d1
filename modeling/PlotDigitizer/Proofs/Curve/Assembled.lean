/-
Every drawing is assembled.

Cubics are all that an assembly can fail at. By sound settings it does not, and
whatever the paths are it ends with curves that have at least one point each
(`exists_assemble`).
-/
import PlotDigitizer.Proofs.Curve.Numbering

namespace PlotDigitizer

variable {α : Type}

section
variable [BEq α] [Zero α] [One α] [Add α] [Sub α] [Mul α] [Div α] [Neg α]
  [OfNat α 2] [OfNat α 3] [OfNat α 6]
  [LE α] [DecidableLE α] [LT α] [DecidableLT α] [Euclidean α]
  {f : Flattening α}

theorem Assembly.exists_follow (h : f.IsSound) (s : Assembly α) (c : Command α) :
    ∃ s', s.follow f c = .ok s' := by
  cases c with
  | move | line | close => exact ⟨_, rfl⟩
  | cubic c₁ c₂ p =>
    obtain ⟨ps, hps⟩ := (Cubic.mk s.pen c₁ c₂ p).exists_flatten h
    exact ⟨{ ps.foldl addNew s with pen := p }, by rw [follow, hps]; rfl⟩

theorem Path.exists_curves (h : f.IsSound) (p : Path α) (pathIndex : Nat) :
    ∃ curves, p.curves f pathIndex = .ok curves := by
  obtain ⟨s, hs⟩ := exists_foldlM (Assembly.exists_follow h) p.commands { pen := .origin }
  exact ⟨_, by rw [Path.curves, Path.polylines, hs]; rfl⟩

/-- **Every drawing is assembled** by sound settings, into curves with points. -/
theorem exists_assemble (h : f.IsSound) (paths : List (Path α)) :
    ∃ curves, assemble f paths = .ok curves ∧ ∀ c ∈ curves, c.points ≠ [] := by
  have hpath (q : Path α × Nat) : ∃ cs, Path.curves f q.1 q.2 = .ok cs := Path.exists_curves h q.1 q.2
  obtain ⟨css, hcss⟩ := exists_mapM hpath paths.zipIdx
  have hassemble := assemble_eq_ok.2 ⟨css, mapM_eq_ok.1 hcss, rfl⟩
  exact ⟨_, hassemble, points_ne_nil_of_assemble hassemble⟩

end
end PlotDigitizer
