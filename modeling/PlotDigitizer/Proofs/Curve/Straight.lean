/-
Curves of straight paths.

A path that moves once and then draws lines is one curve, with a point for
each command (`polylines_straight`); so of a drawing made of such paths the
curves are their polylines, numbered in order (`assemble_straight`).
-/
import PlotDigitizer.Proofs.Curve.Numbering
import PlotDigitizer.Proofs.Drawing.Polyline

namespace PlotDigitizer

variable {α : Type}

section
variable [BEq α] [Zero α] [One α] [Add α] [Sub α] [Mul α] [Div α] [Neg α]
  [OfNat α 2] [OfNat α 3] [OfNat α 6]
  [LE α] [DecidableLE α] [LT α] [DecidableLT α] [Euclidean α]

/-- Lines add their ends to the curve that is being assembled. -/
theorem foldlM_follow_lines (f : Flattening α) (ps : List (Point α)) (s : Assembly α) :
    ∃ s', (ps.map Command.line).foldlM (Assembly.follow f) s = .ok s' ∧ s'.curves = s.curves ∧
      s'.points.toList = s.points.toList ++ ps := by
  induction ps generalizing s with
  | nil => exact ⟨s, rfl, rfl, by simp⟩
  | cons p ps ih =>
    obtain ⟨s', hs, hcurves, hpoints⟩ := ih (s.add p)
    refine ⟨s', ?_, hcurves, ?_⟩
    · rw [List.map_cons, List.foldlM_cons]
      exact hs
    · simp [hpoints, Assembly.add]

theorem polylines_straight (f : Flattening α) {ps : List (Point α)} (h : ps ≠ []) (p : Paint) :
    Path.polylines f ⟨straight ps, p⟩ = .ok [ps] := by
  cases ps with
  | nil => exact absurd rfl h
  | cons q ps =>
    let start : Assembly α := { pen := .origin }
    obtain ⟨s, hs, hcurves, hpoints⟩ := foldlM_follow_lines f ps (start.flush.add q)
    have hfold : (straight (q :: ps)).foldlM (Assembly.follow f) start = .ok s := by
      rw [straight, List.foldlM_cons]
      exact hs
    have hq : s.points.toList = q :: ps := by
      rw [hpoints]
      rfl
    have hne : s.points.isEmpty = false := by
      rw [← Array.isEmpty_toList, hq]
      rfl
    have hc : s.curves = #[] := hcurves
    rw [Path.polylines, hfold, ok_bind]
    simp [Assembly.flush, hne, hc, hq, pure, Except.pure]

theorem curves_straight (f : Flattening α) {ps : List (Point α)} (h : ps ≠ []) (p : Paint) (i : Nat) :
    Path.curves f ⟨straight ps, p⟩ i = .ok [{ points := ps, paint := p, pathIndex := i }] := by
  rw [Path.curves, polylines_straight f h, ok_bind]
  rfl

theorem mapM_curves_straight (f : Flattening α) (p : Paint) {pss : List (List (Point α))}
    (h : ∀ ps ∈ pss, ps ≠ []) (n : Nat) :
    (((pss.map fun ps => (⟨straight ps, p⟩ : Path α)).zipIdx n).mapM fun (q, i) => q.curves f i)
      = .ok ((pss.zipIdx n).map fun (ps, i) => [{ points := ps, paint := p, pathIndex := i }]) := by
  induction pss generalizing n with
  | nil => rfl
  | cons ps pss ih =>
    have hps := curves_straight f (h ps List.mem_cons_self) p n
    have hrest := ih (fun qs hqs => h qs (List.mem_cons_of_mem ps hqs)) (n + 1)
    simp only [List.map_cons, List.zipIdx_cons, List.mapM_cons, hps, ok_bind, hrest]
    rfl

/-- **Straight paths.** Of paths that move once and then draw lines, the curves
are the polylines, numbered in order. -/
theorem assemble_straight (f : Flattening α) (p : Paint) {pss : List (List (Point α))}
    (h : ∀ ps ∈ pss, ps ≠ []) :
    ∃ curves, assemble f (pss.map fun ps => ⟨straight ps, p⟩) = .ok curves ∧
      Numbered curves ∧ curves.map (·.points) = pss := by
  have hflat : ((pss.zipIdx 0).map fun (ps, i) =>
      [({ points := ps, paint := p, pathIndex := i } : Curve α)]).flatten
        = (pss.zipIdx 0).map fun (ps, i) => { points := ps, paint := p, pathIndex := i } := by
    rw [← List.flatMap_def, List.map_eq_flatMap]
  have hassemble : assemble f (pss.map fun ps => ⟨straight ps, p⟩) = .ok (((pss.zipIdx 0).map fun (ps, i) =>
      ({ points := ps, paint := p, pathIndex := i } : Curve α)).zipIdx.map
        fun q => { q.1 with index := q.2 }) := by
    rw [assemble, mapM_curves_straight f p h, ok_bind, hflat]
    rfl
  refine ⟨_, hassemble, numbered_of_assemble hassemble, ?_⟩
  rw [map_zipIdx_index (fun c i => rfl), List.map_map]
  exact List.zipIdx_map_fst 0 pss

end
end PlotDigitizer
