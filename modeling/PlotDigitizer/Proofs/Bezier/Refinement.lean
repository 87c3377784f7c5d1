/-
Settings that follow a curve more closely.

Where the tolerance is no greater and the depth limits are no smaller, every
piece that was split is split again. So the tree of the coarse settings is the
top of the tree of the fine ones (`Subdivision.Coarser`), and a piece that the
coarse settings keep is itself cut up by the fine ones. Its start is the first
point of its lower half and its middle that of its upper half, so neither is
lost.
-/
import PlotDigitizer.Proofs.Bezier.Subdivision
import PlotDigitizer.Proofs.Number.Order

namespace PlotDigitizer

/-- The first tree is the second with some of its pieces left whole. -/
inductive Subdivision.Coarser : Subdivision → Subdivision → Prop
  | kept {t : Subdivision} : Coarser .kept t
  | halved {l l' u u' : Subdivision} (hl : Coarser l l') (hu : Coarser u u') :
      Coarser (.halved l u) (.halved l' u')

variable {α : Type} [Zero α] [One α] [Add α] [Sub α] [Mul α] [Div α] [Neg α]
variable [OfNat α 2] [OfNat α 3] [OfNat α 6]

section
variable {t t' : Subdivision}

/-- However a piece is cut up, its points begin with its start. -/
theorem Cubic.exists_points_eq_cons (c : Cubic α) (t : Subdivision) (q : Piece) :
    ∃ rest, (t.pieces q).flatMap (fun r => [c.start r, c.middle r]) = c.start q :: rest := by
  induction t generalizing q with
  | kept => exact ⟨[c.middle q], rfl⟩
  | halved l u ihl _ =>
    obtain ⟨rest, hrest⟩ := ihl q.lower
    rw [Subdivision.pieces, List.flatMap_append, hrest, c.start_lower]
    exact ⟨_, rfl⟩

theorem Cubic.head?_polyline (c : Cubic α) (t : Subdivision) :
    (c.polyline (t.pieces .unit)).head? = some c.p0 := by
  obtain ⟨rest, hrest⟩ := c.exists_points_eq_cons t .unit
  rw [polyline, hrest]
  rfl

theorem Cubic.getLast?_polyline (c : Cubic α) (l : List Piece) : (c.polyline l).getLast? = some c.p3 :=
  List.getLast?_concat

/-- The points of a piece stay where it is cut up further. -/
theorem Subdivision.Coarser.points_sublist (h : Coarser t t') (c : Cubic α) (q : Piece) :
    ((t.pieces q).flatMap fun r => [c.start r, c.middle r]).Sublist
      ((t'.pieces q).flatMap fun r => [c.start r, c.middle r]) := by
  induction h generalizing q with
  | @kept t' =>
    cases t' with
    | kept => exact List.Sublist.refl _
    | halved l u =>
      obtain ⟨lower, hlower⟩ := c.exists_points_eq_cons l q.lower
      obtain ⟨upper, hupper⟩ := c.exists_points_eq_cons u q.upper
      rw [pieces, pieces, List.flatMap_append, hlower, hupper, c.start_lower, c.start_upper]
      have hstart : [c.start q].Sublist (c.start q :: lower) := List.singleton_sublist.2 List.mem_cons_self
      have hmiddle : [c.middle q].Sublist (c.middle q :: upper) := List.singleton_sublist.2 List.mem_cons_self
      exact hstart.append hmiddle
  | halved _ _ ihl ihu =>
    rw [pieces, pieces, List.flatMap_append, List.flatMap_append]
    exact (ihl q.lower).append (ihu q.upper)

theorem Subdivision.Coarser.polyline_sublist (h : Coarser t t') (c : Cubic α) :
    (c.polyline (t.pieces .unit)).Sublist (c.polyline (t'.pieces .unit)) :=
  (h.points_sublist c .unit).append (List.Sublist.refl _)

end

section
variable [BEq α] [LE α] [DecidableLE α] [LT α] [Euclidean α]
variable {tolerance tolerance' epsilon : α} {c : Cubic α} {q : Piece}

theorem Cubic.Bends.mono (htolerance : ∀ d : α, tolerance < d → tolerance' < d)
    (h : c.Bends tolerance epsilon q) : c.Bends tolerance' epsilon q := by
  obtain ⟨⟨d, hd, hlt⟩, hchord⟩ := h
  exact ⟨⟨d, hd, htolerance d hlt⟩, hchord⟩

variable [DecidableLT α] {f f' : Flattening α} {t t' : Subdivision}

theorem Flattening.Subdivides.coarser (h : f.Subdivides c q t) (h' : f'.Subdivides c q t')
    (hsplits : ∀ r, f.splitsPiece c r = .ok true → f'.splitsPiece c r = .ok true) : t.Coarser t' := by
  induction h generalizing t' with
  | kept => exact .kept
  | halved h _ _ ihl ihu =>
    cases h' with
    | kept h' => cases h'.symm.trans (hsplits _ h)
    | halved _ hl' hu' => exact .halved (ihl hl') (ihu hu')

/-- What is split stays split by settings at least as fine. -/
theorem Flattening.splitsPiece_mono {maxDepth maxDepth' minDepth minDepth' : Int} (he : CoversZero epsilon)
    (htolerance : ∀ d : α, tolerance < d → tolerance' < d) (hmax : maxDepth ≤ maxDepth')
    (hmin : minDepth ≤ minDepth')
    (h : (ofLimits tolerance maxDepth minDepth epsilon).splitsPiece c q = .ok true) :
    (ofLimits tolerance' maxDepth' minDepth' epsilon).splitsPiece c q = .ok true := by
  obtain ⟨b, hb⟩ := (isSound_ofLimits tolerance' maxDepth' minDepth' he).exists_splits q.level
    (c.middle q) (c.start q) (c.stop q)
  have hsplit : b = true := (splitsPiece_ofLimits hb).2 <| by
    rcases (splitsPiece_ofLimits h).1 rfl with hlevel | ⟨hlevel, hbends⟩
    · exact .inl (by omega)
    · exact .inr ⟨by omega, hbends.mono htolerance⟩
  exact hsplit ▸ hb

end

/-- **Finer settings only refine.** Lowering the tolerance or raising a depth
limit keeps every point of the polyline of a cubic and their order, the first
and the last of them included: it only puts points in between. -/
theorem Cubic.flatten_refines (c : Cubic Float) {tolerance tolerance' epsilon : Float}
    {maxDepth maxDepth' minDepth minDepth' : Int} (he : 0 ≤ epsilon) (htolerance : tolerance' ≤ tolerance)
    (hmax : maxDepth ≤ maxDepth') (hmin : minDepth ≤ minDepth') :
    ∃ coarse fine : List (Point Float),
      c.flatten (.ofLimits tolerance maxDepth minDepth epsilon) = .ok coarse ∧
      c.flatten (.ofLimits tolerance' maxDepth' minDepth' epsilon) = .ok fine ∧
      coarse.Sublist fine ∧ coarse.length ≤ fine.length ∧
      coarse.head? = some c.p0 ∧ fine.head? = some c.p0 ∧
      coarse.getLast? = some c.p3 ∧ fine.getLast? = some c.p3 := by
  have hcovers := coversZero_of_nonneg he
  obtain ⟨t, ht⟩ := (Flattening.isSound_ofLimits tolerance maxDepth minDepth hcovers).exists_subdivides c .unit
  obtain ⟨t', ht'⟩ := (Flattening.isSound_ofLimits tolerance' maxDepth' minDepth' hcovers).exists_subdivides
    c .unit
  have hcoarser : t.Coarser t' := ht.coarser ht' fun r hr =>
    Flattening.splitsPiece_mono hcovers (fun _ hlt => Binary64.lt_of_le_of_lt htolerance hlt) hmax hmin hr
  have hsublist := hcoarser.polyline_sublist c
  exact ⟨_, _, ht.flatten_eq, ht'.flatten_eq, hsublist, hsublist.length_le, c.head?_polyline t,
    c.head?_polyline t', c.getLast?_polyline _, c.getLast?_polyline _⟩

/-- A tenth of the default tolerance, and one more halving at either end. -/
theorem Cubic.flatten_arch_refines :
    let arch : Cubic Float := ⟨⟨0, 0⟩, ⟨0, 10⟩, ⟨10, 10⟩, ⟨10, 0⟩⟩
    (0 : Float) ≤ 1e-12 ∧ (0.001 : Float) ≤ 0.01 ∧ ∃ coarse fine : List (Point Float),
      arch.flatten (.ofLimits 0.01 10 3 1e-12) = .ok coarse ∧
      arch.flatten (.ofLimits 0.001 11 4 1e-12) = .ok fine ∧
      coarse.Sublist fine ∧ coarse.head? = fine.head? ∧ coarse.getLast? = fine.getLast? := by
  intro arch
  have hepsilon : (0 : Float) ≤ 1e-12 := by decide +kernel
  have htolerance : (0.001 : Float) ≤ 0.01 := by decide +kernel
  have hmax : (10 : Int) ≤ 11 := by decide
  have hmin : (3 : Int) ≤ 4 := by decide
  obtain ⟨coarse, fine, hcoarse, hfine, hsublist, -, hhead, hhead', hlast, hlast'⟩ :=
    arch.flatten_refines hepsilon htolerance hmax hmin
  exact ⟨hepsilon, htolerance, coarse, fine, hcoarse, hfine, hsublist, hhead.trans hhead'.symm,
    hlast.trans hlast'.symm⟩

end PlotDigitizer
