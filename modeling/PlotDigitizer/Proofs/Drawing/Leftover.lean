/-
What a painted path leaves to the drawing after it.

Painting ends a path, and leaves the pen where it is, with the start of the
sub-path it drew. So two canvases with the same maps and no path open may
differ in their pens. A stream is stopped by the same operator on both, or adds
paths to both that differ in one thing at most: where the first control point
of a curve from the pen lies. It draws alike on them exactly if the pens meet
wherever it draws such a curve (`drawsAlike_iff`); every move makes them meet.
-/
import PlotDigitizer.Number.Double
import PlotDigitizer.Proofs.Drawing.Trace

namespace PlotDigitizer

section
variable {α : Type}

/-- Actions that differ in the first control point of a curve from the pen at
most. -/
inductive Action.Alike : Action α → Action α → Prop
  | same (a) : Alike a a
  | fromPen (c d c₂ p) :
      Alike (.emit .curveFromPen (.cubic c c₂ p)) (.emit .curveFromPen (.cubic d c₂ p))

/-- Alike actions that draw the same commands are the same. -/
theorem eq_of_alike {as bs : List (Action α)} (h : List.Forall₂ Action.Alike as bs)
    (hc : Action.commands as = Action.commands bs) : as = bs := by
  induction h with
  | nil => rfl
  | @cons a b as bs hq _ ih =>
    cases hq with
    | same =>
      cases a with
      | emit op c => rw [ih (List.cons.inj hc).2]
      | save | restore | change | paint => rw [ih hc]
    | fromPen c d c₂ p =>
      obtain ⟨hcd, hrest⟩ := List.cons.inj hc
      rw [hcd, ih hrest]

/-- Whether a move comes before every curve from the pen. -/
def Action.moveFirst : List (Action α) → Bool
  | [] => true
  | .emit .curveFromPen _ :: _ => false
  | .emit _ (.move _) :: _ => true
  | _ :: as => moveFirst as

theorem exists_move_of_moveFirst {as before rest : List (Action α)} {c : Command α}
    (h : Action.moveFirst as = true) (has : as = before ++ .emit .curveFromPen c :: rest) :
    ∃ op p, .emit op (.move p) ∈ before := by
  subst has
  induction before with
  | nil => simp [Action.moveFirst] at h
  | cons a before ih =>
    rw [List.cons_append] at h
    unfold Action.moveFirst at h
    split at h
    · rename_i hnil
      simp at hnil
    · simp at h
    · rename_i op p _ _ hcons
      obtain ⟨rfl, -⟩ := List.cons.inj hcons
      exact ⟨op, p, List.mem_cons_self⟩
    · rename_i hcons
      obtain ⟨rfl, rfl⟩ := List.cons.inj hcons
      obtain ⟨op, p, hmem⟩ := ih h
      exact ⟨op, p, List.mem_cons_of_mem _ hmem⟩

namespace Canvas

/-- Canvases that differ in their pens and paths at most. -/
structure SameMaps (s t : Canvas α) : Prop where
  ctm : s.ctm = t.ctm
  saved : s.saved = t.saved
  size : s.current.size = t.current.size

section
variable [Add α] [Mul α] {s t : Canvas α}

/-- What actions add to the paths depends on the open path only. -/
theorem exists_paths_after (as : List (Action α)) (h : s.current = t.current) :
    ∃ new, (s.after as).paths = s.paths ++ new ∧ (t.after as).paths = t.paths ++ new ∧
      (s.after as).current = (t.after as).current := by
  induction as generalizing s t with
  | nil => exact ⟨#[], by simp, by simp, h⟩
  | cons a as ih =>
    rw [after_cons, after_cons]
    cases a with
    | emit op c => exact ih (s := s.emit c) (t := t.emit c) (by simp [h])
    | save | restore | change => exact ih (s := s.act _) (t := t.act _) h
    | paint p =>
      obtain ⟨new, hs, ht, hc⟩ := ih (s := s.paint p) (t := t.paint p) (by simp)
      by_cases he : t.current.isEmpty
      · simp only [act, paint, h, he, if_true] at hs ht hc ⊢
        exact ⟨new, hs, ht, hc⟩
      · refine ⟨#[⟨t.current.toList, p⟩] ++ new, ?_, ?_, hc⟩
        · rw [act, hs]
          simp [paint, h, he]
        · rw [act, ht]
          simp [paint, he]

/-- After a move both pens are where it went. -/
theorem pen_after_of_move {as : List (Action α)} {op : PathOperator} {p : Point α}
    (h : .emit op (.move p) ∈ as) : (s.after as).pen = (t.after as).pen := by
  have hmem : .move p ∈ Action.commands as := List.mem_filterMap.2 ⟨_, h, rfl⟩
  have hhand : (s.after as).hand = (t.after as).hand := by
    rw [hand_after, hand_after]
    exact foldl_follow_of_move hmem _ _
  exact congrArg Pen.point hhand

variable [Zero α]

/-- The pens of two canvases meet wherever actions draw a curve from the pen. A
pen that has not drawn yet counts as one at the origin. -/
def Meets (s t : Canvas α) (as : List (Action α)) : Prop :=
  ∀ before c rest, as = before ++ .emit .curveFromPen c :: rest →
    (s.after before).pen.getD .origin = (t.after before).pen.getD .origin

/-- Alike actions are the same if the pens meet. -/
theorem eq_of_meets {as bs : List (Action α)} (h : List.Forall₂ Action.Alike as bs)
    (hs : Throughout FromPen s as) (ht : Throughout FromPen t bs) (hm : s.Meets t as) : as = bs := by
  induction h generalizing s t with
  | nil => rfl
  | @cons a b as bs hq _ ih =>
    have hab : a = b := by
      cases hq with
      | same => rfl
      | fromPen c d c₂ p =>
        obtain ⟨_, _, hc⟩ := hs.1 _ rfl
        obtain ⟨_, _, hd⟩ := ht.1 _ rfl
        have hpens := hm [] _ as rfl
        rw [after_nil, after_nil] at hpens
        rw [(Command.cubic.inj hc).1, (Command.cubic.inj hd).1, hpens]
    subst hab
    refine congrArg (a :: ·) (ih hs.2 ht.2 fun before c rest has => ?_)
    exact hm (a :: before) c rest (by rw [has]; rfl)

theorem meets_of_moveFirst {as : List (Action α)} (h : Action.moveFirst as = true) : s.Meets t as := by
  intro before c rest has
  obtain ⟨op, p, hmove⟩ := exists_move_of_moveFirst h has
  rw [pen_after_of_move hmove]

end
end Canvas

theorem PathOperator.attempts_of_ne [Zero α] [Add α] [Mul α] [Reading α] {op : PathOperator}
    (h : op ≠ .curveFromPen) (ctm : Affine α) (pen pen' : Option (Point α)) (args : Value α) :
    op.attempts ctm pen args = op.attempts ctm pen' args := by
  cases op with
  | curveFromPen => exact absurd rfl h
  | move | line | curve | curveToEnd | close | rectangle => rfl

end

section
variable {α : Type} [Zero α] [Add α] [Mul α] [Reading α]

namespace Canvas

/-- The paths that a stream adds to those of a canvas. Of commands that are not
painted by its end they have one as well. -/
def added (s : Canvas α) (items : List (Value α)) : List (Path α) :=
  (processAll items s).1.finish.paths.toList.drop s.paths.size

/-- A stream draws alike on two canvases: the same operator stops it on both, or
it adds the same paths to both. -/
structure DrawsAlike (s t : Canvas α) (items : List (Value α)) : Prop where
  stopped (n : Nat) : (processAll (items.take n) s).2 = (processAll (items.take n) t).2
  added : (processAll items s).2 = none → s.added items = t.added items

variable {s t : Canvas α}

/-! ## The paths that are added -/

/-- Finishing paints what is left open. -/
theorem finish_processAll (items : List (Value α)) (s : Canvas α) :
    (processAll items s).1.finish = s.after ((trace items s).1 ++ [.paint .unknown]) := by
  rw [processAll_eq_outcome, after_append]
  rfl

/-- A stream leaves the paths there are, and adds to them. -/
theorem paths_finish (items : List (Value α)) (s : Canvas α) :
    (processAll items s).1.finish.paths.toList = s.paths.toList ++ s.added items := by
  obtain ⟨new, h, -, -⟩ :=
    exists_paths_after ((trace items s).1 ++ [.paint .unknown]) (rfl : s.current = s.current)
  rw [← finish_processAll] at h
  simp [added, h]

theorem added_of_trace_eq {items : List (Value α)} (h : s.current = t.current)
    (htrace : (trace items s).1 = (trace items t).1) : s.added items = t.added items := by
  obtain ⟨new, hs, ht, -⟩ := exists_paths_after ((trace items s).1 ++ [.paint .unknown]) h
  rw [← finish_processAll] at hs
  rw [htrace, ← finish_processAll] at ht
  simp [added, hs, ht]

/-- The commands of the paths that are added are those drawn. -/
theorem commands_added (hs : s.current = #[]) (items : List (Value α)) :
    (s.added items).flatMap (·.commands) = Action.commands (trace items s).1 := by
  have hdrawn := drawn_after s ((trace items s).1 ++ [.paint .unknown])
  have hopen : (s.after ((trace items s).1 ++ [.paint .unknown])).current = #[] := by
    rw [← finish_processAll]
    exact paint_current _ _
  rw [drawn, drawn, hopen, hs, ← finish_processAll, paths_finish,
    Action.commands_append_paint] at hdrawn
  simpa using hdrawn

/-! ## Two canvases with the same maps -/

theorem sideBySide_sameMaps :
    SideBySide (SameMaps (α := α)) Action.Alike fun _ _ => True where
  act {s t a b} h hq := by
    cases hq with
    | same =>
      cases a with
      | save => exact ⟨h.ctm, by simp [act, h.ctm, h.saved], h.size⟩
      | restore => exact ⟨by simp [act, h.ctm, h.saved], by simp [act, h.ctm, h.saved], h.size⟩
      | change m => exact ⟨by simp [act, h.ctm], h.saved, h.size⟩
      | emit op c => exact ⟨h.ctm, h.saved, by simp [act, h.size]⟩
      | paint p => exact ⟨by simp [act, h.ctm], by simp [act, h.saved], by simp [act]⟩
    | fromPen c d c₂ p => exact ⟨h.ctm, h.saved, by simp [act, h.size]⟩
  isOpen h := by simp [Array.isEmpty, h.size]
  save := .same _
  restore := .same _
  change _ := .same _
  paint _ := .same _
  close := .same _
  draw {s t} op args h _ := by
    by_cases hop : op = .curveFromPen
    · subst hop
      rw [traceDraw_curveFromPen, traceDraw_curveFromPen, h.ctm]
      split
      · exact ⟨.nil, rfl⟩
      · exact ⟨.cons (.fromPen _ _ _ _) .nil, rfl⟩
    · have htrace : s.traceDraw op args = t.traceDraw op args := by
        rw [traceDraw, traceDraw, h.ctm, PathOperator.attempts_of_ne hop]
      rw [htrace]
      exact ⟨List.forall₂_same.2 fun a _ => .same a, rfl⟩

/-- The actions of a stream are the same on both canvases exactly if the pens
meet. -/
theorem trace_eq_iff (h : SameMaps s t) (items : List (Value α)) :
    (trace items s).1 = (trace items t).1 ↔ s.Meets t (trace items s).1 := by
  have hs := lawful_fromPen.trace items s
  have ht := lawful_fromPen.trace items t
  constructor
  · intro htrace before c rest has
    obtain ⟨_, _, hc⟩ := throughout_iff.1 hs before _ rest has c rfl
    obtain ⟨_, _, hd⟩ := throughout_iff.1 ht before _ rest (htrace ▸ has) c rfl
    exact (Command.cubic.inj (hc.symm.trans hd)).1
  · exact eq_of_meets (sideBySide_sameMaps.trace h (throughout_true _ _)).1 hs ht

theorem added_eq_iff (h : SameMaps s t) (hs : s.current = #[]) (ht : t.current = #[])
    (items : List (Value α)) : s.added items = t.added items ↔ s.Meets t (trace items s).1 := by
  rw [← trace_eq_iff h]
  constructor
  · intro hadded
    refine eq_of_alike (sideBySide_sameMaps.trace h (throughout_true _ _)).1 ?_
    rw [← commands_added hs, ← commands_added ht, hadded]
  · exact added_of_trace_eq (hs.trans ht.symm)

/-- **What is left of a painted path.** On two canvases with the same maps and
no path open a stream is stopped by the same operator, and draws alike exactly
if it is stopped or the pens meet wherever it draws a curve from the pen. That
is so, whatever the pens are, if a move comes before every such curve. -/
theorem drawsAlike_iff (hctm : s.ctm = t.ctm) (hsaved : s.saved = t.saved) (hs : s.current = #[])
    (ht : t.current = #[]) (items : List (Value α)) :
    (∀ n, (processAll (items.take n) s).2 = (processAll (items.take n) t).2) ∧
    (s.DrawsAlike t items ↔ ((processAll items s).2 = none → s.Meets t (trace items s).1)) ∧
    (Action.moveFirst (trace items s).1 = true → s.DrawsAlike t items) := by
  have hmaps : SameMaps s t := ⟨hctm, hsaved, by rw [hs, ht]⟩
  have hstop (n : Nat) : (processAll (items.take n) s).2 = (processAll (items.take n) t).2 := by
    rw [processAll_eq_outcome, processAll_eq_outcome]
    exact (sideBySide_sameMaps.trace hmaps (throughout_true _ _)).2
  refine ⟨hstop, ⟨fun h hnone => ?_, fun h => ⟨hstop, fun hnone => ?_⟩⟩, fun h => ⟨hstop, fun _ => ?_⟩⟩
  · exact (added_eq_iff hmaps hs ht items).1 (h.added hnone)
  · exact (added_eq_iff hmaps hs ht items).2 (h hnone)
  · exact (added_eq_iff hmaps hs ht items).2 (meets_of_moveFirst h)

end Canvas
end

/-! ### A curve from the pen of a painted path -/

namespace Canvas

/-- A canvas with one point painted. -/
def dotted : Canvas Float := (processAll [.numbered "m" [5, 5], .numbered "S" []] .empty).1

def curved : List (Value Float) := [.numbered "v" [1, 1, 2, 2], .numbered "S" []]

theorem drawsAlike_dotted : (empty : Canvas Float).ctm = dotted.ctm ∧
    (empty : Canvas Float).saved = dotted.saved ∧ (empty : Canvas Float).current = #[] ∧
    dotted.current = #[] ∧ Action.moveFirst (trace (.numbered "m" [0, 0] :: curved) .empty).1 = true ∧
    empty.DrawsAlike dotted (.numbered "m" [0, 0] :: curved) := by
  have hmove : Action.moveFirst (trace (.numbered "m" [0, 0] :: curved) .empty).1 = true := by
    decide +kernel
  exact ⟨rfl, rfl, rfl, rfl, hmove,
    (drawsAlike_iff (s := .empty) (t := dotted) rfl rfl rfl rfl _).2.2 hmove⟩

/-- The curve begins with a control point at the painted point, and without it
at the origin. -/
theorem dotted_not_drawsAlike : Reachable (empty : Canvas Float) ∧ dotted.Reachable ∧
    (empty : Canvas Float).ctm = dotted.ctm ∧ (empty : Canvas Float).saved = dotted.saved ∧
    (empty : Canvas Float).current = #[] ∧ dotted.current = #[] ∧
    (empty : Canvas Float).added curved = [⟨[.cubic ⟨0, 0⟩ ⟨1, 1⟩ ⟨2, 2⟩], .stroke⟩] ∧
    dotted.added curved = [⟨[.cubic ⟨5, 5⟩ ⟨1, 1⟩ ⟨2, 2⟩], .stroke⟩] ∧
    ¬empty.DrawsAlike dotted curved := by
  have hempty : (empty : Canvas Float).added curved = [⟨[.cubic ⟨0, 0⟩ ⟨1, 1⟩ ⟨2, 2⟩], .stroke⟩] := by
    decide +kernel
  have hdotted : dotted.added curved = [⟨[.cubic ⟨5, 5⟩ ⟨1, 1⟩ ⟨2, 2⟩], .stroke⟩] := by
    decide +kernel
  have hreach : dotted.Reachable :=
    ⟨[.process (.text "m") (.list [.int 5, .int 5]), .process (.text "S") (.list [])], rfl⟩
  refine ⟨⟨[], rfl⟩, hreach, rfl, rfl, rfl, rfl, hempty, hdotted, fun h => ?_⟩
  have hsame := h.added (by decide +kernel)
  rw [hempty, hdotted] at hsame
  exact absurd hsame (by decide +kernel)

end Canvas
end PlotDigitizer
