/-
A drawing under an affine map.

In exact arithmetic a map that is put before a drawing acts on the drawing as a
whole: every point that is drawn goes where the map takes it
(`extractPaths_image`). Whatever the drawing saves, restores and changes, the
map in force stays the one that would be in force without it, followed by the
new one. The one point that no map acts on is the origin, from which a curve is
drawn where there is no pen to draw it from.
-/
import PlotDigitizer.Proofs.Drawing.Polyline
import PlotDigitizer.Proofs.Drawing.Trace
import PlotDigitizer.Proofs.Plane.Affine

namespace PlotDigitizer

variable {α : Type}

/-! ## Images -/

/-- A command with all its points mapped. -/
def Command.map (f : Point α → Point α) : Command α → Command α
  | .move p => .move (f p)
  | .line p => .line (f p)
  | .cubic c₁ c₂ p => .cubic (f c₁) (f c₂) (f p)
  | .close => .close

/-- A path with all its points mapped. -/
def Path.map (f : Point α → Point α) (p : Path α) : Path α := ⟨p.commands.map (.map f), p.paint⟩

def Action.map (f : Point α → Point α) : Action α → Action α
  | .emit op c => .emit op (c.map f)
  | a => a

section
variable [Add α] [Mul α]

/-- A canvas with everything on it mapped. -/
def Canvas.image (m : Affine α) (s : Canvas α) : Canvas α where
  ctm := m.comp s.ctm
  saved := s.saved.map m.comp
  current := s.current.map (.map m.apply)
  paths := s.paths.map (.map m.apply)
  pen := s.pen.map m.apply
  start := s.start.map m.apply

/-- There is a pen to draw a curve from. -/
def HasPen (s : Canvas α) (a : Action α) : Prop := ∀ c, a = .emit .curveFromPen c → s.pen ≠ none

namespace Canvas

theorem emit_image (m : Affine α) (s : Canvas α) (c : Command α) :
    (s.image m).emit (c.map m.apply) = (s.emit c).image m := by
  cases c with
  | move p => simp [emit, image, Command.map, Command.stop?]
  | line p => simp [emit, image, Command.map, Command.stop?]
  | cubic c₁ c₂ p => simp [emit, image, Command.map, Command.stop?]
  | close => cases hs : s.start <;> simp [emit, image, Command.map, hs]

theorem paint_image (m : Affine α) (s : Canvas α) (p : Paint) :
    (s.image m).paint p = (s.paint p).image m := by
  by_cases h : s.current = #[]
  · simp [paint, image, h]
  · simp [paint, image, h, Path.map]

end Canvas
end

section
variable [CommRing α]

theorem Canvas.act_image (m : Affine α) (s : Canvas α) (a : Action α) :
    (s.image m).act (a.map m.apply) = (s.act a).image m := by
  cases a with
  | save => simp [act, image, Action.map]
  | restore => cases hs : s.saved <;> simp [act, image, Action.map, Affine.restore, hs]
  | change t => simp [act, image, Action.map, Affine.comp_assoc]
  | emit op c => exact emit_image m s c
  | paint p => exact paint_image m s p

variable [Reading α]

theorem Affine.locate_comp (m t : Affine α) (x y : Value α) :
    (m.comp t).locate x y = m.apply <$> t.locate x y := by
  simp [locate, apply_comp]

theorem Value.curveEnds_comp (m t : Affine α) (args : Value α) :
    args.curveEnds (m.comp t) = (fun q => (m.apply q.1, m.apply q.2)) <$> args.curveEnds t := by
  simp [curveEnds, Affine.locate_comp]

/-- A path operator draws the images of the commands it draws without the map. -/
theorem PathOperator.attempts_comp {op : PathOperator} (h : op ≠ .curveFromPen) (m t : Affine α)
    (pen pen' : Option (Point α)) (args : Value α) :
    op.attempts (m.comp t) pen' args = (op.attempts t pen args).map (Command.map m.apply <$> ·) := by
  cases op with
  | curveFromPen => exact absurd rfl h
  | move => simp [attempts, Affine.locate_comp, Command.map]
  | line => simp [attempts, Affine.locate_comp, Command.map]
  | curve => simp [attempts, Affine.locate_comp, Command.map]
  | curveToEnd => simp [attempts, Affine.locate_comp, Command.map]
  | close => rfl
  | rectangle =>
    simp only [attempts]
    split
    · rfl
    · simp [Affine.locate_comp, Command.map]

theorem untilFailure_map {ε β γ : Type} (f : β → γ) (xs : List (Except ε β)) :
    untilFailure (xs.map (f <$> ·)) = ((untilFailure xs).1.map f, (untilFailure xs).2) := by
  induction xs with
  | nil => rfl
  | cons x xs ih =>
    cases x with
    | error e => rfl
    | ok b =>
      have hb : f <$> (.ok b : Except ε β) = .ok (f b) := rfl
      simp only [List.map_cons, hb, untilFailure, ih]

/-! ## One stream without the map and with it -/

theorem sideBySide_image (m : Affine α) :
    SideBySide (fun s t => t = s.image m) (fun a b => b = a.map m.apply) HasPen where
  act h hq := by rw [h, hq, Canvas.act_image]
  isOpen h := by simp [h, Canvas.image, Array.isEmpty]
  save := rfl
  restore := rfl
  change _ := rfl
  paint _ := rfl
  close := rfl
  draw {s t} op args h hG := by
    subst h
    by_cases hop : op = .curveFromPen
    · subst hop
      rw [traceDraw_curveFromPen] at hG
      rw [traceDraw_curveFromPen, traceDraw_curveFromPen]
      have hends : args.curveEnds (s.image m).ctm = _ := Value.curveEnds_comp m s.ctm args
      rw [hends]
      cases hq : args.curveEnds s.ctm with
      | error e => exact ⟨.nil, rfl⟩
      | ok q =>
        rw [hq] at hG
        obtain ⟨p, hp⟩ := Option.ne_none_iff_exists'.1 (hG.1 _ rfl)
        refine ⟨.cons ?_ .nil, rfl⟩
        simp [Action.map, Command.map, Canvas.image, hp]
    · have hattempts := PathOperator.attempts_comp hop m s.ctm s.pen (s.image m).pen args
      have hdraw : (s.image m).traceDraw op args
          = ((s.traceDraw op args).1.map (Action.map m.apply), (s.traceDraw op args).2) := by
        have hctm : (s.image m).ctm = m.comp s.ctm := rfl
        rw [Canvas.traceDraw, Canvas.traceDraw, hctm, hattempts, untilFailure_map]
        simp only [List.map_map]
        rfl
      rw [hdraw]
      exact ⟨List.forall₂_map_right_iff.2 (List.forall₂_same.2 fun a _ => rfl), rfl⟩

/-- A stream leaves the image of what it leaves without the map. -/
theorem processAll_image (m : Affine α) (s : Canvas α) (items : List (Value α))
    (hpen : Throughout HasPen s (Canvas.trace items s).1) :
    Canvas.processAll items (s.image m)
      = ((Canvas.processAll items s).1.image m, (Canvas.processAll items s).2) := by
  have h := (sideBySide_image m).trace rfl hpen
  rw [processAll_eq_outcome, processAll_eq_outcome]
  exact Prod.ext ((sideBySide_image m).after rfl h.1) h.2.symm

/-! ## A map before the drawing -/

theorem processAll_cons {item : Value α} {s t : Canvas α}
    (h : Canvas.processAll [item] s = (t, none)) (items : List (Value α)) :
    Canvas.processAll (item :: items) s = Canvas.processAll items t := by
  simp only [Canvas.processAll] at h ⊢
  cases hitem : item.unpack.bind Value.two with
  | error e => simp [hitem] at h
  | ok pair =>
    obtain ⟨r, e, hr⟩ : ∃ r e, s.process pair.1 pair.2 = (r, e) := ⟨_, _, rfl⟩
    simp only [hitem, hr] at h ⊢
    cases e with
    | some e => simp at h
    | none => simp_all

/-- **A map before a drawing acts on all of it.** If the drawing never draws a
curve from a pen that is not there, its paths with the map are the images of
its paths without. -/
theorem extractPaths_image (m : Affine α) {stream head : Value α} {items : List (Value α)}
    {paths : List (Path α)} (hi : stream.iterate = .ok items) (hhead : head.Spells (.transform m))
    (hpen : ∀ before c rest, (Canvas.trace items .empty).1 = before ++ .emit .curveFromPen c :: rest →
      (Canvas.empty.after before).pen ≠ none)
    (h : extractPaths stream = .ok paths) :
    extractPaths (.list (head :: items)) = .ok (paths.map (.map m.apply)) := by
  have hfirst : Canvas.processAll [head] .empty = ((Canvas.empty : Canvas α).image m, none) := by
    have himage : (Canvas.empty : Canvas α).image m = { Canvas.empty with ctm := (1 : Affine α).comp m } := by
      simp [Canvas.image, Canvas.empty, Affine.one_comp, Affine.comp_one]
    rw [himage]
    exact processAll_canvas_iff.2 ⟨_, tells_transform hhead .empty, rfl⟩
  have hpen' : Throughout HasPen .empty (Canvas.trace items .empty).1 :=
    throughout_iff.2 fun before a rest has c hc => hpen before c rest (hc ▸ has)
  have hrest := processAll_image m .empty items hpen'
  have hi' : (Value.list (head :: items)).iterate = .ok (head :: items) := rfl
  simp only [extractPaths, Canvas.replay, hi] at h
  simp only [extractPaths, Canvas.replay, hi', processAll_cons hfirst, hrest]
  obtain ⟨s, e, hs⟩ : ∃ s e, Canvas.processAll items .empty = (s, e) := ⟨_, _, rfl⟩
  rw [hs] at h ⊢
  cases e with
  | some e => simp at h
  | none =>
    simp only [Except.ok.injEq] at h ⊢
    rw [Canvas.finish, Canvas.paint_image, ← h]
    simp [Canvas.image, Canvas.finish]

end

/-! ### A curve and a rectangle, doubled and shifted -/

section

/-- Whole numbers as they are, and no others. -/
local instance wholeReading : Reading ℤ where
  ofInt? n := some n
  ofText? _ := none
  isFinite _ := true
  undefined := 0

/-- The map that doubles all lengths and shifts by seven and one. -/
def doubling : Value ℤ := .numbered "cm" [2, 0, 0, 2, 7, 1]

/-- A curve from the pen under a map of its own, and a rectangle after one
restore too many. -/
def sketch : List (Value ℤ) := [
  .numbered "q" [], .numbered "cm" [1, 0, 0, -1, 5, 0], .numbered "m" [1, 2], .numbered "v" [3, 4, 5, 6],
  .numbered "Q" [], .numbered "Q" [], .numbered "S" [], .numbered "re" [0, 0, 2, 1], .numbered "f" []]

theorem sketch_image : (Value.list sketch).iterate = .ok sketch ∧
    doubling.Spells (.transform ⟨2, 0, 0, 2, 7, 1⟩) ∧
    (∀ before c rest, (Canvas.trace sketch .empty).1 = before ++ .emit .curveFromPen c :: rest →
      (Canvas.empty.after before).pen ≠ none) ∧
    extractPaths (.list sketch) = .ok [
      ⟨[.move ⟨6, -2⟩, .cubic ⟨6, -2⟩ ⟨8, -4⟩ ⟨10, -6⟩], .stroke⟩,
      ⟨[.move ⟨0, 0⟩, .line ⟨2, 0⟩, .line ⟨2, 1⟩, .line ⟨0, 1⟩, .close], .fill⟩] ∧
    extractPaths (.list (doubling :: sketch)) = .ok [
      ⟨[.move ⟨19, -3⟩, .cubic ⟨19, -3⟩ ⟨23, -7⟩ ⟨27, -11⟩], .stroke⟩,
      ⟨[.move ⟨7, 1⟩, .line ⟨11, 1⟩, .line ⟨11, 3⟩, .line ⟨7, 3⟩, .close], .fill⟩] := by
  have hspells : doubling.Spells (.transform ⟨2, 0, 0, 2, 7, 1⟩) := by
    refine ⟨_, _, rfl, rfl, _, rfl, ?_⟩
    refine .cons rfl (.cons rfl (.cons rfl (.cons rfl (.cons rfl (.cons rfl .nil)))))
  have hpen : ∀ before c rest, (Canvas.trace sketch .empty).1 = before ++ .emit .curveFromPen c :: rest →
      (Canvas.empty.after before).pen ≠ none := by
    have htrace : (Canvas.trace sketch .empty).1 = [.save, .change ⟨1, 0, 0, -1, 5, 0⟩,
        .emit .move (.move ⟨6, -2⟩), .emit .curveFromPen (.cubic ⟨6, -2⟩ ⟨8, -4⟩ ⟨10, -6⟩),
        .restore, .restore, .paint .stroke, .emit .rectangle (.move ⟨0, 0⟩),
        .emit .rectangle (.line ⟨2, 0⟩), .emit .rectangle (.line ⟨2, 1⟩),
        .emit .rectangle (.line ⟨0, 1⟩), .emit .rectangle .close, .paint .fill] := rfl
    have hall : Throughout HasPen .empty (Canvas.trace sketch .empty).1 := by
      rw [htrace]
      simp [Throughout, HasPen, Canvas.act, Canvas.emit, Command.stop?]
    intro before c rest h
    exact throughout_iff.1 hall before _ rest h c rfl
  have hpaths : extractPaths (.list sketch) = .ok [
      ⟨[.move ⟨6, -2⟩, .cubic ⟨6, -2⟩ ⟨8, -4⟩ ⟨10, -6⟩], .stroke⟩,
      ⟨[.move ⟨0, 0⟩, .line ⟨2, 0⟩, .line ⟨2, 1⟩, .line ⟨0, 1⟩, .close], .fill⟩] := rfl
  have himage := extractPaths_image ⟨2, 0, 0, 2, 7, 1⟩ rfl hspells hpen hpaths
  exact ⟨rfl, hspells, hpen, hpaths, himage.trans rfl⟩

end
end PlotDigitizer
