/-
The pen of a drawing, read off all that was drawn.

Beside the commands drawn so far a canvas keeps the pen and the start of its
sub-path, and moves them with each command. Whatever is called on it, and wherever
a call is stopped, they are what the commands make of them (`Canvas.pen_of_drawn`):
the start is the last move, and the pen rests where the commands leave it
(`resting?`), whether their paths are finished or one is open.

A canvas has no path open if the open one has no commands. A draft (`Draft`) tells
these two apart: it begins a path with the first command drawn, and could have
begun one that has none. No call leaves it with such a path, and it has the paths
of the canvas (`Drafted.shows`).
-/
import Mathlib.Data.Option.Basic
import PlotDigitizer.Number.Double
import PlotDigitizer.Proofs.Curve.Pen

namespace PlotDigitizer

section
variable {α : Type}

/-! ## Where commands leave the pen -/

/-- Where commands leave the pen, the last one first. One with a point of its own leaves
it there. Closing takes it to the last move before, and leaves it where it was if
there is none. -/
def restingFrom : List (Command α) → Option (Point α)
  | [] => none
  | .move p :: _ | .line p :: _ | .cubic _ _ p :: _ => some p
  | .close :: before => lastMove? before.reverse <|> restingFrom before

/-- Where commands leave a pen that has drawn nothing before. -/
def resting? (cs : List (Command α)) : Option (Point α) := restingFrom cs.reverse

theorem resting?_append (cs : List (Command α)) (c : Command α) :
    resting? (cs ++ [c]) = match c with
      | .close => lastMove? cs <|> resting? cs
      | c => c.stop? := by
  cases c <;> simp [resting?, restingFrom, Command.stop?]

theorem Pen.point_after (cs : List (Command α)) : (Pen.after cs).point = resting? cs := by
  induction cs using List.reverseRecOn with
  | nil => rfl
  | append_singleton cs c ih =>
    rw [resting?_append, ← ih, ← Pen.start_after, Pen.after_append]
    cases c <;> rfl

/-- The pen has no place exactly if nothing but closing was drawn. -/
theorem resting?_eq_none_iff {cs : List (Command α)} : resting? cs = none ↔ ∀ c ∈ cs, c = .close := by
  induction cs using List.reverseRecOn with
  | nil => simp [resting?, restingFrom]
  | append_singleton cs c ih =>
    rw [resting?_append]
    cases c with
    | move p | line p | cubic c₁ c₂ p => simp [Command.stop?]
    | close =>
      have hmove (h : ∀ c ∈ cs, c = .close) : lastMove? cs = none :=
        List.findSome?_eq_none_iff.2 fun c hc => by rw [h c (List.mem_reverse.1 hc)]
      simp only [Option.orElse_eq_none, ih, List.forall_mem_append, List.forall_mem_singleton, and_true]
      exact and_iff_right_of_imp hmove

/-! ## Drafts -/

/-- The paths of a drawing, the open one by itself: there is none until a command is
drawn, and one that was begun may have no commands. -/
structure Draft (α : Type) where
  current : Option (List (Command α)) := none
  paths : List (Path α) := []

namespace Draft

/-- Draws a command on the open path, and begins one if there is none. -/
def emit (d : Draft α) (c : Command α) : Draft α :=
  { d with current := some (d.current.getD [] ++ [c]) }

/-- Ends the open path. One without commands stays open. -/
def paint (d : Draft α) (p : Paint) : Draft α :=
  match d.current with
  | none | some [] => d
  | some cs => { current := none, paths := d.paths ++ [⟨cs, p⟩] }

/-- Ends the open path, also if it has no commands. -/
def finish (d : Draft α) : Draft α := { d.paint .unknown with current := none }

def act (d : Draft α) : Action α → Draft α
  | .emit _ c => d.emit c
  | .paint p => d.paint p
  | .save | .restore | .change _ => d

theorem paint_of_none {d : Draft α} (h : d.current = none) (p : Paint) : d.paint p = d := by
  simp [paint, h]

theorem paint_of_some {d : Draft α} {cs : List (Command α)} (h : d.current = some cs) (hcs : cs ≠ [])
    (p : Paint) : d.paint p = { current := none, paths := d.paths ++ [⟨cs, p⟩] } := by
  cases cs with
  | nil => exact absurd rfl hcs
  | cons c cs => simp [paint, h]

/-- A draft has the paths of a canvas, and no open path without commands. -/
structure Shows (d : Draft α) (s : Canvas α) : Prop where
  paths : d.paths = s.paths.toList
  commands : d.current.getD [] = s.current.toList
  ne_nil {cs} : d.current = some cs → cs ≠ []

namespace Shows
variable {d : Draft α} {s : Canvas α}

theorem emit (h : d.Shows s) (c : Command α) : (d.emit c).Shows (s.emit c) where
  paths := h.paths
  commands := by simp [Draft.emit, h.commands]
  ne_nil hcs := by
    obtain rfl := Option.some.inj hcs
    simp

theorem paint (h : d.Shows s) (p : Paint) : (d.paint p).Shows (s.paint p) := by
  have hcommands := h.commands.symm
  cases hd : d.current with
  | none =>
    have hnone : s.current.isEmpty = true := by simpa [hd] using hcommands
    rw [Draft.paint_of_none hd, Canvas.paint, if_pos hnone]
    exact h
  | some cs =>
    obtain rfl : s.current.toList = cs := by simpa [hd] using hcommands
    have hsome : ¬s.current.isEmpty = true := by simpa using h.ne_nil hd
    rw [Draft.paint_of_some hd (h.ne_nil hd), Canvas.paint, if_neg hsome]
    exact ⟨by simp [h.paths], rfl, fun h => by cases h⟩

theorem finish (h : d.Shows s) : d.finish.Shows s.finish where
  paths := (h.paint .unknown).paths
  commands := by simp [Draft.finish, Canvas.finish]
  ne_nil hcs := by cases hcs

end Shows
end Draft
end

section
variable {α : Type} [Add α] [Mul α]

/-- A canvas with no empty path, whose pen has drawn what is drawn on it. -/
structure Canvas.FollowsDrawn (s : Canvas α) : Prop where
  ne_nil : ∀ p ∈ s.paths, p.commands ≠ []
  hand : s.hand = Pen.after s.drawn

theorem Canvas.FollowsDrawn.act {s : Canvas α} (h : s.FollowsDrawn) (a : Action α) :
    (s.act a).FollowsDrawn where
  ne_nil := by
    cases a with
    | emit | save | restore | change => exact h.ne_nil
    | paint p =>
      -- Only a paint adds a path, and one that finds no command adds none.
      rw [Canvas.act, paint]
      split
      · exact h.ne_nil
      · have hopen : s.current.toList ≠ [] := by simpa using ‹¬s.current.isEmpty = true›
        intro q hq
        rcases Array.mem_push.1 hq with hq | rfl
        · exact h.ne_nil q hq
        · exact hopen
  hand := by
    rw [← after_nil (s.act a), ← after_cons, hand_after, drawn_after, Pen.after_append, h.hand]

variable [Zero α] [One α]

/-- A canvas and a draft on which the same was done. Resetting them begins anew. -/
inductive Drafted : Canvas α → Draft α → Prop
  | empty : Drafted .empty {}
  | act {s d} (a : Action α) : Drafted s d → Drafted (s.act a) (d.act a)
  | finish {s d} : Drafted s d → Drafted s.finish d.finish

theorem Drafted.shows {s : Canvas α} {d : Draft α} (h : Drafted s d) : d.Shows s := by
  induction h with
  | empty => exact ⟨rfl, rfl, fun h => by cases h⟩
  | act a _ ih =>
    cases a with
    | emit op c => exact ih.emit c
    | paint p => exact ih.paint p
    | save | restore | change => exact ⟨ih.paths, ih.commands, ih.ne_nil⟩
  | finish _ ih => exact ih.finish

/-! ## Whatever is called -/

variable [Reading α]

namespace Canvas
variable {s : Canvas α}

theorem Reachable.followsDrawn (h : s.Reachable) : s.FollowsDrawn :=
  h.induction ⟨by simp [Canvas.empty], rfl⟩ (fun _ a hs => hs.act a) fun _ hs => hs.act (.paint .unknown)

theorem Reachable.exists_drafted (h : s.Reachable) : ∃ d, Drafted s d :=
  h.induction (P := fun s => ∃ d, Drafted s d) ⟨_, .empty⟩ (fun _ a ⟨_, hd⟩ => ⟨_, hd.act a⟩)
    fun _ ⟨_, hd⟩ => ⟨_, hd.finish⟩

/-- **The pen is where the drawing left it.** Take a canvas that any calls lead to,
whether some of them were stopped or none. No finished path is empty, and in a draft of
the canvas the open one is not either. Of all commands drawn so far, those of the
paths and then those of the open one, the last move is where the sub-path of the pen
began, and the pen is where they leave it when they are followed one by one. It has no
place exactly if all of them close. -/
theorem pen_of_drawn (h : s.Reachable) :
    (∃ d, Drafted s d) ∧
    (∀ d, Drafted s d → d.paths = s.paths.toList ∧ d.current.getD [] = s.current.toList ∧
      ∀ cs, d.current = some cs → cs ≠ []) ∧
    (∀ p ∈ s.paths, p.commands ≠ []) ∧
    s.start = lastMove? s.drawn ∧
    s.pen = resting? s.drawn ∧
    (s.pen = none ↔ ∀ c ∈ s.drawn, c = .close) := by
  have hfollows := h.followsDrawn
  have hstart : s.start = lastMove? s.drawn :=
    (congrArg Pen.start hfollows.hand).trans (Pen.start_after s.drawn)
  have hpen : s.pen = resting? s.drawn :=
    (congrArg Pen.point hfollows.hand).trans (Pen.point_after s.drawn)
  refine ⟨h.exists_drafted, fun d hd => ?_, hfollows.ne_nil, hstart, hpen, ?_⟩
  · have hshows := hd.shows
    exact ⟨hshows.paths, hshows.commands, fun cs => hshows.ne_nil⟩
  · rw [hpen]
    exact resting?_eq_none_iff

end Canvas
end

/-! ### Operators that are stopped halfway -/

namespace Canvas

/-- A rectangle whose height is no number, painted as far as it was drawn, and a
compound operator with a coordinate too few for its second line. -/
def interrupted : Canvas Float :=
  [Call.process (.text "re") (.list [.int 1, .int 2, .int 3, .text "4"]),
    .process (.text "S") .null,
    .process (.text "constructPath")
      (.list [.list [.text "l", .text "h", .text "l"], .list [.int 5, .int 6, .int 7]])].foldl
    (fun s c => (s.call c).1) .empty

/-- Closing takes the pen back to where the painted rectangle began. -/
theorem pen_of_drawn_interrupted : interrupted.Reachable ∧
    interrupted.drawn = [.move ⟨1, 2⟩, .line ⟨4, 2⟩, .line ⟨5, 6⟩, .close] ∧
    interrupted.start = some ⟨1, 2⟩ ∧ interrupted.pen = some ⟨1, 2⟩ ∧
    ∃ d, Drafted interrupted d ∧ d.current = some [.line ⟨5, 6⟩, .close] := by
  have hreach : interrupted.Reachable := ⟨_, rfl⟩
  have hdrawn : interrupted.drawn = [.move ⟨1, 2⟩, .line ⟨4, 2⟩, .line ⟨5, 6⟩, .close] := rfl
  obtain ⟨⟨d, hd⟩, hdraft, -, hstart, hpen, -⟩ := pen_of_drawn hreach
  rw [hdrawn] at hstart hpen
  obtain ⟨-, hcommands, -⟩ := hdraft d hd
  have hopen : interrupted.current.toList = [.line ⟨5, 6⟩, .close] := rfl
  refine ⟨hreach, hdrawn, hstart, hpen, d, hd, ?_⟩
  rw [hopen] at hcommands
  cases hcurrent : d.current with
  | none => simp [hcurrent] at hcommands
  | some cs => simpa [hcurrent] using hcommands

end Canvas
end PlotDigitizer
