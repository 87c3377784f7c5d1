/-
Drawings made of stroked polylines.

A drawing is given as instructions: operators, each with its numbers. A stream
of raw values spells them (`Value.Spells`), whichever way it writes the
operators and the numbers. One that changes the map once and then strokes
polylines leaves one path for each of them (`extractPaths_strokes`).
-/
import Mathlib.Data.List.Forall2
import PlotDigitizer.Proofs.Drawing.Refinement

namespace PlotDigitizer

variable {α : Type}

/-- The commands of a polyline: a move to its first point, and lines on from there. -/
def straight : List (Point α) → List (Command α)
  | [] => []
  | p :: rest => .move p :: rest.map .line

theorem straight_ne_nil {ps : List (Point α)} (h : ps ≠ []) : straight ps ≠ [] := by
  cases ps with
  | nil => exact absurd rfl h
  | cons p rest => simp [straight]

/-- An operator and its numbers. -/
structure Instruction (α : Type) where
  operator : Operator
  numbers : List α

/-- To begin a polyline at a point. -/
def Instruction.move (p : Point α) : Instruction α := ⟨.path .move, [p.x, p.y]⟩

def Instruction.line (p : Point α) : Instruction α := ⟨.path .line, [p.x, p.y]⟩

/-- To change the map by another. -/
def Instruction.transform (t : Affine α) : Instruction α := ⟨.transform, [t.a, t.b, t.c, t.d, t.e, t.f]⟩

/-- To draw a polyline and stroke it. -/
def strokes (ps : List (Point α)) : List (Instruction α) :=
  let drawn := match ps with
    | [] => []
    | p :: rest => .move p :: rest.map .line
  drawn ++ [⟨.paint .stroke false, []⟩]

/-- Commands that are stroked, as marks. -/
def stroked (cs : List (Command α)) : List (Mark α) := cs.map .command ++ [.paint .stroke]

/-- What is stroked is one path. -/
theorem divided_stroked {css : List (List (Command α))} (h : ∀ cs ∈ css, cs ≠ []) :
    Divided (css.flatMap stroked) (css.map fun cs => ⟨cs, .stroke⟩) := by
  induction css with
  | nil => exact .nil
  | cons cs css ih =>
    have hrest := ih fun ds hds => h ds (List.mem_cons_of_mem cs hds)
    simpa [stroked] using Divided.painted (p := .stroke) (h cs List.mem_cons_self) hrest

section
variable [Reading α]

/-- The numbers that raw arguments stand for. -/
def Value.Numbers (args : Value α) (xs : List α) : Prop :=
  ∃ vs, args.arguments = .ok vs ∧ List.Forall₂ (fun v x => v.factor = .ok x) vs xs

/-- A raw item of a stream stands for an instruction: it is a pair of some
spelling of the operator and arguments that stand for the numbers. -/
def Value.Spells (item : Value α) (i : Instruction α) : Prop :=
  ∃ opcode args, item.unpack.bind two = .ok (opcode, args) ∧
    Operator.ofValue? opcode = some i.operator ∧ args.Numbers i.numbers

theorem forall₂_spells_append {items : List (Value α)} {is js : List (Instruction α)}
    (h : List.Forall₂ Value.Spells items (is ++ js)) :
    ∃ items₁ items₂, items = items₁ ++ items₂ ∧ List.Forall₂ Value.Spells items₁ is ∧
      List.Forall₂ Value.Spells items₂ js :=
  ⟨_, _, (List.take_append_drop is.length items).symm, List.forall₂_take_append items is js h,
    List.forall₂_drop_append items is js h⟩

variable [Add α] [Mul α]

theorem Value.Numbers.located {args : Value α} {p : Point α} (h : args.Numbers [p.x, p.y])
    (t : Affine α) : ∃ x y, args.arguments = .ok [x, y] ∧ Located t x y (t.apply p) := by
  obtain ⟨vs, hargs, hvs⟩ := h
  cases hvs with
  | cons hx hvs =>
    cases hvs with
    | cons hy hvs =>
      cases hvs
      exact ⟨_, _, hargs, _, _, hx, hy, rfl⟩

variable [Zero α]

theorem Value.Spells.tells {i : Instruction α} {item : Value α} (h : item.Spells i) {l m : Log α}
    (hlogs : ∀ args : Value α, args.Numbers i.numbers → i.operator.Logs args l m) :
    Tells [item] l m := by
  obtain ⟨opcode, args, hitem, hop, hargs⟩ := h
  exact .step hitem hop (hlogs args hargs) .nil

theorem Tells.append {items items' : List (Value α)} {k l m : Log α} (h : Tells items k l)
    (h' : Tells items' l m) : Tells (items ++ items') k m := by
  induction h with
  | nil => exact h'
  | skip hitem hop _ ih => exact .skip hitem hop (ih h')
  | step hitem hop hlogs _ ih => exact .step hitem hop hlogs (ih h')

theorem tells_move {p : Point α} {item : Value α} (h : item.Spells (.move p)) (l : Log α) :
    Tells [item] l (l.draw [.move (l.ctm.apply p)]) := by
  refine h.tells fun args hargs => ?_
  obtain ⟨x, y, ha, hp⟩ := hargs.located l.ctm
  exact .path (.move ha hp)

theorem tells_line {p : Point α} {item : Value α} (h : item.Spells (.line p)) (l : Log α) :
    Tells [item] l (l.draw [.line (l.ctm.apply p)]) := by
  refine h.tells fun args hargs => ?_
  obtain ⟨x, y, ha, hp⟩ := hargs.located l.ctm
  exact .path (.line ha hp)

theorem tells_transform {t : Affine α} {item : Value α} (h : item.Spells (.transform t)) (l : Log α) :
    Tells [item] l { l with ctm := l.ctm.comp t } := by
  refine h.tells fun args hargs => ?_
  obtain ⟨vs, ha, hvs⟩ := hargs
  simp only [Instruction.transform, List.forall₂_cons_right_iff, List.forall₂_nil_right_iff] at hvs
  obtain ⟨a, _, ha', ⟨b, _, hb', ⟨c, _, hc', ⟨d, _, hd', ⟨e, _, he', ⟨f, _, hf', rfl, rfl⟩, rfl⟩, rfl⟩,
    rfl⟩, rfl⟩, rfl⟩ := hvs
  exact .transform ha ha' hb' hc' hd' he' hf'

theorem tells_lines {ps : List (Point α)} {items : List (Value α)}
    (h : List.Forall₂ Value.Spells items (ps.map .line)) (l : Log α) :
    Tells items l (l.draw ((ps.map l.ctm.apply).map .line)) := by
  induction ps generalizing items l with
  | nil =>
    cases h
    rw [List.map_nil, List.map_nil, Log.draw_nil]
    exact .nil
  | cons p ps ih =>
    obtain ⟨item, items, hp, hps, rfl⟩ := List.forall₂_cons_right_iff.1 h
    have hrest := (tells_line hp l).append (ih hps _)
    rwa [Log.draw_draw] at hrest

theorem tells_strokes {ps : List (Point α)} {items : List (Value α)}
    (h : List.Forall₂ Value.Spells items (strokes ps)) (l : Log α) :
    Tells items l { l with marks := l.marks ++ stroked (straight (ps.map l.ctm.apply)) } := by
  obtain ⟨drawn, last, rfl, hdrawn, hlast⟩ := forall₂_spells_append h
  have htells : Tells drawn l (l.draw (straight (ps.map l.ctm.apply))) := by
    cases ps with
    | nil =>
      cases hdrawn
      rw [List.map_nil, straight, Log.draw_nil]
      exact .nil
    | cons p ps =>
      obtain ⟨item, items, hp, hps, rfl⟩ := List.forall₂_cons_right_iff.1 hdrawn
      have hrest := (tells_move hp l).append (tells_lines hps _)
      rwa [Log.draw_draw] at hrest
  obtain ⟨item, items, hp, hnil, rfl⟩ := List.forall₂_cons_right_iff.1 hlast
  cases hnil
  have hpaint := htells.append (hp.tells fun args _ => .paint)
  simpa [Log.draw, Log.paint, stroked] using hpaint

theorem tells_flatMap_strokes {pss : List (List (Point α))} {items : List (Value α)}
    (h : List.Forall₂ Value.Spells items (pss.flatMap strokes)) (l : Log α) :
    Tells items l { l with
      marks := l.marks ++ (pss.map fun ps => straight (ps.map l.ctm.apply)).flatMap stroked } := by
  induction pss generalizing items l with
  | nil =>
    cases h
    simpa using Tells.nil
  | cons ps pss ih =>
    obtain ⟨drawn, rest, rfl, hdrawn, hrest⟩ := forall₂_spells_append h
    have htells := (tells_strokes hdrawn l).append (ih hrest _)
    simpa using htells

variable [One α]

/-- **Stroked polylines.** A drawing that changes the map once and strokes
polylines has a path for each of them, in order. -/
theorem extractPaths_strokes {stream : Value α} {items : List (Value α)} {t : Affine α}
    {pss : List (List (Point α))} (hi : stream.iterate = .ok items)
    (h : List.Forall₂ Value.Spells items (.transform t :: pss.flatMap strokes))
    (hne : ∀ ps ∈ pss, ps ≠ []) :
    extractPaths stream
      = .ok (pss.map fun ps => ⟨straight (ps.map ((1 : Affine α).comp t).apply), .stroke⟩) := by
  obtain ⟨item, rest, ht, hrest, rfl⟩ := List.forall₂_cons_right_iff.1 h
  have htells := (tells_transform ht .empty).append (tells_flatMap_strokes hrest _)
  refine extractPaths_eq_ok.2 ⟨_, ⟨_, _, hi, htells, rfl⟩, ?_⟩
  have hcs : ∀ cs ∈ pss.map fun ps => straight (ps.map ((1 : Affine α).comp t).apply), cs ≠ [] := by
    intro cs hcs
    obtain ⟨ps, hps, rfl⟩ := List.mem_map.1 hcs
    exact straight_ne_nil (by simpa using hne ps hps)
  have hd := divided_stroked hcs
  rw [List.map_map] at hd
  exact hd

end
end PlotDigitizer
