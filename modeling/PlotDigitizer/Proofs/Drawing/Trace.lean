/-
A drawing as actions, one after another.

Whatever a stream does to a canvas it does by actions, each of which changes
the canvas at once: a map is saved, restored or changed, a command is drawn, a
path is painted. The trace of a stream is the list of its actions, and why
there are no more of them (`Canvas.trace`). A stream leaves the canvas that its
trace leads to (`processAll_eq_outcome`); so what holds while a stream is under
way is said of the parts of its trace.

There are two inductions over traces. What holds of whatever an operator does
holds throughout a stream (`Lawful.trace`), and one stream goes on side by side
on two canvases that correspond (`SideBySide.trace`). A third is over calls: what
every action keeps holds of every canvas that calls lead to
(`Canvas.Reachable.induction`).
-/
import Mathlib.Data.List.Forall2
import PlotDigitizer.Proofs.Drawing.Log
import PlotDigitizer.Proofs.Success

namespace PlotDigitizer

/-- What is done to a canvas at once. -/
inductive Action (α : Type) where
  | save
  | restore
  | change (t : Affine α)
  /-- A path operator draws a command. -/
  | emit (op : PathOperator) (c : Command α)
  | paint (p : Paint)

/-- The command that an action draws. -/
def Action.command? {α : Type} : Action α → Option (Command α)
  | .emit _ c => some c
  | _ => none

/-- The commands that actions draw, in order. -/
def Action.commands {α : Type} (as : List (Action α)) : List (Command α) := as.filterMap command?

theorem Action.commands_append_paint {α : Type} (as : List (Action α)) (p : Paint) :
    commands (as ++ [.paint p]) = commands as := by
  rw [commands, List.filterMap_append]
  exact List.append_nil _

/-- Actions, and why there are no more of them. -/
abbrev Trace (α : Type) := List (Action α) × Option DrawError

/-- Where the pen is, and where its sub-path began. -/
def Canvas.hand {α : Type} (s : Canvas α) : Pen α := ⟨s.pen, s.start⟩

theorem Canvas.hand_emit {α : Type} (s : Canvas α) (c : Command α) :
    (s.emit c).hand = s.hand.follow c := by
  cases c <;> rfl

/-- Commands with a move among them take the pen to the same place, wherever
it was. -/
theorem foldl_follow_of_move {α : Type} {cs : List (Command α)} {r : Point α} (h : .move r ∈ cs)
    (p q : Pen α) : cs.foldl Pen.follow p = cs.foldl Pen.follow q := by
  induction cs generalizing p q with
  | nil => simp at h
  | cons c cs ih =>
    rcases List.mem_cons.1 h with rfl | h
    · rfl
    · exact ih h _ _

section
variable {α : Type} [Add α] [Mul α]

namespace Canvas

def act (s : Canvas α) : Action α → Canvas α
  | .save => { s with saved := s.ctm :: s.saved }
  | .restore => { s with ctm := (s.ctm.restore s.saved).1, saved := (s.ctm.restore s.saved).2 }
  | .change t => { s with ctm := s.ctm.comp t }
  | .emit _ c => s.emit c
  | .paint p => s.paint p

/-- The canvas after some actions. -/
def after (s : Canvas α) (as : List (Action α)) : Canvas α := as.foldl act s

@[simp] theorem after_nil (s : Canvas α) : s.after [] = s := rfl

@[simp] theorem after_cons (s : Canvas α) (a : Action α) (as : List (Action α)) :
    s.after (a :: as) = (s.act a).after as := rfl

@[simp] theorem after_append (s : Canvas α) (as bs : List (Action α)) :
    s.after (as ++ bs) = (s.after as).after bs := List.foldl_append

theorem after_map_emit (s : Canvas α) (op : PathOperator) (cs : List (Command α)) :
    s.after (cs.map (.emit op)) = cs.foldl .emit s := by
  rw [after, List.foldl_map]
  rfl

end Canvas

/-! ## What is drawn, and where the pen is -/

namespace Canvas

/-- Drawing is all that moves the pen. -/
theorem hand_after (s : Canvas α) (as : List (Action α)) :
    (s.after as).hand = (Action.commands as).foldl Pen.follow s.hand := by
  induction as generalizing s with
  | nil => rfl
  | cons a as ih =>
    rw [after_cons, ih]
    cases a with
    | emit op c =>
      have hc : Action.commands (.emit op c :: as) = c :: Action.commands as := rfl
      rw [hc, List.foldl_cons, ← hand_emit]
      rfl
    | paint p =>
      have hp : (s.paint p).hand = s.hand := by simp [hand]
      rw [← hp]
      rfl
    | save | restore | change => rfl

theorem drawn_after (s : Canvas α) (as : List (Action α)) :
    (s.after as).drawn = s.drawn ++ Action.commands as := by
  induction as generalizing s with
  | nil => simp [Action.commands]
  | cons a as ih =>
    rw [after_cons, ih]
    cases a <;> simp [act, Action.commands, Action.command?] <;> rfl

end Canvas

/-! ## Traces -/

/-- The outcome of a trace. -/
def Trace.outcome (t : Trace α) (s : Canvas α) : Outcome α := (s.after t.1, t.2)

/-- A trace, and what is done next unless it was stopped. -/
def Trace.andThen (t : Trace α) (s : Canvas α) (next : Canvas α → Trace α) : Trace α :=
  match t with
  | (as, some e) => (as, some e)
  | (as, none) => (as ++ (next (s.after as)).1, (next (s.after as)).2)

/-- An outcome that goes on where it was not stopped is that of a trace which
does. -/
theorem outcome_andThen {t : Trace α} {s : Canvas α} {next : Canvas α → Trace α}
    {go : Canvas α → Outcome α} (h : ∀ r, go r = (next r).outcome r) :
    (match t.outcome s with
      | (r, some e) => (r, some e)
      | (r, none) => go r) = (t.andThen s next).outcome s := by
  obtain ⟨as, e⟩ := t
  cases e with
  | some e => rfl
  | none => simp [Trace.outcome, Trace.andThen, h]

/-- Something holds of every action and the canvas on which it is taken. -/
def Throughout (G : Canvas α → Action α → Prop) : Canvas α → List (Action α) → Prop
  | _, [] => True
  | s, a :: as => G s a ∧ Throughout G (s.act a) as

theorem throughout_append {G : Canvas α → Action α → Prop} {s : Canvas α} {as bs : List (Action α)} :
    Throughout G s (as ++ bs) ↔ Throughout G s as ∧ Throughout G (s.after as) bs := by
  induction as generalizing s with
  | nil => simp [Throughout]
  | cons a as ih => simp [Throughout, ih, and_assoc]

theorem throughout_true (s : Canvas α) (as : List (Action α)) : Throughout (fun _ _ => True) s as := by
  induction as generalizing s with
  | nil => trivial
  | cons a as ih => exact ⟨trivial, ih _⟩

/-- It holds throughout exactly if it holds wherever the actions are parted. -/
theorem throughout_iff {G : Canvas α → Action α → Prop} {s : Canvas α} {as : List (Action α)} :
    Throughout G s as ↔ ∀ before a rest, as = before ++ a :: rest → G (s.after before) a := by
  constructor
  · intro h before a rest has
    rw [has, throughout_append] at h
    exact h.2.1
  · intro h
    induction as generalizing s with
    | nil => trivial
    | cons a as ih =>
      refine ⟨h [] a as rfl, ih fun before b rest has => ?_⟩
      rw [← Canvas.after_cons]
      exact h (a :: before) b rest (by rw [has, List.cons_append])

theorem throughout_andThen {t : Trace α} {s : Canvas α} {next : Canvas α → Trace α}
    {G : Canvas α → Action α → Prop} (ht : Throughout G s t.1) (hnext : ∀ r, Throughout G r (next r).1) :
    Throughout G s (t.andThen s next).1 := by
  obtain ⟨as, e⟩ := t
  cases e with
  | some e => exact ht
  | none => exact throughout_append.2 ⟨ht, hnext _⟩

end

/-! ## The trace of a stream -/

section
variable {α : Type} [Zero α] [Add α] [Mul α] [Reading α]

/-- The operators and the coordinates of a compound operator. -/
def Value.parts (args : Value α) : Except DrawError (List (Value α) × Value α) := do
  let operators ← args.argument 0
  let coordinates ← args.argument 1
  return (← operators.iterate, coordinates)

namespace Canvas

def traceDraw (s : Canvas α) (op : PathOperator) (args : Value α) : Trace α :=
  let (commands, e) := untilFailure (op.attempts s.ctm s.pen args)
  (commands.map (.emit op), e)

def traceEach (coordinates : Value α) : List (Value α) → Nat → Canvas α → Trace α
  | [], _, _ => ([], none)
  | v :: rest, position, s =>
    match PathOperator.ofValue? v with
    | none => traceEach coordinates rest position s
    | some op =>
      match coordinates.slice position op.arity with
      | .error e => ([], some e)
      | .ok cut => (s.traceDraw op cut).andThen s (traceEach coordinates rest (position + op.arity))

def traceCompound (s : Canvas α) (args : Value α) : Trace α :=
  match args.parts with
  | .error e => ([], some e)
  | .ok (operators, coordinates) => traceEach coordinates operators 0 s

def traceApply (s : Canvas α) (args : Value α) : Operator → Trace α
  | .save => ([.save], none)
  | .restore => ([.restore], none)
  | .transform =>
    match Affine.ofArguments args with
    | .error e => ([], some e)
    | .ok t => ([.change t], none)
  | .path op => s.traceDraw op args
  | .compound => s.traceCompound args
  | .paint p closes =>
    (if closes ∧ ¬s.current.isEmpty then [.emit .close .close, .paint p] else [.paint p], none)

/-- The trace of the operators of a stream, up to one that is stopped. -/
def trace : List (Value α) → Canvas α → Trace α
  | [], _ => ([], none)
  | item :: rest, s =>
    match item.unpack.bind Value.two with
    | .error e => ([], some e)
    | .ok (opcode, args) =>
      match Operator.ofValue? opcode with
      | none => trace rest s
      | some op => (s.traceApply args op).andThen s (trace rest)

end Canvas

theorem draw_eq_outcome (s : Canvas α) (op : PathOperator) (args : Value α) :
    s.draw op args = (s.traceDraw op args).outcome s := by
  simp only [Canvas.draw, Canvas.traceDraw, Trace.outcome, Canvas.after_map_emit]

theorem drawEach_eq_outcome (coordinates : Value α) (vs : List (Value α)) (position : Nat)
    (s : Canvas α) : Canvas.drawEach coordinates vs position s
      = (Canvas.traceEach coordinates vs position s).outcome s := by
  induction vs generalizing position s with
  | nil => rfl
  | cons v vs ih =>
    simp only [Canvas.drawEach, Canvas.traceEach]
    cases PathOperator.ofValue? v with
    | none => exact ih position s
    | some op =>
      dsimp only
      cases coordinates.slice position op.arity with
      | error e => rfl
      | ok cut =>
        simp only [draw_eq_outcome]
        exact outcome_andThen (ih (position + op.arity))

theorem apply_eq_outcome (s : Canvas α) (args : Value α) (op : Operator) :
    s.apply args op = (s.traceApply args op).outcome s := by
  cases op with
  | save => rfl
  | restore => rfl
  | transform =>
    simp only [Canvas.apply, Canvas.traceApply]
    cases Affine.ofArguments args <;> rfl
  | path op => exact draw_eq_outcome s op args
  | compound =>
    have hparts : s.drawCompound args = match args.parts with
        | .error e => (s, some e)
        | .ok (operators, coordinates) => Canvas.drawEach coordinates operators 0 s := rfl
    simp only [Canvas.apply, Canvas.traceApply, Canvas.traceCompound, hparts]
    cases args.parts with
    | error e => rfl
    | ok parts => exact drawEach_eq_outcome parts.2 parts.1 0 s
  | paint p closes =>
    simp only [Canvas.apply, Canvas.traceApply]
    split <;> rfl

/-- **A stream leaves what its trace leads to.** -/
theorem processAll_eq_outcome (items : List (Value α)) (s : Canvas α) :
    Canvas.processAll items s = (Canvas.trace items s).outcome s := by
  induction items generalizing s with
  | nil => rfl
  | cons item items ih =>
    simp only [Canvas.processAll, Canvas.trace]
    cases item.unpack.bind Value.two with
    | error e => rfl
    | ok pair =>
      simp only [Canvas.process]
      cases Operator.ofValue? pair.1 with
      | none => exact ih s
      | some op =>
        simp only [apply_eq_outcome]
        exact outcome_andThen ih

/-! ## Throughout a stream -/

/-- What holds of whatever an operator does. -/
structure Lawful (G : Canvas α → Action α → Prop) : Prop where
  save (s) : G s .save
  restore (s) : G s .restore
  change (s t) : G s (.change t)
  paint (s p) : G s (.paint p)
  close (s) : G s (.emit .close .close)
  draw (s op) (args : Value α) : Throughout G s (s.traceDraw op args).1

namespace Lawful
variable {G : Canvas α → Action α → Prop}

theorem traceEach (h : Lawful G) (coordinates : Value α) (vs : List (Value α)) (position : Nat)
    (s : Canvas α) : Throughout G s (Canvas.traceEach coordinates vs position s).1 := by
  induction vs generalizing position s with
  | nil => trivial
  | cons v vs ih =>
    simp only [Canvas.traceEach]
    split
    · exact ih position s
    · split
      · trivial
      · exact throughout_andThen (h.draw s _ _) (ih _)

theorem traceApply (h : Lawful G) (s : Canvas α) (args : Value α) (op : Operator) :
    Throughout G s (s.traceApply args op).1 := by
  cases op with
  | save => exact ⟨h.save s, trivial⟩
  | restore => exact ⟨h.restore s, trivial⟩
  | transform =>
    simp only [Canvas.traceApply]
    split
    · trivial
    · exact ⟨h.change s _, trivial⟩
  | path op => exact h.draw s op args
  | compound =>
    simp only [Canvas.traceApply, Canvas.traceCompound]
    split
    · trivial
    · exact h.traceEach _ _ _ s
  | paint p closes =>
    simp only [Canvas.traceApply]
    split
    · exact ⟨h.close s, h.paint _ p, trivial⟩
    · exact ⟨h.paint s p, trivial⟩

/-- **Throughout.** What holds of whatever an operator does holds throughout a
stream. -/
theorem trace (h : Lawful G) (items : List (Value α)) (s : Canvas α) :
    Throughout G s (Canvas.trace items s).1 := by
  induction items generalizing s with
  | nil => trivial
  | cons item items ih =>
    simp only [Canvas.trace]
    split
    · trivial
    · split
      · exact ih s
      · exact throughout_andThen (h.traceApply s _ _) ih

end Lawful

/-! ## Curves from the pen -/

/-- The points that a curve from the pen is given: its second control point and
its end. -/
def Value.curveEnds (ctm : Affine α) (args : Value α) : Except DrawError (Point α × Point α) := do
  let (x₂, y₂, x₃, y₃) ← Value.four (← args.arguments)
  let c₂ ← ctm.locate x₂ y₂
  let stop ← ctm.locate x₃ y₃
  return (c₂, stop)

theorem traceDraw_curveFromPen (s : Canvas α) (args : Value α) :
    s.traceDraw .curveFromPen args = match args.curveEnds s.ctm with
      | .error e => ([], some e)
      | .ok (c₂, p) => ([.emit .curveFromPen (.cubic (s.pen.getD .origin) c₂ p)], none) := by
  have h : PathOperator.attempts s.ctm s.pen args .curveFromPen
      = [args.curveEnds s.ctm >>= fun q => pure (.cubic (s.pen.getD .origin) q.1 q.2)] := by
    simp only [PathOperator.attempts, Value.curveEnds, bind_assoc, pure_bind]
  rw [Canvas.traceDraw, h]
  cases args.curveEnds s.ctm <;> rfl

/-- The first control point of a curve from the pen is where the pen is. -/
def FromPen (s : Canvas α) (a : Action α) : Prop :=
  ∀ c, a = .emit .curveFromPen c → ∃ c₂ p, c = .cubic (s.pen.getD .origin) c₂ p

theorem lawful_fromPen : Lawful (FromPen (α := α)) where
  save s := by simp [FromPen]
  restore s := by simp [FromPen]
  change s t := by simp [FromPen]
  paint s p := by simp [FromPen]
  close s := by simp [FromPen]
  draw s op args := by
    by_cases hop : op = .curveFromPen
    · subst hop
      rw [traceDraw_curveFromPen]
      split
      · trivial
      · refine ⟨fun c hc => ?_, trivial⟩
        obtain rfl : _ = c := by simpa using hc
        exact ⟨_, _, rfl⟩
    · refine throughout_iff.2 fun before a rest has c hc => ?_
      have hmem : a ∈ (s.traceDraw op args).1 := by rw [has]; simp
      obtain ⟨d, -, hd⟩ := List.mem_map.1 hmem
      rw [hc] at hd
      exact absurd (Action.emit.inj hd).1 hop

/-! ## Two drawings side by side -/

/-- Traces whose actions correspond, and that end alike. -/
def Trace.Corresponds (Q : Action α → Action α → Prop) (t u : Trace α) : Prop :=
  List.Forall₂ Q t.1 u.1 ∧ t.2 = u.2

/-- Canvases that correspond by `R` are drawn on by actions that correspond by
`Q`, as long as `G` holds of the actions on the first. -/
structure SideBySide (R : Canvas α → Canvas α → Prop) (Q : Action α → Action α → Prop)
    (G : Canvas α → Action α → Prop) : Prop where
  act {s t a b} : R s t → Q a b → R (s.act a) (t.act b)
  isOpen {s t} : R s t → s.current.isEmpty = t.current.isEmpty
  save : Q .save .save
  restore : Q .restore .restore
  change (t) : Q (.change t) (.change t)
  paint (p) : Q (.paint p) (.paint p)
  close : Q (.emit .close .close) (.emit .close .close)
  draw {s t} (op : PathOperator) (args : Value α) : R s t → Throughout G s (s.traceDraw op args).1 →
    (s.traceDraw op args).Corresponds Q (t.traceDraw op args)

namespace SideBySide
variable {R : Canvas α → Canvas α → Prop} {Q : Action α → Action α → Prop}
  {G : Canvas α → Action α → Prop} {s t : Canvas α}

theorem after (h : SideBySide R Q G) {as bs : List (Action α)} (hst : R s t)
    (hab : List.Forall₂ Q as bs) : R (s.after as) (t.after bs) := by
  induction hab generalizing s t with
  | nil => exact hst
  | cons hq _ ih => exact ih (h.act hst hq)

theorem andThen (h : SideBySide R Q G) {u v : Trace α} {next : Canvas α → Trace α} (hst : R s t)
    (huv : Throughout G s u.1 → u.Corresponds Q v)
    (hnext : ∀ {s t}, R s t → Throughout G s (next s).1 → (next s).Corresponds Q (next t))
    (hG : Throughout G s (u.andThen s next).1) :
    (u.andThen s next).Corresponds Q (v.andThen t next) := by
  obtain ⟨as, e⟩ := u
  obtain ⟨bs, e'⟩ := v
  cases e with
  | some e =>
    obtain ⟨hab, rfl⟩ := huv hG
    exact ⟨hab, rfl⟩
  | none =>
    have hG' := throughout_append.1 hG
    obtain ⟨hab, rfl⟩ := huv hG'.1
    obtain ⟨hrest, he⟩ := hnext (h.after hst hab) hG'.2
    exact ⟨List.rel_append hab hrest, he⟩

theorem traceEach (h : SideBySide R Q G) {coordinates : Value α} {vs : List (Value α)}
    {position : Nat} (hst : R s t)
    (hG : Throughout G s (Canvas.traceEach coordinates vs position s).1) :
    (Canvas.traceEach coordinates vs position s).Corresponds Q
      (Canvas.traceEach coordinates vs position t) := by
  induction vs generalizing position s t with
  | nil => exact ⟨.nil, rfl⟩
  | cons v vs ih =>
    simp only [Canvas.traceEach] at hG ⊢
    cases hv : PathOperator.ofValue? v with
    | none =>
      simp only [hv] at hG
      exact ih hst hG
    | some op =>
      simp only [hv] at hG ⊢
      cases hcut : coordinates.slice position op.arity with
      | error e => exact ⟨.nil, rfl⟩
      | ok cut =>
        simp only [hcut] at hG
        exact h.andThen hst (h.draw op cut hst) ih hG

theorem traceApply (h : SideBySide R Q G) (args : Value α) (op : Operator) (hst : R s t)
    (hG : Throughout G s (s.traceApply args op).1) :
    (s.traceApply args op).Corresponds Q (t.traceApply args op) := by
  cases op with
  | save => exact ⟨.cons h.save .nil, rfl⟩
  | restore => exact ⟨.cons h.restore .nil, rfl⟩
  | transform =>
    simp only [Canvas.traceApply]
    cases Affine.ofArguments args with
    | error e => exact ⟨.nil, rfl⟩
    | ok m => exact ⟨.cons (h.change m) .nil, rfl⟩
  | path op => exact h.draw op args hst hG
  | compound =>
    simp only [Canvas.traceApply, Canvas.traceCompound] at hG ⊢
    cases hp : args.parts with
    | error e => exact ⟨.nil, rfl⟩
    | ok parts =>
      simp only [hp] at hG
      exact h.traceEach hst hG
  | paint p closes =>
    simp only [Canvas.traceApply, h.isOpen hst]
    split
    · exact ⟨.cons h.close (.cons (h.paint p) .nil), rfl⟩
    · exact ⟨.cons (h.paint p) .nil, rfl⟩

/-- **Side by side.** One stream on two canvases that correspond has traces
that correspond. -/
theorem trace (h : SideBySide R Q G) {items : List (Value α)} (hst : R s t)
    (hG : Throughout G s (Canvas.trace items s).1) :
    (Canvas.trace items s).Corresponds Q (Canvas.trace items t) := by
  induction items generalizing s t with
  | nil => exact ⟨.nil, rfl⟩
  | cons item items ih =>
    simp only [Canvas.trace] at hG ⊢
    cases hitem : item.unpack.bind Value.two with
    | error e => exact ⟨.nil, rfl⟩
    | ok pair =>
      simp only [hitem] at hG
      cases hop : Operator.ofValue? pair.1 with
      | none =>
        simp only [hop] at hG ⊢
        exact ih hst hG
      | some op =>
        simp only [hop] at hG ⊢
        exact h.andThen hst (h.traceApply pair.2 op hst) ih hG

end SideBySide

end

/-! ## Canvases that calls lead to -/

namespace Canvas

/-- A canvas that some calls lead to from an empty one. -/
def Reachable {α : Type} [Zero α] [One α] [Add α] [Mul α] [Reading α] (s : Canvas α) : Prop :=
  ∃ calls : List (Call α), calls.foldl (fun s c => (s.call c).1) .empty = s

section
variable {α : Type} [Zero α] [Add α] [Mul α] [Reading α]

/-- An operator takes its actions, also if it is stopped after them. -/
theorem exists_after_process (s : Canvas α) (opcode args : Value α) :
    ∃ as, (s.process opcode args).1 = s.after as := by
  rw [process]
  cases Operator.ofValue? opcode with
  | none => exact ⟨[], rfl⟩
  | some op => exact ⟨_, congrArg Prod.fst (apply_eq_outcome s args op)⟩

variable [One α]

/-- A stream takes its actions on an empty canvas, and finishes that unless it is
stopped. -/
theorem exists_after_replay (stream : Value α) :
    ∃ as, (replay stream).1 = empty.after as ∨ (replay stream).1 = (empty.after as).finish := by
  rw [replay]
  cases stream.iterate with
  | error e => exact ⟨[], .inl rfl⟩
  | ok items =>
    refine ⟨(trace items .empty).1, ?_⟩
    simp only [processAll_eq_outcome, Trace.outcome]
    cases (trace items .empty).2 with
    | some e => exact .inl rfl
    | none => exact .inr rfl

/-- **What actions keep, calls keep.** What holds of an empty canvas and is kept by
every action and by finishing holds of every canvas that calls lead to. A call that is
stopped makes no case of its own: it has taken some actions. -/
theorem Reachable.induction {P : Canvas α → Prop} {s : Canvas α} (h : s.Reachable) (empty : P .empty)
    (act : ∀ s a, P s → P (s.act a)) (finish : ∀ s, P s → P s.finish) : P s := by
  have hafter (s : Canvas α) (as : List (Action α)) (hs : P s) : P (s.after as) :=
    List.foldlRecOn as _ hs fun s hs a _ => act s a hs
  have hcall (s : Canvas α) (c : Call α) (hs : P s) : P (s.call c).1 := by
    cases c with
    | process opcode args =>
      obtain ⟨as, has⟩ := exists_after_process s opcode args
      rw [call, has]
      exact hafter s as hs
    | finish => exact finish s hs
    | reset => exact empty
    | replay stream =>
      obtain ⟨as, has | has⟩ := exists_after_replay stream
      · rw [call, has]
        exact hafter _ as empty
      · rw [call, has]
        exact finish _ (hafter _ as empty)
  obtain ⟨calls, rfl⟩ := h
  exact List.foldlRecOn calls _ empty fun s hs c _ => hcall s c hs

end
end Canvas
end PlotDigitizer
