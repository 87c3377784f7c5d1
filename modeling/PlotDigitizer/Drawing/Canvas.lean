/-
The state of a drawing, and what one operator does to it.

A path operator draws commands (`PathOperator.attempts`), some of which may
fail for their arguments; it draws those before the first failure. A command
is added to the open path and moves the pen (`Canvas.emit`); nothing else
does. The other operators change the map in force, save and restore it, or
paint the open path, which ends it.

An operator that is stopped hands back the state it had reached.
-/
import PlotDigitizer.Drawing.Arguments
import PlotDigitizer.Drawing.Path

namespace PlotDigitizer

structure Canvas (α : Type) where
  /-- The map in force. -/
  ctm : Affine α
  /-- The maps to be restored, the most recent one first. -/
  saved : List (Affine α)
  /-- The commands of the open path. There is none open if there are none. -/
  current : Array (Command α)
  paths : Array (Path α)
  pen : Option (Point α)
  /-- Where the sub-path began to which closing it goes back. -/
  start : Option (Point α)
deriving Repr

/-- A state, and why it was not passed. -/
abbrev Outcome (α : Type) := Canvas α × Option DrawError

namespace Canvas
variable {α : Type}

def empty [Zero α] [One α] : Canvas α where
  ctm := 1
  saved := []
  current := #[]
  paths := #[]
  pen := none
  start := none

def emit (s : Canvas α) (c : Command α) : Canvas α :=
  { s with
    current := s.current.push c
    pen := match c with
      | .close => s.start <|> s.pen
      | c => c.stop?
    start := match c with
      | .move p => some p
      | _ => s.start }

/-- Ends the open path, if there is one. -/
def paint (s : Canvas α) (p : Paint) : Canvas α :=
  if s.current.isEmpty then s
  else { s with current := #[], paths := s.paths.push ⟨s.current.toList, p⟩ }

/-- A path that was not painted by the end of the drawing is not lost. -/
def finish (s : Canvas α) : Canvas α := s.paint .unknown

/-- All commands drawn so far, in order: those of the paths, then those of the
open one. -/
def drawn (s : Canvas α) : List (Command α) :=
  s.paths.toList.flatMap (·.commands) ++ s.current.toList

@[simp] theorem emit_ctm (s : Canvas α) (c : Command α) : (s.emit c).ctm = s.ctm := rfl

@[simp] theorem emit_saved (s : Canvas α) (c : Command α) : (s.emit c).saved = s.saved := rfl

@[simp] theorem emit_paths (s : Canvas α) (c : Command α) : (s.emit c).paths = s.paths := rfl

@[simp] theorem emit_current (s : Canvas α) (c : Command α) :
    (s.emit c).current = s.current.push c := rfl

@[simp] theorem drawn_emit (s : Canvas α) (c : Command α) : (s.emit c).drawn = s.drawn ++ [c] := by
  simp [drawn]

@[simp] theorem paint_ctm (s : Canvas α) (p : Paint) : (s.paint p).ctm = s.ctm := by
  unfold paint; split <;> rfl

@[simp] theorem paint_saved (s : Canvas α) (p : Paint) : (s.paint p).saved = s.saved := by
  unfold paint; split <;> rfl

@[simp] theorem paint_pen (s : Canvas α) (p : Paint) : (s.paint p).pen = s.pen := by
  unfold paint; split <;> rfl

@[simp] theorem paint_start (s : Canvas α) (p : Paint) : (s.paint p).start = s.start := by
  unfold paint; split <;> rfl

/-- Painting leaves no path open. -/
@[simp] theorem paint_current (s : Canvas α) (p : Paint) : (s.paint p).current = #[] := by
  unfold paint
  split
  · simpa using ‹s.current.isEmpty = true›
  · rfl

/-- Painting loses no command and repeats none. -/
@[simp] theorem drawn_paint (s : Canvas α) (p : Paint) : (s.paint p).drawn = s.drawn := by
  unfold paint
  split <;> simp [drawn]

end Canvas

section
variable {α : Type} [Zero α] [Add α] [Mul α] [Reading α]

/-- The commands that a path operator draws with its arguments, in order, each
drawn only if those before it are. -/
def PathOperator.attempts (ctm : Affine α) (pen : Option (Point α)) (args : Value α) :
    PathOperator → List (Except DrawError (Command α))
  | .move => [do
    let (x, y) ← Value.two (← args.arguments)
    return .move (← ctm.locate x y)]
  | .line => [do
    let (x, y) ← Value.two (← args.arguments)
    return .line (← ctm.locate x y)]
  | .curve => [do
    let (x₁, y₁, x₂, y₂, x₃, y₃) ← Value.six (← args.arguments)
    let c₁ ← ctm.locate x₁ y₁
    let c₂ ← ctm.locate x₂ y₂
    return .cubic c₁ c₂ (← ctm.locate x₃ y₃)]
  | .curveFromPen => [do
    let (x₂, y₂, x₃, y₃) ← Value.four (← args.arguments)
    let c₂ ← ctm.locate x₂ y₂
    let stop ← ctm.locate x₃ y₃
    return .cubic (pen.getD .origin) c₂ stop]
  | .curveToEnd => [do
    let (x₁, y₁, x₃, y₃) ← Value.four (← args.arguments)
    let c₁ ← ctm.locate x₁ y₁
    let stop ← ctm.locate x₃ y₃
    return .cubic c₁ stop stop]
  | .close => [.ok .close]
  | .rectangle =>
    match args.arguments.bind Value.four with
    | .error e => [.error e]
    | .ok (x, y, width, height) =>
      [ do return .move (← ctm.locate x y),
        do return .line (← ctm.locate (← x.plus width) y),
        do return .line (← ctm.locate (← x.plus width) (← y.plus height)),
        do return .line (← ctm.locate x (← y.plus height)),
        .ok .close ]

/-- The results before the first failure, and that failure. -/
def untilFailure {ε β : Type} : List (Except ε β) → List β × Option ε
  | [] => ([], none)
  | .error e :: _ => ([], some e)
  | .ok b :: rest =>
    let (bs, e) := untilFailure rest
    (b :: bs, e)

/-- Draws with a path operator as far as its arguments allow. -/
def Canvas.draw (s : Canvas α) (op : PathOperator) (args : Value α) : Outcome α :=
  let (commands, e) := untilFailure (op.attempts s.ctm s.pen args)
  (commands.foldl .emit s, e)

/-- Draws with each path operator that a value spells, cutting its coordinates
off a common list from a position on. Other values are skipped, and take no
coordinates. -/
def Canvas.drawEach (coordinates : Value α) : List (Value α) → Nat → Canvas α → Outcome α
  | [], _, s => (s, none)
  | v :: rest, position, s =>
    match PathOperator.ofValue? v with
    | none => drawEach coordinates rest position s
    | some op =>
      match coordinates.slice position op.arity with
      | .error e => (s, some e)
      | .ok cut =>
        match s.draw op cut with
        | (s, some e) => (s, some e)
        | (s, none) => drawEach coordinates rest (position + op.arity) s

/-- Draws with several path operators. Arguments after the list of operators
and the list of coordinates are not looked at. -/
def Canvas.drawCompound (s : Canvas α) (args : Value α) : Outcome α :=
  let parts : Except DrawError (List (Value α) × Value α) := do
    let operators ← args.argument 0
    let coordinates ← args.argument 1
    return (← operators.iterate, coordinates)
  match parts with
  | .error e => (s, some e)
  | .ok (operators, coordinates) => Canvas.drawEach coordinates operators 0 s

/-- The map that six coordinates make. -/
def Affine.ofArguments (args : Value α) : Except DrawError (Affine α) := do
  let (a, b, c, d, e, f) ← Value.six (← args.arguments)
  return ⟨← a.factor, ← b.factor, ← c.factor, ← d.factor, ← e.factor, ← f.factor⟩

/-- What an operator with its arguments does. -/
def Canvas.apply (s : Canvas α) (args : Value α) : Operator → Outcome α
  | .save => ({ s with saved := s.ctm :: s.saved }, none)
  | .restore =>
    let (ctm, saved) := s.ctm.restore s.saved
    ({ s with ctm, saved }, none)
  | .transform =>
    match Affine.ofArguments args with
    | .error e => (s, some e)
    | .ok t => ({ s with ctm := s.ctm.comp t }, none)
  | .path op => s.draw op args
  | .compound => s.drawCompound args
  | .paint p closes => ((if closes ∧ ¬s.current.isEmpty then s.emit .close else s).paint p, none)

/-- What a spelled operator does: nothing, if it shapes no path. -/
def Canvas.process (s : Canvas α) (opcode args : Value α) : Outcome α :=
  match Operator.ofValue? opcode with
  | none => (s, none)
  | some op => s.apply args op

end
end PlotDigitizer
