/-
What a stream of operators draws, told without the canvas.

A drawing is told by its marks: the commands it draws, in order, and between
them the paints. Which marks an operator makes is said by relations with a
rule for each operator (`PathOperator.Emits`, `Operator.Logs`,
`Tells`); beside the marks they keep only the map in force and the saved ones
(`Log`). Where the pen is and whether a path is open are read off the
marks. `Divided` says which paths a drawing's marks are divided into.
-/
import PlotDigitizer.Drawing.Replay

namespace PlotDigitizer

/-- What is left of an operator: a command, or a paint. -/
inductive Mark (α : Type) where
  | command (c : Command α)
  | paint (p : Paint)
deriving Repr, DecidableEq

/-- Where a pen is, and where the sub-path began that it draws. -/
structure Pen (α : Type) where
  point : Option (Point α) := none
  start : Option (Point α) := none

namespace Pen
variable {α : Type}

/-- The pen after a command. Closing takes it back to where the sub-path
began, if one did. -/
def follow (p : Pen α) : Command α → Pen α
  | .move q => ⟨some q, some q⟩
  | .line q | .cubic _ _ q => ⟨some q, p.start⟩
  | .close => ⟨p.start <|> p.point, p.start⟩

/-- The pen that has drawn some commands. -/
def after (cs : List (Command α)) : Pen α := cs.foldl follow {}

theorem after_append (cs ds : List (Command α)) : after (cs ++ ds) = ds.foldl follow (after cs) := by
  simp [after]

end Pen

namespace Mark
variable {α : Type}

def command? : Mark α → Option (Command α)
  | command c => some c
  | paint _ => none

/-- The commands among marks, in order. -/
def commands (ms : List (Mark α)) : List (Command α) := ms.filterMap command?

/-- The commands since the last paint. -/
def unpainted (ms : List (Mark α)) : List (Command α) :=
  ms.foldl (fun cs m => match m with | command c => cs ++ [c] | paint _ => []) []

@[simp] theorem commands_append (ms ns : List (Mark α)) :
    commands (ms ++ ns) = commands ms ++ commands ns := by
  simp [commands]

@[simp] theorem commands_map_command (cs : List (Command α)) : commands (cs.map .command) = cs := by
  induction cs with
  | nil => rfl
  | cons c cs ih => simpa [commands, command?] using ih

theorem commands_paint (p : Paint) : commands [(paint p : Mark α)] = [] := rfl

@[simp] theorem unpainted_nil : unpainted ([] : List (Mark α)) = [] := rfl

@[simp] theorem unpainted_append_command (ms : List (Mark α)) (c : Command α) :
    unpainted (ms ++ [command c]) = unpainted ms ++ [c] := by
  simp [unpainted]

@[simp] theorem unpainted_append_commands (ms : List (Mark α)) (cs : List (Command α)) :
    unpainted (ms ++ cs.map command) = unpainted ms ++ cs := by
  induction cs generalizing ms with
  | nil => simp
  | cons c cs ih =>
    have h := ih (ms ++ [command c])
    simpa using h

@[simp] theorem unpainted_append_paint (ms : List (Mark α)) (p : Paint) :
    unpainted (ms ++ [paint p]) = [] := by
  simp [unpainted]

end Mark

/-- The paths that marks are divided into. A paint ends the path of the
commands since the one before it, and gives it its paint; one that finds no
command is no boundary. Commands that no paint follows are a path as well. -/
inductive Divided {α : Type} : List (Mark α) → List (Path α) → Prop
  | nil : Divided [] []
  | idle {p ms paths} : Divided ms paths → Divided (.paint p :: ms) paths
  | painted {cs p ms paths} : cs ≠ [] → Divided ms paths →
      Divided (cs.map .command ++ .paint p :: ms) (⟨cs, p⟩ :: paths)
  | unpainted {cs} : cs ≠ [] → Divided (cs.map .command) [⟨cs, .unknown⟩]

/-- What is known of a drawing that is under way. -/
structure Log (α : Type) where
  /-- The map in force. -/
  ctm : Affine α
  /-- The maps to be restored, the most recent one first. -/
  saved : List (Affine α)
  marks : List (Mark α)

namespace Log
variable {α : Type}

/-- A drawing that has not begun. -/
def empty [Zero α] [One α] : Log α := ⟨⟨1, 0, 0, 1, 0, 0⟩, [], []⟩

def pen (l : Log α) : Pen α := Pen.after (Mark.commands l.marks)

def draw (l : Log α) (cs : List (Command α)) : Log α :=
  { l with marks := l.marks ++ cs.map .command }

def paint (l : Log α) (p : Paint) : Log α := { l with marks := l.marks ++ [.paint p] }

end Log

section
variable {α : Type} [Zero α] [Add α] [Mul α] [Reading α]

/-- Two raw coordinates are those of a point that a map takes to `p`. -/
def Located (t : Affine α) (x y : Value α) (p : Point α) : Prop :=
  ∃ u v, x.factor = .ok u ∧ y.factor = .ok v ∧ p = t.apply ⟨u, v⟩

/-- The commands that a path operator draws with its arguments, all its points
taken to the page by a map. Every curve has two control points, and a
rectangle is five commands. Closing looks at no argument. -/
inductive PathOperator.Emits (t : Affine α) (pen : Option (Point α)) (args : Value α) :
    PathOperator → List (Command α) → Prop
  | move {x y p} : args.arguments = .ok [x, y] → Located t x y p → Emits t pen args .move [.move p]
  | line {x y p} : args.arguments = .ok [x, y] → Located t x y p → Emits t pen args .line [.line p]
  | curve {x₁ y₁ x₂ y₂ x₃ y₃ c₁ c₂ p} : args.arguments = .ok [x₁, y₁, x₂, y₂, x₃, y₃] →
      Located t x₁ y₁ c₁ → Located t x₂ y₂ c₂ → Located t x₃ y₃ p →
      Emits t pen args .curve [.cubic c₁ c₂ p]
  | curveFromPen {x₂ y₂ x₃ y₃ c₂ p} : args.arguments = .ok [x₂, y₂, x₃, y₃] →
      Located t x₂ y₂ c₂ → Located t x₃ y₃ p →
      Emits t pen args .curveFromPen [.cubic (pen.getD .origin) c₂ p]
  | curveToEnd {x₁ y₁ x₃ y₃ c₁ p} : args.arguments = .ok [x₁, y₁, x₃, y₃] →
      Located t x₁ y₁ c₁ → Located t x₃ y₃ p → Emits t pen args .curveToEnd [.cubic c₁ p p]
  | close : Emits t pen args .close [.close]
  | rectangle {x y width height right top p₁ p₂ p₃ p₄} :
      args.arguments = .ok [x, y, width, height] →
      x.plus width = .ok right → y.plus height = .ok top →
      Located t x y p₁ → Located t right y p₂ → Located t right top p₃ → Located t x top p₄ →
      Emits t pen args .rectangle [.move p₁, .line p₂, .line p₃, .line p₄, .close]

/-- The commands that the path operators in a list draw after those drawn
`before`, each with its share of the coordinates from a position on. What is no
path operator takes no coordinates. -/
inductive EmitsEach (t : Affine α) (coordinates : Value α) :
    List (Command α) → Nat → List (Value α) → List (Command α) → Prop
  | nil {before position} : EmitsEach t coordinates before position [] []
  | skip {before position v vs cs} : PathOperator.ofValue? v = none →
      EmitsEach t coordinates before position vs cs →
      EmitsEach t coordinates before position (v :: vs) cs
  | draw {before position v vs op cut cs ds} : PathOperator.ofValue? v = some op →
      coordinates.slice position op.arity = .ok cut →
      op.Emits t (Pen.after before).point cut cs →
      EmitsEach t coordinates (before ++ cs) (position + op.arity) vs ds →
      EmitsEach t coordinates before position (v :: vs) (cs ++ ds)

/-- What an operator with its arguments adds to a log. A paint that closes
closes an open path first. -/
inductive Operator.Logs (args : Value α) (l : Log α) : Operator → Log α → Prop
  | save : Logs args l .save { l with saved := l.ctm :: l.saved }
  | restore {t rest} : l.saved = t :: rest → Logs args l .restore { l with ctm := t, saved := rest }
  | restoreNone : l.saved = [] → Logs args l .restore l
  | transform {a b c d e f a' b' c' d' e' f'} : args.arguments = .ok [a, b, c, d, e, f] →
      a.factor = .ok a' → b.factor = .ok b' → c.factor = .ok c' → d.factor = .ok d' →
      e.factor = .ok e' → f.factor = .ok f' →
      Logs args l .transform { l with ctm := l.ctm.comp ⟨a', b', c', d', e', f'⟩ }
  | path {op cs} : op.Emits l.ctm l.pen.point args cs → Logs args l (.path op) (l.draw cs)
  | compound {operators coordinates vs cs} : args.argument 0 = .ok operators →
      args.argument 1 = .ok coordinates → operators.iterate = .ok vs →
      EmitsEach l.ctm coordinates (Mark.commands l.marks) 0 vs cs →
      Logs args l .compound (l.draw cs)
  | paint {p} : Logs args l (.paint p false) (l.paint p)
  | paintClosed {p} : Mark.unpainted l.marks ≠ [] →
      Logs args l (.paint p true) ((l.draw [.close]).paint p)
  | paintNone {p} : Mark.unpainted l.marks = [] → Logs args l (.paint p true) (l.paint p)

/-- What the operators of a stream add to a log, one after another. One that
shapes no path adds nothing. -/
inductive Tells : List (Value α) → Log α → Log α → Prop
  | nil {l} : Tells [] l l
  | skip {item items opcode args l m} : item.unpack.bind Value.two = .ok (opcode, args) →
      Operator.ofValue? opcode = none → Tells items l m → Tells (item :: items) l m
  | step {item items opcode args op k l m} : item.unpack.bind Value.two = .ok (opcode, args) →
      Operator.ofValue? opcode = some op → op.Logs args k l → Tells items l m →
      Tells (item :: items) k m

/-- The marks of a whole stream. -/
def Value.Draws [One α] (stream : Value α) (marks : List (Mark α)) : Prop :=
  ∃ items l, stream.iterate = .ok items ∧ Tells items .empty l ∧ l.marks = marks

end

/-- An operator of a stream by its mnemonic, with whole numbers for its arguments. -/
def Value.numbered {α : Type} (mnemonic : String) (xs : List Int) : Value α :=
  .list [.text mnemonic, .list (xs.map .int)]

end PlotDigitizer
