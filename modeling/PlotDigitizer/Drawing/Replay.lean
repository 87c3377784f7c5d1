/-
Replaying a drawing: a stream of operators, each paired with its arguments.
-/
import PlotDigitizer.Drawing.Canvas

namespace PlotDigitizer

variable {α : Type} [Zero α] [Add α] [Mul α] [Reading α]

/-- The operators of a stream one after another, up to one that is stopped or
that is no pair. -/
def Canvas.processAll : List (Value α) → Canvas α → Outcome α
  | [], s => (s, none)
  | item :: rest, s =>
    match item.unpack.bind Value.two with
    | .error e => (s, some e)
    | .ok (opcode, args) =>
      match s.process opcode args with
      | (s, some e) => (s, some e)
      | (s, none) => processAll rest s

variable [One α]

/-- A whole stream, from an empty canvas on. Only one that was not stopped is
finished. -/
def Canvas.replay (stream : Value α) : Outcome α :=
  match stream.iterate with
  | .error e => (.empty, some e)
  | .ok items =>
    match Canvas.processAll items .empty with
    | (s, some e) => (s, some e)
    | (s, none) => (s.finish, none)

/-- What can be asked of a canvas. -/
inductive Canvas.Call (α : Type) where
  | process (opcode args : Value α)
  | finish
  | reset
  | replay (stream : Value α)

/-- What a call does. A canvas that was stopped can be called again. -/
def Canvas.call (s : Canvas α) : Canvas.Call α → Outcome α
  | .process opcode args => s.process opcode args
  | .finish => (s.finish, none)
  | .reset => (.empty, none)
  | .replay stream => Canvas.replay stream

/-- The paths of a drawing. -/
def extractPaths (stream : Value α) : Except DrawError (List (Path α)) :=
  match Canvas.replay stream with
  | (_, some e) => .error e
  | (s, none) => .ok s.paths.toList

end PlotDigitizer
