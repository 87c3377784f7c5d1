/-
A pass: the stages of a registry run once over one page.

A pass is complete or empty. The first stage that fails ends it and takes all
paths and curves with it; only the failure is kept. A stage reads the page and
the output of the stages before it, and writes that output.
-/
import PlotDigitizer.Bezier.Flatten
import PlotDigitizer.Curve
import PlotDigitizer.Drawing.Arguments
import PlotDigitizer.Drawing.Path
import PlotDigitizer.Stage.Registry

namespace PlotDigitizer

/-- One page: its drawing as it is given, its number, and how closely curves are
followed. -/
structure Page (α : Type) where
  operators : Value α
  number : Int
  flattening : Flattening α

/-- What the stages of a pass write. -/
structure Output (α : Type) where
  paths : List (Path α) := []
  curves : List (Curve α) := []

/-- Why a stage failed. -/
inductive Fault where
  | draw (e : DrawError)
  | flatten (e : FlattenError)
  /-- A failure by its name and what it says, which may be nothing. -/
  | named (name : String) (text : Text) (isNamed : name ≠ "")
deriving Repr, DecidableEq

/-- What is kept of a failure: what it says, or its name. It is never empty. -/
def Fault.report : Fault → Text
  | .draw e => e.message
  | .flatten e => e.message
  | .named name text _ => if text.isEmpty then name else text

/-- The work of a stage: the output it leaves, and why it failed, if it did. -/
abbrev Body (α : Type) := Page α → Output α → Output α × Option Fault

structure Pass (α : Type) where
  output : Output α := {}
  /-- The stages that were begun, in order. -/
  started : List Text := []
  /-- The stages that did not fail, each once. -/
  completed : List Text := []
  /-- The stage that failed, and the report of it. -/
  failure : Option (Text × Text) := none

variable {α : Type}

/-- Runs stages up to the first that fails. -/
def Pass.run (page : Page α) : List (Stage (Body α)) → Pass α → Pass α
  | [], p => p
  | s :: rest, p =>
    let started := p.started ++ [s.id]
    match s.body page p.output with
    | (_, some fault) => { p with output := {}, started, failure := some (s.id, fault.report) }
    | (output, none) =>
      let completed := if p.completed.contains s.id then p.completed else p.completed ++ [s.id]
      Pass.run page rest { p with output, started, completed }

/-- A pass over a page, unless the stages have no order: then none is begun. -/
def Registry.pass (r : Registry (Body α)) (page : Page α) : Pass α × Option RegistryError :=
  match r.order with
  | .error e => ({}, some e)
  | .ok stages => (Pass.run page stages {}, none)

end PlotDigitizer
