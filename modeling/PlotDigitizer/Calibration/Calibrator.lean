/-
Calibrating the axes of a chart.

Each axis has a reference segment on the page and the data values at the
segment's two ends. An axis is calibrated once it has all three; its scale and
offset then take a page coordinate to a data value. The axes of a chart are
parallel to those of the page, so each coordinate is mapped by itself.

A reference that has no extent along its own axis cannot be used. Each
complete axis is asked for its scale before it is asked whether both are
complete, so such a reference is reported even while the other axis is not.
-/
import PlotDigitizer.Curve
import PlotDigitizer.Failure
import PlotDigitizer.Input

namespace PlotDigitizer

inductive Axis where
  | x
  | y
deriving Repr, DecidableEq

namespace Axis

def name : Axis → String
  | x => "x"
  | y => "y"

def ofName? (s : String) : Option Axis :=
  if s = "x" then some x else if s = "y" then some y else none

def ofValue {α : Type} (v : Value α) : Except (InputError α) Axis := v.named "Axis" ofName?

end Axis

/-- An end of a reference segment. -/
inductive Endpoint where
  | start
  | stop
deriving Repr, DecidableEq

namespace Endpoint

def ofName? (s : String) : Option Endpoint :=
  if s = "start" then some start else if s = "end" then some stop else none

def ofValue {α : Type} (v : Value α) : Except (InputError α) Endpoint :=
  v.named "Endpoint" ofName?

end Endpoint

/-- A reference segment on the page. -/
structure Segment (α : Type) where
  x₁ : α
  y₁ : α
  x₂ : α
  y₂ : α
deriving Repr, DecidableEq

/-- The coordinates of the segment's ends along an axis. -/
def Segment.extent {α : Type} (s : Segment α) : Axis → α × α
  | .x => (s.x₁, s.x₂)
  | .y => (s.y₁, s.y₂)

/-- The segment that spans a set of points, from its least corner to its
greatest. -/
def Segment.spanning {α : Type} [BEq α] [Zero α] [LT α] [DecidableLT α] :
    List (Point α) → Except (InputError α) (Segment α)
  | [] => .error .noPoints
  | points =>
    let box := Box.ofPoints points
    .ok ⟨box.xmin, box.ymin, box.xmax, box.ymax⟩

/-- What is known of one axis. -/
structure AxisSlots (α : Type) where
  segment : Option (Segment α) := none
  start : Option α := none
  stop : Option α := none
deriving Repr

def AxisSlots.isComplete {α : Type} (s : AxisSlots α) : Bool :=
  s.segment.isSome && s.start.isSome && s.stop.isSome

/-- The map of one coordinate to data values. -/
structure AxisScale (α : Type) where
  scale : α
  offset : α
  dataStart : α
  dataStop : α
deriving Repr

def AxisScale.apply {α : Type} [Add α] [Mul α] (s : AxisScale α) (v : α) : α :=
  v * s.scale + s.offset

structure Scales (α : Type) where
  x : AxisScale α
  y : AxisScale α
deriving Repr

def Scales.apply {α : Type} [Add α] [Mul α] (s : Scales α) (p : Point α) : Point α :=
  ⟨s.x.apply p.x, s.y.apply p.y⟩

structure Calibrator (α : Type) where
  x : AxisSlots α := {}
  y : AxisSlots α := {}
deriving Repr

namespace Calibrator
variable {α : Type}

def slots (c : Calibrator α) : Axis → AxisSlots α
  | .x => c.x
  | .y => c.y

def update (c : Calibrator α) (a : Axis) (f : AxisSlots α → AxisSlots α) : Calibrator α :=
  match a with
  | .x => { c with x := f c.x }
  | .y => { c with y := f c.y }

@[simp] theorem slots_update_self (c : Calibrator α) (a : Axis) (f : AxisSlots α → AxisSlots α) :
    (c.update a f).slots a = f (c.slots a) := by
  cases a <;> rfl

theorem slots_update_of_ne (c : Calibrator α) {a b : Axis} (h : b ≠ a)
    (f : AxisSlots α → AxisSlots α) : (c.update a f).slots b = c.slots b := by
  cases a <;> cases b <;> simp [slots, update] at h ⊢

def isCalibrated (c : Calibrator α) (a : Axis) : Bool := (c.slots a).isComplete

def isFullyCalibrated (c : Calibrator α) : Bool := c.isCalibrated .x && c.isCalibrated .y

def setSegment (c : Calibrator α) (a : Axis) (s : Segment α) : Calibrator α :=
  c.update a fun slots => { slots with segment := some s }

/-- Records the data value at an end of an axis's segment. -/
def setNumber (c : Calibrator α) (a : Axis) (e : Endpoint) (v : α) : Calibrator α :=
  c.update a fun slots => match e with
    | .start => { slots with start := some v }
    | .stop => { slots with stop := some v }

/-- Records the data value that is given for an end of an axis's segment. The
axis is looked at first, then the value, then the end. -/
def enterValue [Reading α] (c : Calibrator α) (axis endpoint value : Value α) :
    Except (InputError α) (Calibrator α) := do
  let a ← Axis.ofValue axis
  let v ← value.scalar
  if !Reading.isFinite v then throw (.notFinite value)
  let e ← Endpoint.ofValue endpoint
  return c.setNumber a e v

/-- Records as an axis's segment the one that spans a set of points. -/
def setSpan [BEq α] [Zero α] [LT α] [DecidableLT α] (c : Calibrator α) (a : Axis)
    (points : List (Point α)) : Except (InputError α) (Calibrator α) := do
  return c.setSegment a (← Segment.spanning points)

/-- What can be asked to change a calibration, in raw values. -/
inductive Change (α : Type) where
  | segment (axis : Value α) (segment : Segment α)
  | span (axis points : Value α)
  | curve (axis : Value α) (curve : Curve α)
  | value (axis endpoint value : Value α)
  | reset

/-- The calibration after a change. The axis is looked at before anything
else. -/
def change [BEq α] [Zero α] [LT α] [DecidableLT α] [Reading α] (c : Calibrator α) :
    Change α → Except (InputError α) (Calibrator α)
  | .segment axis s => do return c.setSegment (← Axis.ofValue axis) s
  | .span axis points => do c.setSpan (← Axis.ofValue axis) (← points.points)
  | .curve axis curve => do c.setSpan (← Axis.ofValue axis) curve.points
  | .value axis endpoint value => c.enterValue axis endpoint value
  | .reset => .ok {}

section
variable [BEq α] [Zero α] [Add α] [Sub α] [Mul α] [Div α]

/-- The scale of one axis; `none` if one of its slots is empty. -/
def axisScale? (c : Calibrator α) (a : Axis) : Except Failure (Option (AxisScale α)) :=
  match c.slots a with
  | ⟨some segment, some start, some stop⟩ =>
    let (lo, hi) := segment.extent a
    let span := hi - lo
    if span == 0 then .error { cause := .degenerateAxis a.name }
    else
      let scale := (stop - start) / span
      .ok (some { scale, offset := start - lo * scale, dataStart := start, dataStop := stop })
  | _ => .ok none

/-- The scales of both axes. -/
def scales (c : Calibrator α) : Except Failure (Scales α) := do
  let x ← c.axisScale? .x
  let y ← c.axisScale? .y
  match x, y with
  | some x, some y => return ⟨x, y⟩
  | _, _ => throw { cause := .notCalibrated }

/-- A page point in data coordinates, if there are scales. -/
def convert? (c : Calibrator α) (p : Point α) : Option (Point α) :=
  match c.scales with
  | .ok s => some (s.apply p)
  | .error _ => none

/-- Page points in data coordinates, if there are scales. -/
def convertAll? (c : Calibrator α) (points : List (Point α)) : Option (List (Point α)) :=
  match c.scales with
  | .ok s => some (points.map s.apply)
  | .error _ => none

/-- Raw points in data coordinates, if there are scales. Without scales they
are not looked at. -/
def convertRaw [Reading α] (c : Calibrator α) (points : Value α) :
    Except (InputError α) (Option (List (Point α))) :=
  match c.scales with
  | .ok _ => points.points.map c.convertAll?
  | .error _ => .ok none

end
end Calibrator
end PlotDigitizer
