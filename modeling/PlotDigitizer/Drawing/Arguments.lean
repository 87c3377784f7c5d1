/-
The arguments of drawing operators: raw values that have to come in the right
number, and each of which has to be a coordinate.

Nothing is known of them beforehand. An operator looks at its arguments in a
fixed order, and the first one that does not fit stops it.
-/
import PlotDigitizer.Scalar
import PlotDigitizer.Plane.Affine
import PlotDigitizer.Value

namespace PlotDigitizer

/-- Why an operator was stopped. -/
inductive DrawError where
  | tooFew (expected got : Nat)
  | tooMany (expected : Nat)
  /-- A value without members stands for a list of arguments. -/
  | notUnpackable (kind : Kind)
  | notIterable (kind : Kind)
  /-- A list of arguments ends before the one that is needed. -/
  | outOfRange (kind : Kind)
  /-- A record has no field by that number. -/
  | noField (position : Nat)
  | notSubscriptable (kind : Kind)
  /-- A record has no consecutive fields. -/
  | notSliceable
  /-- A value is multiplied by a scalar, and is no number. -/
  | notMultipliable (kind : Kind)
  | notAddable (left right : Kind)
  /-- A whole number is beyond every scalar. -/
  | tooLarge
deriving Repr, DecidableEq

def DrawError.message : DrawError → String
  | .tooFew expected got =>
    "not enough values to unpack (expected " ++ toString expected ++ ", got " ++ toString got ++ ")"
  | .tooMany expected => "too many values to unpack (expected " ++ toString expected ++ ")"
  | .notUnpackable k => "cannot unpack non-iterable " ++ k.name ++ " object"
  | .notIterable k => "'" ++ k.name ++ "' object is not iterable"
  | .outOfRange .text => "string index out of range"
  | .outOfRange k => k.name ++ " index out of range"
  | .noField position => toString position
  | .notSubscriptable k => "'" ++ k.name ++ "' object is not subscriptable"
  | .notSliceable => "unhashable type: 'slice'"
  | .notMultipliable .text | .notMultipliable .list =>
    "can't multiply sequence by non-int of type 'float'"
  | .notMultipliable k => "unsupported operand type(s) for *: 'float' and '" ++ k.name ++ "'"
  | .notAddable left right =>
    "unsupported operand type(s) for +: '" ++ left.name ++ "' and '" ++ right.name ++ "'"
  | .tooLarge => "int too large to convert to float"

/-- The failure of a list of `got` values, another number than expected. -/
def DrawError.miscounted (expected got : Nat) : DrawError :=
  if got < expected then .tooFew expected got else .tooMany expected

namespace Value
variable {α : Type}

/-- The members of a value that is taken apart into them. -/
def unpack (v : Value α) : Except DrawError (List (Value α)) :=
  match v.members? with
  | some vs => .ok vs
  | none => .error (.notUnpackable v.kind)

/-- The arguments that a value stands for. A missing argument list is an empty
one. -/
def arguments : Value α → Except DrawError (List (Value α))
  | .null => .ok []
  | args => args.unpack

/-- The values of a list of two. -/
def two : List (Value α) → Except DrawError (Value α × Value α)
  | [x, y] => .ok (x, y)
  | vs => .error (.miscounted 2 vs.length)

/-- The values of a list of four. -/
def four : List (Value α) → Except DrawError (Value α × Value α × Value α × Value α)
  | [x₁, y₁, x₂, y₂] => .ok (x₁, y₁, x₂, y₂)
  | vs => .error (.miscounted 4 vs.length)

/-- The values of a list of six. -/
def six : List (Value α) →
    Except DrawError (Value α × Value α × Value α × Value α × Value α × Value α)
  | [x₁, y₁, x₂, y₂, x₃, y₃] => .ok (x₁, y₁, x₂, y₂, x₃, y₃)
  | vs => .error (.miscounted 6 vs.length)

/-- The members of a value that is gone through one by one. -/
def iterate (v : Value α) : Except DrawError (List (Value α)) :=
  match v.members? with
  | some vs => .ok vs
  | none => .error (.notIterable v.kind)

/-- The argument at a position. -/
def argument (args : Value α) (position : Nat) : Except DrawError (Value α) :=
  match args, args.members? with
  | .null, _ => .error (.outOfRange .nothing)
  | .record _, _ => .error (.noField position)
  | _, none => .error (.notSubscriptable args.kind)
  | _, some vs =>
    match vs[position]? with
    | some v => .ok v
    | none => .error (.outOfRange args.kind)

/-- Up to `count` consecutive members from a position on. -/
def slice (v : Value α) (position count : Nat) : Except DrawError (Value α) :=
  match v with
  | .list items => .ok (.list ((items.drop position).take count))
  | .text t => .ok (.text ⟨(t.letters.drop position).take count⟩)
  | .record _ => .error .notSliceable
  | _ => .error (.notSubscriptable v.kind)

variable [Reading α]

/-- A value as a factor of a scalar. -/
def factor (v : Value α) : Except DrawError α :=
  match v, v.whole? with
  | .real x, _ => .ok x
  | _, some n =>
    match Reading.ofInt? n with
    | some x => .ok x
    | none => .error .tooLarge
  | _, none => .error (.notMultipliable v.kind)

/-- The sum of a number `v` and a value. Whole numbers add exactly. -/
def plus [Add α] (v w : Value α) : Except DrawError (Value α) :=
  match v, w, v.whole?, w.whole? with
  | _, _, some m, some n => .ok (.int (m + n))
  | .real x, .real y, _, _ => .ok (.real (x + y))
  | .real x, _, _, some n =>
    match Reading.ofInt? n with
    | some y => .ok (.real (x + y))
    | none => .error .tooLarge
  | _, .real y, some m, _ =>
    match Reading.ofInt? m with
    | some x => .ok (.real (x + y))
    | none => .error .tooLarge
  | _, _, _, _ => .error (.notAddable v.kind w.kind)

end Value

/-- The point that a map takes two coordinates to. -/
def Affine.locate {α : Type} [Add α] [Mul α] [Reading α] (t : Affine α) (x y : Value α) :
    Except DrawError (Point α) := do
  let x ← x.factor
  let y ← y.factor
  return t.apply ⟨x, y⟩

end PlotDigitizer
