/-
Raw input read as names, numbers and sets of points.

A set of points is any nesting of lists with as many numbers as its points
have coordinates, all its lists at one depth being of one length and none too
deep. The numbers are read in order and taken in pairs.
-/
import PlotDigitizer.Number.Double
import PlotDigitizer.Plane.Point
import PlotDigitizer.Value

namespace PlotDigitizer

/-- Why input was refused. -/
inductive InputError (α : Type) where
  /-- A value is none of a family of names. -/
  | notMember (family : String) (value : Value α)
  | notNumeral (text : Text)
  | notNumber (kind : Kind)
  /-- A whole number is beyond every scalar. -/
  | tooLarge
  | notFinite (value : Value α)
  | noPoints
  /-- An odd count of coordinates. -/
  | unpaired (count : Nat)
  /-- Lists of one depth that are not of one length; the lengths down to
  there. -/
  | ragged (shape : List Nat)
  /-- Lists nested deeper than a set of points may be. -/
  | tooDeep

/-- The most lists that a coordinate may stand in. -/
def maxNesting : Nat := 64

/-- The lengths of a nesting, one after another. -/
def shapeText (shape : List Nat) : String :=
  match shape with
  | [n] => "(" ++ toString n ++ ",)"
  | _ => "(" ++ ", ".intercalate (shape.map toString) ++ ")"

def InputError.message : InputError Float → String
  | .notMember family v => v.quoted ++ " is not a valid " ++ family
  | .notNumeral text => "could not convert string to float: " ++ text.quoted
  | .notNumber k => "float() argument must be a string or a real number, not '" ++ k.name ++ "'"
  | .tooLarge => "int too large to convert to float"
  | .notFinite v => "Calibration value must be finite, got " ++ v.quoted
  | .noPoints => "Cannot calibrate from an empty point set"
  | .unpaired count => "cannot reshape array of size " ++ toString count ++ " into shape (2)"
  | .ragged shape =>
    "setting an array element with a sequence. The requested array has an inhomogeneous shape"
      ++ " after " ++ toString shape.length ++ " dimensions. The detected shape was "
      ++ shapeText shape ++ " + inhomogeneous part."
  | .tooDeep =>
    "setting an array element with a sequence. The requested array would exceed the maximum number"
      ++ " of dimension of " ++ toString maxNesting ++ "."

namespace Value
variable {α : Type}

/-- A value as a scalar: a number, or a text that is a numeral. -/
def scalar [Reading α] (v : Value α) : Except (InputError α) α :=
  match v, v.whole? with
  | .real x, _ => .ok x
  | .text t, _ =>
    match t.toString?.bind Reading.ofText? with
    | some x => .ok x
    | none => .error (.notNumeral t)
  | _, some n =>
    match Reading.ofInt? n with
    | some x => .ok x
    | none => .error .tooLarge
  | _, none => .error (.notNumber v.kind)

/-- A value as one of a family of names. -/
def named {β : Type} (family : String) (ofName? : String → Option β) (v : Value α) :
    Except (InputError α) β :=
  match v with
  | .text t =>
    match t.toString?.bind ofName? with
    | some b => .ok b
    | none => .error (.notMember family v)
  | _ => .error (.notMember family v)

/-- The longest list that two lists begin with. -/
def commonStart : List Nat → List Nat → List Nat
  | a :: as, b :: bs => if a = b then a :: commonStart as bs else []
  | _, _ => []

mutual
/-- The lengths of a nesting from outside in, as far as they are the same
everywhere, and whether they are so all the way down. -/
def shape : Value α → List Nat × Bool
  | .list [] => ([0], true)
  | .list (v :: rest) =>
    let (inner, uniform) := shapeWith v.shape rest
    ((rest.length + 1) :: inner, uniform)
  | _ => ([], true)

/-- The same of the items of a list, given that of the items before. -/
def shapeWith : List Nat × Bool → List (Value α) → List Nat × Bool
  | s, [] => s
  | (before, uniform), v :: rest =>
    let (here, even) := v.shape
    shapeWith (commonStart before here, uniform && even && before == here) rest
end

mutual
/-- The values in a nesting that are no lists, in order. -/
def leaves : Value α → List (Value α)
  | .list items => leavesOf items
  | v => [v]

def leavesOf : List (Value α) → List (Value α)
  | [] => []
  | v :: rest => v.leaves ++ leavesOf rest
end

variable [Reading α]

/-- A coordinate. A missing one is undefined. -/
def coordinate : Value α → Except (InputError α) α
  | .null => .ok Reading.undefined
  | v => v.scalar

/-- Coordinates taken in pairs. -/
def pairs : List α → List (Point α)
  | x :: y :: rest => ⟨x, y⟩ :: pairs rest
  | _ => []

/-- The points that a value holds. -/
def points (v : Value α) : Except (InputError α) (List (Point α)) :=
  let (shape, uniform) := v.shape
  if maxNesting < shape.length ∨ (shape.length = maxNesting ∧ ¬uniform) then .error .tooDeep
  else if !uniform then .error (.ragged shape)
  else do
    let coordinates ← v.leaves.mapM coordinate
    if coordinates.length % 2 = 0 then return pairs coordinates
    else throw (.unpaired coordinates.length)

end Value
end PlotDigitizer
