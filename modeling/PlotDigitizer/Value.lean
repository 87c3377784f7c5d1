/-
Raw input: the values a drawing, a request or a form field is made of before
anything is known about them.

A whole number and a scalar are different values even where they are equal:
sums of whole numbers are exact, and only whole numbers are operator codes.
The fields of a record keep their order.
-/
import PlotDigitizer.Number.Layout
import PlotDigitizer.Text.Quoted

namespace PlotDigitizer

inductive Value (α : Type) where
  | null
  | bool (b : Bool)
  | int (n : Int)
  | real (x : α)
  | text (t : Text)
  | list (items : List (Value α))
  | record (fields : List (Text × Value α))

/-- What sort of value stands where another was needed. -/
inductive Kind where
  | null
  | bool
  | int
  | real
  | text
  | list
  | record
  /-- The empty argument list that a missing one stands for. -/
  | nothing
deriving Repr, DecidableEq

/-- The name of a kind in messages. -/
def Kind.name : Kind → String
  | .null => "NoneType"
  | .bool => "bool"
  | .int => "int"
  | .real => "float"
  | .text => "str"
  | .list => "list"
  | .record => "dict"
  | .nothing => "tuple"

namespace Value
variable {α : Type}

def kind : Value α → Kind
  | .null => .null
  | .bool _ => .bool
  | .int _ => .int
  | .real _ => .real
  | .text _ => .text
  | .list _ => .list
  | .record _ => .record

/-- The members of a value that has members: the items of a list, the
letters of a text, the names of a record's fields. -/
def members? : Value α → Option (List (Value α))
  | .list items => some items
  | .text t => some (t.letters.map fun l => .text ⟨[l]⟩)
  | .record fields => some (fields.map fun f => .text f.1)
  | _ => none

/-- The value of a record's field. -/
def field? (name : String) : Value α → Option (Value α)
  | .record fields => (fields.find? fun f => f.1 == Text.ofString name).map (·.2)
  | _ => none

/-- A value as a whole number: a truth value counts as zero or one. -/
def whole? : Value α → Option Int
  | .int n => some n
  | .bool b => some (if b then 1 else 0)
  | _ => none

/-- Whether a value equals a whole number. A scalar does if it is the scalar
of that number. -/
def isWhole [BEq α] (ofInt? : Int → Option α) (n : Int) : Value α → Bool
  | .real x => (ofInt? n).any (· == x)
  | v => v.whole? == some n

mutual
/-- A value as it is shown in a message. -/
def quoted : Value Float → String
  | .null => "None"
  | .bool b => if b then "True" else "False"
  | .int n => toString n
  | .real x => Layout.plain.double x
  | .text t => t.quoted
  | .list items => "[" ++ ", ".intercalate (quotedItems items) ++ "]"
  | .record fields => "\x7b" ++ ", ".intercalate (quotedFields fields) ++ "\x7d"

def quotedItems : List (Value Float) → List String
  | [] => []
  | v :: rest => v.quoted :: quotedItems rest

def quotedFields : List (Text × Value Float) → List String
  | [] => []
  | (name, v) :: rest => (name.quoted ++ ": " ++ v.quoted) :: quotedFields rest
end

end Value
end PlotDigitizer
