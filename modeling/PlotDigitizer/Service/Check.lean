/-
Checking the fields of a request.

A check either gives what was asked for or all problems at once, each with its
place in the request, in the order of the fields and items. Values are taken
leniently: a truth value counts as a number, a scalar without fraction as a
whole number, and a text as the number it is a numeral of.
-/
import PlotDigitizer.Number.Double
import PlotDigitizer.Number.Whole
import PlotDigitizer.Value

namespace PlotDigitizer.Service

/-- A step from a value to one inside it. -/
inductive Step where
  | field (name : Text)
  | item (position : Nat)
deriving Repr, DecidableEq

/-- What is wrong with a value. -/
inductive Flaw where
  | missing
  | notObject
  | notList
  | notPair
  | tooLong
  | notText
  /-- A text with a lone half stands where characters are needed. -/
  | notUnicode
  | notWhole
  | wholeFraction
  | wholeNumeral
  | wholeSize
  | notNumber
  | numeral
  | notFinite
  | notAbove
  | tooSmall
  | notInEnum
  | notLiteral
  | extra
deriving Repr, DecidableEq

/-- The name of a flaw in a response. -/
def Flaw.code : Flaw → String
  | .missing => "missing"
  | .notObject => "model_attributes_type"
  | .notList => "list_type"
  | .notPair => "tuple_type"
  | .tooLong => "too_long"
  | .notText => "string_type"
  | .notUnicode => "string_unicode"
  | .notWhole => "int_type"
  | .wholeFraction => "int_from_float"
  | .wholeNumeral => "int_parsing"
  | .wholeSize => "int_parsing_size"
  | .notNumber => "float_type"
  | .numeral => "float_parsing"
  | .notFinite => "finite_number"
  | .notAbove => "greater_than"
  | .tooSmall => "greater_than_equal"
  | .notInEnum => "enum"
  | .notLiteral => "literal_error"
  | .extra => "extra_forbidden"

structure Problem where
  place : List Step
  flaw : Flaw
  /-- The value that was refused. -/
  input : Value Float

abbrev Check (β : Type) := Except (List Problem) β

namespace Check
variable {β γ : Type}

def fail (flaw : Flaw) (input : Value Float) : Check β := .error [⟨[], flaw, input⟩]

/-- A check of a value inside another one. -/
def within (step : Step) (c : Check β) : Check β :=
  c.mapError (·.map fun p => { p with place := step :: p.place })

/-- Two checks, with the problems of both. -/
def both (c : Check β) (d : Check γ) : Check (β × γ) :=
  match c, d with
  | .ok b, .ok e => .ok (b, e)
  | .error ps, .error qs => .error (ps ++ qs)
  | .error ps, .ok _ => .error ps
  | .ok _, .error qs => .error qs

/-- One check for every item from a position on, with the problems of all. -/
def each (check : Value Float → Check β) : Nat → List (Value Float) → Check (List β)
  | _, [] => .ok []
  | position, v :: rest =>
    (both (within (.item position) (check v)) (each check (position + 1) rest)).map
      fun (b, bs) => b :: bs

end Check

open Check

/-- A field that has to be there. -/
def required {β : Type} (object : Value Float) (name : String) (check : Value Float → Check β) :
    Check β :=
  within (.field name) <|
    match object.field? name with
    | some v => check v
    | none => fail .missing object

/-- A field with a value of its own where there is none. -/
def optional {β : Type} (object : Value Float) (name : String) (default : β)
    (check : Value Float → Check β) : Check β :=
  match object.field? name with
  | some v => within (.field name) (check v)
  | none => .ok default

/-- A value that may be null. -/
def nullable {β : Type} (check : Value Float → Check β) : Value Float → Check (Option β)
  | .null => .ok none
  | v => (check v).map some

def object : Value Float → Check (Value Float)
  | .record fields => .ok (.record fields)
  | v => fail .notObject v

def text : Value Float → Check Text
  | .text t => .ok t
  | v => fail .notText v

def anything (v : Value Float) : Check (Value Float) := .ok v

def list {β : Type} (check : Value Float → Check β) : Value Float → Check (List β)
  | .list items => each check 0 items
  | v => fail .notList v

def whole (v : Value Float) : Check Int :=
  match v, v.whole? with
  | _, some n => .ok n
  | .real x, _ =>
    match Binary64.toInt? x with
    | some n => if n.natAbs < Nat.pow 2 63 then .ok n else fail .wholeSize v
    | none => fail (if Binary64.isFinite x then .wholeFraction else .notFinite) v
  | .text t, _ =>
    match t.chars?.map Numeral.whole with
    | some (.ok n) => .ok n
    | some (.error .malformed) => fail .wholeNumeral v
    | some (.error .oversized) => fail .wholeSize v
    | none => fail .notUnicode v
  | _, _ => fail .notWhole v

/-- The double of a numeral in ASCII. Blanks may stand around it, or single
underscores in it. -/
def numberOfText? (cs : List Char) : Option Float :=
  match Numeral.ascii? (Text.strip cs) with
  | some x => some x
  | none =>
    if Numeral.hasInnerUnderscores cs then Numeral.ascii? (cs.filter (· != '_')) else none

def number (v : Value Float) : Check Float :=
  match v, v.whole? with
  | .real x, _ => .ok x
  | .text t, _ =>
    match t.chars?.map numberOfText? with
    | some (some x) => .ok x
    | some none => fail .numeral v
    | none => fail .notUnicode v
  | _, some n =>
    match Binary64.ofInt? n with
    | some x => .ok x
    | none => fail .notNumber v
  | _, none => fail .notNumber v

/-- A number above zero. -/
def positive (v : Value Float) : Check Float :=
  match number v with
  | .ok x => if 0 < x then .ok x else fail .notAbove v
  | .error ps => .error ps

/-- A whole number not below zero. -/
def natural (v : Value Float) : Check Int :=
  match whole v with
  | .ok n => if 0 ≤ n then .ok n else fail .tooSmall v
  | .error ps => .error ps

/-- One of a family of names. -/
def oneOf {β : Type} (flaw : Flaw) (ofName? : String → Option β) (v : Value Float) : Check β :=
  match v with
  | .text t =>
    match t.toString?.bind ofName? with
    | some b => .ok b
    | none => fail flaw v
  | _ => fail flaw v

/-- A pair of values. Of one that is too long nothing else is told. -/
def pair {β : Type} (check : Value Float → Check β) (v : Value Float) : Check (β × β) :=
  match v with
  | .list [] => both (within (.item 0) (fail .missing v)) (within (.item 1) (fail .missing v))
  | .list [a] => both (within (.item 0) (check a)) (within (.item 1) (fail .missing v))
  | .list [a, b] => both (within (.item 0) (check a)) (within (.item 1) (check b))
  | .list _ => fail .tooLong v
  | _ => fail .notPair v

/-- A whole number or a text, as it is given if it is one of them; otherwise
as a whole number, if it can be taken for one. -/
def wholeOrText (v : Value Float) : Check (Value Float) :=
  match v with
  | .text _ | .int _ => .ok v
  | _ =>
    match whole v with
    | .ok n => .ok (.int n)
    | .error ps =>
      .error ((ps.map fun p => { p with place := .field "int" :: p.place })
        ++ [⟨[.field "str"], .notText, v⟩])

/-- Whether a field is left out where a value is shown. -/
def isUnshown (name : Text) : Bool := (Text.ofString "_sa").letters.isPrefixOf name.letters

mutual
/-- Whether a value can be sent: its numbers need no words, and its texts
consist of characters, as far as they are shown. -/
def isWritable : Value Float → Bool
  | .real x => Binary64.isFinite x
  | .text t => t.chars?.isSome
  | .list items => areWritable items
  | .record fields => areFieldsWritable fields
  | _ => true

def areWritable : List (Value Float) → Bool
  | [] => true
  | v :: rest => isWritable v && areWritable rest

def areFieldsWritable : List (Text × Value Float) → Bool
  | [] => true
  | (name, v) :: rest =>
    (isUnshown name || (name.chars?.isSome && isWritable v)) && areFieldsWritable rest
end

end PlotDigitizer.Service
