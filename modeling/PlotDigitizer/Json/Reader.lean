/-
JSON text, read.

The grammar is the usual one with three more words, for the undefined number
and the two infinities. A number without point and exponent is a whole number
of any size; any other is the double nearest to it. Of two fields of one name
the later value counts, at the place of the earlier one. An escape may write
half a character; two halves are joined only where both are escaped.

A failure holds the text from the offending letter on, so the place of the
fault is told by how much of the text is left.
-/
import PlotDigitizer.Value
import PlotDigitizer.Number.Numeral

namespace PlotDigitizer.Json

/-- Why a text was not read. -/
inductive Failure where
  /-- The text is no JSON from here on. -/
  | malformed (rest : List Letter)
  /-- A whole number has more digits than are read. -/
  | oversized
  /-- Lists and records are nested deeper than is read. -/
  | nested
deriving Repr, DecidableEq

abbrev Read (β : Type) := Except Failure (β × List Letter)

/-- The most digits of a whole number that are read. -/
def maxDigits : Nat := 4300

/-- The most lists and records that a value may stand in. -/
def maxDepth : Nat := 4957

def isSpace (l : Letter) : Bool :=
  l == .char ' ' || l == .char '\t' || l == .char '\n' || l == .char '\r'

def skip (ls : List Letter) : List Letter := ls.dropWhile isSpace

/-- The text after a word at its start. -/
def after? (word : String) (ls : List Letter) : Option (List Letter) :=
  let letters := word.toList.map Letter.char
  if letters.isPrefixOf ls then some (ls.drop letters.length) else none

/-- A unit as four hexadecimal digits, and what follows it. -/
def unit? : List Letter → Option (UInt16 × List Letter)
  | .char a :: .char b :: .char c :: .char d :: rest => do
    let a ← Text.hexDigit? a
    let b ← Text.hexDigit? b
    let c ← Text.hexDigit? c
    let d ← Text.hexDigit? d
    some (UInt16.ofNat (((a * 16 + b) * 16 + c) * 16 + d), rest)
  | _ => none

/-- The character after a backslash that is not a code. -/
def simpleEscape? : Letter → Option Char
  | .char '"' => some '"'
  | .char '\\' => some '\\'
  | .char '/' => some '/'
  | .char 'b' => some '\x08'
  | .char 'f' => some '\x0c'
  | .char 'n' => some '\n'
  | .char 'r' => some '\r'
  | .char 't' => some '\t'
  | _ => none

/-- An escape by code, after its mark `u`. More text has to follow. -/
def code (mark : List Letter) : Read UInt16 :=
  match unit? (mark.drop 1) with
  | none | some (_, []) => .error (.malformed mark)
  | some (u, rest) => .ok (u, rest)

/-- The low half that is escaped at the start of a text. -/
def lowEscape? : List Letter → Option (UInt16 × List Letter)
  | .char '\\' :: .char 'u' :: rest =>
    match code (.char 'u' :: rest) with
    | .ok (u, r) => if Letter.isLow u then some (u, r) else none
    | .error _ => none
  | _ => none

/-- The letter written by an escape of a unit, and what follows it. -/
def escaped (u : UInt16) (rest : List Letter) : Letter × List Letter :=
  match lowEscape? rest with
  | some (v, r) => if Letter.isHigh u then (.joined u v, r) else (.single u, rest)
  | none => (.single u, rest)

/-- The letters of a string up to its closing quote; `start` is the text from
the opening quote on. The number bounds the letters read. -/
def stringTail (start : List Letter) : Nat → List Letter → Read (List Letter)
  | 0, _ | _, [] => .error (.malformed start)
  | room + 1, l :: rest =>
    let more (l : Letter) (rest : List Letter) : Read (List Letter) :=
      (stringTail start room rest).map fun (ls, r) => (l :: ls, r)
    if l == .char '"' then .ok ([], rest)
    else if l == .char '\\' then
      match rest with
      | [] => .error (.malformed start)
      | .char 'u' :: _ =>
        match code rest with
        | .error e => .error e
        | .ok (u, r) =>
          let (l, r) := escaped u r
          more l r
      | mark :: r =>
        match simpleEscape? mark with
        | some c => more (.char c) r
        | none => .error (.malformed (l :: rest))
    else if l.code < 32 then .error (.malformed (l :: rest))
    else more l rest

/-- The ASCII digits at the start of a text, and what follows them. -/
def digits : List Letter → List Char × List Letter
  | .char c :: rest =>
    if Numeral.isDigit c then
      let (cs, r) := digits rest
      (c :: cs, r)
    else ([], .char c :: rest)
  | ls => ([], ls)

/-- The minus sign at the start of a number, and what follows it. -/
def minusPart : List Letter → Bool × List Letter
  | .char '-' :: rest => (true, rest)
  | ls => (false, ls)

/-- A whole number: one zero, or digits that do not start with zero. -/
def wholePart : List Letter → List Char × List Letter
  | .char '0' :: rest => (['0'], rest)
  | ls => digits ls

/-- The digits after a point, if a digit follows it. -/
def fractionPart : List Letter → List Char × List Letter
  | .char '.' :: rest =>
    match digits rest with
    | ([], _) => ([], .char '.' :: rest)
    | (cs, r) => (cs, r)
  | ls => ([], ls)

/-- The sign at the start of a text, and what follows it. -/
def takeSign : List Letter → Bool × List Letter
  | .char '-' :: rest => (true, rest)
  | .char '+' :: rest => (false, rest)
  | ls => (false, ls)

/-- An exponent, if its mark and perhaps a sign are followed by a digit. -/
def exponentPart : List Letter → Option Int × List Letter
  | mark :: rest =>
    let (negative, unsigned) := takeSign rest
    let (cs, r) := digits unsigned
    if (mark == .char 'e' || mark == .char 'E') && !cs.isEmpty then
      let n : Int := Numeral.natOf cs
      (some (if negative then -n else n), r)
    else (none, mark :: rest)
  | [] => (none, [])

/-- A number. A whole number has at most `longest` digits. -/
def number (longest : Nat) (ls : List Letter) : Read (Value Float) :=
  let (negative, unsigned) := minusPart ls
  let (whole, afterWhole) := wholePart unsigned
  let (fraction, afterFraction) := fractionPart afterWhole
  let (exponent, rest) := exponentPart afterFraction
  if whole.isEmpty then .error (.malformed ls)
  else if fraction.isEmpty && exponent.isNone then
    if longest < whole.length then .error .oversized
    else
      let n : Int := Numeral.natOf whole
      .ok (.int (if negative then -n else n), rest)
  else
    let x := Decimal.toFloat ⟨Numeral.natOf (whole ++ fraction),
      exponent.getD 0 - fraction.length⟩
    .ok (.real (if negative then -x else x), rest)

/-- The words that stand for values. -/
def words : List (String × Value Float) := [
  ("null", .null), ("true", .bool true), ("false", .bool false), ("NaN", .real Binary64.nan),
  ("Infinity", .real Binary64.infinity), ("-Infinity", .real (-Binary64.infinity))]

/-- A word or a number. -/
def scalar (longest : Nat) (ls : List Letter) : Read (Value Float) :=
  match words.findSome? fun (word, v) => (after? word ls).map (v, ·) with
  | some read => .ok read
  | none => number longest ls

/-- The fields with a value put under a name, at its old place if it has
one. -/
def put (fields : List (Text × Value Float)) (name : Text) (v : Value Float) :
    List (Text × Value Float) :=
  if fields.any (·.1 == name) then fields.map fun f => if f.1 == name then (name, v) else f
  else fields ++ [(name, v)]

/-- The fields of a record in the order of their first occurrences. -/
def laterWins (fields : List (Text × Value Float)) : List (Text × Value Float) :=
  fields.foldl (fun done f => put done f.1 f.2) []

mutual
/-- A value at the start of a text. The numbers are how many digits a whole
number may have, how deep the value may be nested, and a bound on the values
read. -/
def parseValue (longest depth : Nat) : Nat → List Letter → Read (Value Float)
  | 0, ls => .error (.malformed ls)
  | room + 1, ls =>
    match ls with
    | .char '"' :: rest =>
      (stringTail ls (rest.length + 1) rest).map fun (t, r) => (.text ⟨t⟩, r)
    | .char '\x7b' :: rest =>
      if depth = 0 then .error .nested
      else
        match skip rest with
        | .char '\x7d' :: r => .ok (.record [], r)
        | r => (parseFields longest (depth - 1) room r).map fun (fs, r) => (.record (laterWins fs), r)
    | .char '[' :: rest =>
      if depth = 0 then .error .nested
      else
        match skip rest with
        | .char ']' :: r => .ok (.list [], r)
        | r => (parseItems longest (depth - 1) room r).map fun (vs, r) => (.list vs, r)
    | _ => scalar longest ls

/-- The items of a list up to its closing bracket. -/
def parseItems (longest depth : Nat) : Nat → List Letter → Read (List (Value Float))
  | 0, ls => .error (.malformed ls)
  | room + 1, ls =>
    match parseValue longest depth room ls with
    | .error e => .error e
    | .ok (v, r) =>
      match skip r with
      | .char ']' :: r => .ok ([v], r)
      | .char ',' :: r => (parseItems longest depth room (skip r)).map fun (vs, r) => (v :: vs, r)
      | r => .error (.malformed r)

/-- The fields of a record up to its closing brace. -/
def parseFields (longest depth : Nat) : Nat → List Letter → Read (List (Text × Value Float))
  | 0, ls => .error (.malformed ls)
  | room + 1, ls =>
    match ls with
    | .char '"' :: rest =>
      match stringTail ls (rest.length + 1) rest with
      | .error e => .error e
      | .ok (name, r) =>
        match skip r with
        | .char ':' :: r =>
          match parseValue longest depth room (skip r) with
          | .error e => .error e
          | .ok (v, r) =>
            match skip r with
            | .char '\x7d' :: r => .ok ([(⟨name⟩, v)], r)
            | .char ',' :: r =>
              (parseFields longest depth room (skip r)).map fun (fs, r) => ((⟨name⟩, v) :: fs, r)
            | r => .error (.malformed r)
        | r => .error (.malformed r)
    | _ => .error (.malformed ls)
end

/-- The value of a text that holds nothing else but blanks around it, with
whole numbers of at most `longest` digits and nested no deeper than `depth`. -/
def readWith (longest depth : Nat) (ls : List Letter) : Except Failure (Value Float) :=
  match parseValue longest depth (2 * ls.length + 2) (skip ls) with
  | .error e => .error e
  | .ok (v, rest) =>
    match skip rest with
    | [] => .ok v
    | rest => .error (.malformed rest)

/-- The value of a text that is nested no deeper than `depth`. -/
def readWithin (depth : Nat) (ls : List Letter) : Except Failure (Value Float) :=
  readWith maxDigits depth ls

/-- The value of a text, if it is nested no deeper than is usual. -/
def read (ls : List Letter) : Except Failure (Value Float) := readWithin maxDepth ls

end PlotDigitizer.Json
