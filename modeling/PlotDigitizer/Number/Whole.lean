/-
Whole numbers in text, read leniently.

The plain form is a minus sign or none, then a zero or digits that do not
start with zero. Around it there may be blanks, a sign, zeros and underscores
in front, single underscores among the digits, and a fraction of zeros. The
minus sign of the plain form may also stand after the zeros in front, so
`0-5` is the number `-5`.
-/
import PlotDigitizer.Number.Numeral

namespace PlotDigitizer.Numeral

/-- Why a text was not read as a whole number. -/
inductive WholeFault where
  | malformed
  /-- It starts with more digits than are read. -/
  | oversized
deriving Repr, DecidableEq

/-- The most digits of a whole number that are read. -/
def maxWholeDigits : Nat := 4300

/-- A minus sign at the start of a text, and what follows it. -/
def takeMinus : List Char → Bool × List Char
  | '-' :: rest => (true, rest)
  | cs => (false, cs)

/-- The number of a plain form. -/
def plainWhole? (cs : List Char) : Option Int :=
  let (negative, digits) := takeMinus cs
  if digits = ['0'] then some 0
  else if !digits.isEmpty && digits.all isDigit && digits.head? != some '0'
      && digits.length ≤ maxWholeDigits then
    some (if negative then -(natOf digits : Int) else natOf digits)
  else none

/-- Whether a text starts, after a minus sign or none, with more digits than
are read, the first of them no zero. -/
def isOversized (cs : List Char) : Bool :=
  let digits := (takeMinus cs).2.takeWhile isDigit
  digits.head? != some '0' && maxWholeDigits < digits.length

/-- The text after a zero that `last` ends, once the zeros and underscores
that follow are passed over. Of a text that has nothing else its last
character stays, and a point keeps the character before it. -/
def afterZeros? (last : Char) : List Char → Option (List Char)
  | [] => some [last]
  | c :: rest =>
    if c == '0' || c == '_' then afterZeros? c rest
    else if c == '.' then some (last :: c :: rest)
    else if isDigit c || c == '-' then some (c :: rest)
    else none

/-- The text without the zeros in front. It has to start with a digit. -/
def dropZeros? : List Char → Option (List Char)
  | [] => none
  | c :: rest =>
    if c == '0' then afterZeros? c rest else if isDigit c then some (c :: rest) else none

/-- The text without a fraction of zeros. -/
def dropFraction (cs : List Char) : List Char :=
  match cs.dropWhile (· != '.') with
  | _ :: c :: zeros => if (c :: zeros).all (· == '0') then cs.takeWhile (· != '.') else cs
  | _ => cs

/-- Whether underscores stand only inside a text, and one by one. -/
def hasInnerUnderscores : List Char → Bool
  | '_' :: _ => false
  | cs => cs.getLast? != some '_' && !(cs.zip cs.tail).any (· == ('_', '_'))

/-- The text without its underscores, if they stand inside it one by one. -/
def dropUnderscores (cs : List Char) : List Char :=
  if hasInnerUnderscores cs then cs.filter (· != '_') else cs

/-- The whole number that a text stands for. -/
def whole (cs : List Char) : Except WholeFault Int :=
  if isOversized cs then .error .oversized
  else
    let (negative, unsigned) := takeSign (Text.strip cs)
    match dropZeros? unsigned with
    | none => .error .malformed
    | some digits =>
      let plain := dropUnderscores (dropFraction digits)
      match plainWhole? (if negative then '-' :: plain else plain) with
      | some n => .ok n
      | none => .error .malformed

end PlotDigitizer.Numeral
