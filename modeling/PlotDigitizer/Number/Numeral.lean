/-
Numerals: text that stands for a double.

A numeral may have blanks around it, a sign, digits of any script with single
underscores between them, a point and an exponent; or it is one of the words
for infinity and for the undefined number, in any case. The double is the one
nearest to the decimal number written.
-/
import PlotDigitizer.Number.Shortest
import PlotDigitizer.Text.Blank
import PlotDigitizer.Text.Digit

namespace PlotDigitizer

/-- The double nearest to a decimal number. Beyond the exponents that doubles
reach, the digits need not be scaled out. -/
def Decimal.toFloat (d : Decimal) : Float :=
  let first : Int := d.exponent + (Nat.toDigits 10 d.digits).length
  if d.digits = 0 ∨ first < -330 then 0
  else if 320 < first then Binary64.infinity
  else Binary64.nearestRatio (d.digits * Nat.pow 10 d.exponent.toNat)
    (Nat.pow 10 (-d.exponent).toNat)

namespace Numeral

/-- The number written by ASCII digits. -/
def natOf (cs : List Char) : Nat :=
  cs.foldl (fun n c => 10 * n + (c.toNat - 48)) 0

def isDigit (c : Char) : Bool := (Text.asciiDigit? c).isSome

/-- The sign at the start of a text, and what follows it. -/
def takeSign : List Char → Bool × List Char
  | '-' :: rest => (true, rest)
  | '+' :: rest => (false, rest)
  | cs => (false, cs)

/-- The exponent after a mantissa: nothing, or a mark, a sign and digits to
the end of the text. -/
def exponent? : List Char → Option Int
  | [] => some 0
  | mark :: rest =>
    let (negative, digits) := takeSign rest
    if (mark == 'e' || mark == 'E') && !digits.isEmpty && digits.all isDigit then
      some (if negative then -(natOf digits : Int) else natOf digits)
    else none

/-- An unsigned decimal numeral in ASCII: digits with at most one point among
or around them, then perhaps an exponent. -/
def decimal? (cs : List Char) : Option Decimal :=
  let whole := cs.takeWhile isDigit
  let rest := cs.dropWhile isDigit
  let (fraction, tail) := match rest with
    | '.' :: r => (r.takeWhile isDigit, r.dropWhile isDigit)
    | r => ([], r)
  if whole.isEmpty && fraction.isEmpty then none
  else (exponent? tail).map fun e => ⟨natOf (whole ++ fraction), e - fraction.length⟩

/-- The words for numbers without digits. -/
def word? (cs : List Char) : Option Float :=
  let lower := String.ofList (cs.map Char.toLower)
  if lower = "inf" || lower = "infinity" then some Binary64.infinity
  else if lower = "nan" then some Binary64.nan
  else none

/-- A signed numeral in ASCII, without blanks and underscores. -/
def ascii? (cs : List Char) : Option Float :=
  let (negative, rest) := takeSign cs
  let magnitude? := match word? rest with
    | some x => some x
    | none => (decimal? rest).map Decimal.toFloat
  magnitude?.map fun x => if negative then -x else x

/-- The text without its underscores, each of which must stand between two
digits. The first argument is the character before. -/
def joinDigits? : Char → List Char → Option (List Char)
  | before, [] => if before == '_' then none else some []
  | before, c :: rest =>
    if c == '_' then
      if isDigit before then joinDigits? c rest else none
    else if before == '_' && !isDigit c then none
    else (joinDigits? c rest).map (c :: ·)

/-- A character with wide blanks and the digits of other scripts brought to
ASCII; nothing else beyond ASCII occurs in a numeral. -/
def toAscii? (c : Char) : Option Char :=
  if c.toNat < 128 then some c
  else if Text.isBlank c then some ' '
  else (Text.digit? c).map fun d => Char.ofNat (48 + d)

/-- The double that a text stands for. -/
def double? (s : String) : Option Float := do
  let cs ← s.toList.mapM toAscii?
  let digits ← joinDigits? ' ' (Text.strip cs)
  ascii? digits

end Numeral
end PlotDigitizer
