/-
Text as it is quoted in a message.

Single quotes surround it, double ones if it holds a single quote and no
double one. A backslash and the surrounding quote are escaped, so are tab and
the line ends, and a letter that is not shown is written by its code.
-/
import PlotDigitizer.Text
import PlotDigitizer.Text.Printable

namespace PlotDigitizer.Text

/-- `n` in lower-case hexadecimal with at least `width` digits. -/
def hex (width n : Nat) : List Char :=
  let digits := Nat.toDigits 16 n
  List.replicate (width - digits.length) '0' ++ digits

/-- A code point, written by its number. -/
def codeEscape (n : Nat) : List Char :=
  if n < 0x100 then '\\' :: 'x' :: hex 2 n
  else if n < 0x10000 then '\\' :: 'u' :: hex 4 n
  else '\\' :: 'U' :: hex 8 n

/-- One character of a quoted text. -/
def quotedChar (quote c : Char) : List Char :=
  if c == '\\' || c == quote then ['\\', c]
  else if c == '\t' then ['\\', 't']
  else if c == '\n' then ['\\', 'n']
  else if c == '\r' then ['\\', 'r']
  else if isPrintable c then [c]
  else codeEscape c.toNat

/-- One letter of a quoted text. -/
def quotedLetter (quote : Char) : Letter → List Char
  | .char c => quotedChar quote c
  | .half h => codeEscape h.unit.toNat

/-- The quote that surrounds a text. -/
def quoteFor (ls : List Letter) : Char :=
  if ls.contains (.char '\'') && !ls.contains (.char '"') then '"' else '\''

def quoted (t : Text) : String :=
  let quote := quoteFor t.letters
  String.ofList (quote :: t.letters.flatMap (quotedLetter quote) ++ [quote])

end PlotDigitizer.Text
