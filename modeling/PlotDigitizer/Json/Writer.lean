/-
JSON text of a value.

All units of a text but the printable ASCII ones are escaped, each by itself.
Undefined and infinite numbers are written as words. Indented text puts every
item on a line of its own, two blanks deeper than the brackets around it;
compact text has no blanks.
-/
import PlotDigitizer.Value

namespace PlotDigitizer.Json

inductive Spacing where
  | compact
  | indented

/-- What separates two items, and an item from its brackets, at a depth. -/
def Spacing.line : Spacing → Nat → List Char
  | .compact, _ => []
  | .indented, depth => '\n' :: List.replicate (2 * depth) ' '

def Spacing.colon : Spacing → List Char
  | .compact => [':']
  | .indented => [':', ' ']

/-- One UTF-16 unit, escaped. -/
def unit (n : Nat) : List Char := '\\' :: 'u' :: Text.hex 4 n

/-- A printable ASCII character stands for itself, but for the quote and the
backslash. -/
def escapeAscii (c : Char) : List Char :=
  if c == '"' || c == '\\' then ['\\', c]
  else if c == '\n' then ['\\', 'n']
  else if c == '\r' then ['\\', 'r']
  else if c == '\t' then ['\\', 't']
  else if c == '\x08' then ['\\', 'b']
  else if c == '\x0c' then ['\\', 'f']
  else if 32 ≤ c.toNat ∧ c.toNat ≤ 126 then [c]
  else unit c.toNat

def escape (u : UInt16) : List Char :=
  if u.toNat < 128 then escapeAscii (Char.ofNat u.toNat) else unit u.toNat

def string (t : Text) : List Char :=
  '"' :: t.letters.flatMap (fun l => l.units.flatMap escape) ++ ['"']

mutual
/-- The text of a value whose brackets stand at a depth. -/
def write (s : Spacing) (depth : Nat) : Value Float → List Char
  | .null => "null".toList
  | .bool b => (if b then "true" else "false").toList
  | .int n => (toString n).toList
  | .real x => (Layout.json.double x).toList
  | .text t => string t
  | .list [] => ['[', ']']
  | .list (v :: rest) =>
    '[' :: s.line (depth + 1) ++ write s (depth + 1) v ++ writeItems s (depth + 1) rest
      ++ s.line depth ++ [']']
  | .record [] => ['\x7b', '\x7d']
  | .record ((name, v) :: rest) =>
    '\x7b' :: s.line (depth + 1) ++ string name ++ s.colon ++ write s (depth + 1) v
      ++ writeFields s (depth + 1) rest ++ s.line depth ++ ['\x7d']

/-- The items after the first, each with its separator. -/
def writeItems (s : Spacing) (depth : Nat) : List (Value Float) → List Char
  | [] => []
  | v :: rest => ',' :: s.line depth ++ write s depth v ++ writeItems s depth rest

/-- The fields after the first, each with its separator. -/
def writeFields (s : Spacing) (depth : Nat) : List (Text × Value Float) → List Char
  | [] => []
  | (name, v) :: rest =>
    ',' :: s.line depth ++ string name ++ s.colon ++ write s depth v ++ writeFields s depth rest
end

def compact (v : Value Float) : String := String.ofList (write .compact 0 v)

def indented (v : Value Float) : String := String.ofList (write .indented 0 v)

end PlotDigitizer.Json
