/-
Host names: labels between dots.

A name may end with a dot, which starts no further label. It is written in
ASCII for a machine, in at most 253 characters and a last dot, and read from
ASCII for a person.
-/
import PlotDigitizer.Service.HostName.Label
import PlotDigitizer.Text.Lower

namespace PlotDigitizer.Service.HostName

/-- The full stops of several scripts, any of which stands between labels. -/
def isDot (n : Nat) : Bool := [0x2E, 0x3002, 0xFF0E, 0xFF61].contains n

/-- The most characters of a name that ends with a dot. -/
def maxLength : Nat := 254

/-- The labels of a name, and whether a dot follows the last one. -/
def labels (name : List Nat) : List (List Nat) × Bool :=
  let parts := name.splitOnP isDot
  if parts.getLast? = some [] then (parts.dropLast, true) else (parts, false)

/-- A name in ASCII and in lower case, if it has such a form. -/
def write? (name : List Nat) : Option (List Char) := do
  let name := name.flatMap Text.lowerCodes
  guard (name.length ≤ maxLength)
  let (parts, hasLastDot) := labels name
  let written ← parts.mapM writeLabel?
  let cs := ['.'].intercalate (if hasLastDot then written ++ [[]] else written)
  guard (cs.length < if hasLastDot then maxLength + 1 else maxLength)
  return cs

/-- The labels of the name that a text in ASCII writes. -/
def read (cs : List Char) : Except Fault (List (List Nat)) :=
  if maxLength < cs.length then .error .long
  else (labels (cs.map Char.toNat)).1.mapM fun label => readLabel (label.map Char.ofNat)

end PlotDigitizer.Service.HostName
