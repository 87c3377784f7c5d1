/-
Hosts: the names and addresses that a target may go to.

Four groups of digits between dots are meant as an address of four octets, and
what stands in brackets as one of eight hextets. Any other host is a name.
`fault?` tells whether a host is what it is meant as.

A name in ASCII is taken as it is, a name beyond ASCII only if it can be
written in ASCII. Whether a name in ASCII can be read, and an address be
written, is not asked before a request goes there.
-/
import PlotDigitizer.Number.Numeral
import PlotDigitizer.Service.HostName
import PlotDigitizer.Text.Encoding

namespace PlotDigitizer.Service.Host

/-- What a host is meant as, and is not. -/
inductive Fault where
  | octets
  | hextets
  | name
deriving Repr, DecidableEq

def isDigit (l : Letter) : Bool := l.char?.any Numeral.isDigit

def isHexDigit (l : Letter) : Bool := (l.char?.bind Text.hexDigit?).isSome

/-- Whether a text is four groups of digits between dots. -/
def isFourGroups (ls : List Letter) : Bool :=
  let parts := ls.splitOn (.char '.')
  parts.length == 4 && parts.all fun part => !part.isEmpty && part.all isDigit

/-- A number below 256, in decimal without zeros in front. -/
def isOctet (ls : List Letter) : Bool :=
  let n := Numeral.natOf (ls.filterMap Letter.char?)
  !ls.isEmpty && ls.all isDigit && n < 256 && ls.length == (Nat.toDigits 10 n).length

def isOctets (ls : List Letter) : Bool :=
  let parts := ls.splitOn (.char '.')
  parts.length == 4 && parts.all isOctet

/-- Up to four hexadecimal digits. -/
def isHextet (ls : List Letter) : Bool :=
  !ls.isEmpty && ls.length ≤ 4 && ls.all isHexDigit

/-- How many hextets a list of parts writes. The last part may write two of
them as four octets. -/
def countHextets? : List (List Letter) → Option Nat
  | [] => some 0
  | [last] => if isHextet last then some 1 else if isOctets last then some 2 else none
  | part :: rest => if isHextet part then (countHextets? rest).map (· + 1) else none

/-- The parts of a text between colons; an empty text has none. -/
def colonParts (ls : List Letter) : List (List Letter) :=
  if ls.isEmpty then [] else ls.splitOn (.char ':')

/-- What stands before and after the first two colons in a row. -/
def splitGap : List Letter → Option (List Letter × List Letter)
  | [] => none
  | l :: rest =>
    if l = .char ':' ∧ rest.head? = some (.char ':') then some ([], rest.tail)
    else (splitGap rest).map fun (before, after) => (l :: before, after)

/-- Eight hextets between colons, of which two colons in a row stand for those
that are left out. A scope may follow after a percent sign. -/
def isHextets (ls : List Letter) : Bool :=
  let (address, scope) := ls.span (· != .char '%')
  let hasScope := scope.isEmpty || (scope.length != 1 && !scope.tail.contains (.char '%'))
  hasScope && match splitGap address with
    | none => countHextets? (colonParts address) == some 8
    | some (before, after) =>
      (colonParts before).all isHextet
        && (countHextets? (colonParts after)).any fun n => (colonParts before).length + n < 8

def isBracketed (host : List Letter) : Bool :=
  host.head? == some (.char '[') && host.getLast? == some (.char ']')

/-- What is wrong with a host. -/
def fault? (host : List Letter) : Option Fault :=
  if isFourGroups host then if isOctets host then none else some .octets
  else if isBracketed host then if isHextets host.tail.dropLast then none else some .hextets
  else if host.all (Charset.ascii.writes ·) || (HostName.write? (host.map Letter.code)).isSome then
    none
  else some .name

/-- The letters of an address that cannot be written. Only its scope may have
such. -/
def unwritten? (host : List Letter) : Option Unwritten :=
  if isBracketed host then Unwritten.first? .ascii 0 host else none

/-- A name in lower case, with escapes for the characters that separate parts
of a target or of a text. -/
def escapedName (cs : List Char) : List Char :=
  cs.flatMap fun c =>
    if " <>[]^".toList.contains c then '%' :: Text.hex 2 c.toNat else [c.toLower]

/-- What is wrong with a name in ASCII that starts as if it wrote one beyond
ASCII. A name that goes beyond ASCII itself can be read once it is written. -/
def nameFault? (host : List Letter) : Option HostName.Fault :=
  match host.mapM Letter.char? with
  | none => none
  | some cs =>
    let name := escapedName cs
    if HostName.tag.isPrefixOf name && cs.all fun c => c.toNat < 128 then
      match HostName.read name with
      | .error fault => some fault
      | .ok _ => none
    else none

end PlotDigitizer.Service.Host
