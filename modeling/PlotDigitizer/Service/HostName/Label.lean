/-
Labels, the parts of a host name between its dots.

A label is composed text of the alphabet, each code point of which is allowed
where it stands. A label with a part that is written from the right keeps to
one direction, so that it looks like one word in a text of either direction.

A label beyond ASCII is written in it behind a tag.
-/
import PlotDigitizer.Service.HostName.Context
import PlotDigitizer.Service.HostName.Punycode
import PlotDigitizer.Text.Composed
import PlotDigitizer.Text.Quoted

namespace PlotDigitizer.Service.HostName

/-- Why a text is no label or no name. Positions are counted from one on. -/
inductive Fault where
  | long
  | empty
  | uncomposed
  | hyphenPair
  | outerHyphen
  | leadingMark
  | joiner (code position : Nat) (label : List Nat)
  | misplaced (code position : Nat) (label : List Nat)
  | foreign (code position : Nat) (label : List Nat)
  | undirected (position : Nat) (label : List Nat)
  | start (label : List Nat)
  | stray (isRightToLeft : Bool) (position : Nat)
  | mixedNumbers
  | stop
  | onlyTag
  | lastHyphen
  | unreadable
deriving Repr, DecidableEq

namespace Fault

def shownCode (n : Nat) : String :=
  String.ofList ('U' :: '+' :: (Text.hex 4 n).map Char.toUpper)

def shownLabel (label : List Nat) : String := (Text.mk (label.filterMap Letter.ofCode?)).quoted

def message : Fault → String
  | .long => "Domain too long"
  | .empty => "Empty Label"
  | .uncomposed => "Label must be in Normalization Form C"
  | .hyphenPair => "Label has disallowed hyphens in 3rd and 4th position"
  | .outerHyphen => "Label must not start or end with a hyphen"
  | .leadingMark => "Label begins with an illegal combining character"
  | .joiner code position label =>
    "Unknown codepoint adjacent to joiner " ++ shownCode code ++ " at position "
      ++ toString position ++ " in " ++ shownLabel label
  | .misplaced code position label =>
    "Codepoint " ++ shownCode code ++ " not allowed at position " ++ toString position ++ " in "
      ++ shownLabel label
  | .foreign code position label =>
    "Codepoint " ++ shownCode code ++ " at position " ++ toString position ++ " of "
      ++ shownLabel label ++ " not allowed"
  | .undirected position label =>
    "Unknown directionality in label " ++ shownLabel label ++ " at position " ++ toString position
  | .start label =>
    "First codepoint in label " ++ shownLabel label ++ " must be directionality L, R or AL"
  | .stray isRightToLeft position =>
    "Invalid direction for codepoint at position " ++ toString position
      ++ if isRightToLeft then " in a right-to-left label" else " in a left-to-right label"
  | .mixedNumbers => "Can not mix numeral types in a right-to-left label"
  | .stop => "Label ends with illegal codepoint directionality"
  | .onlyTag => "Malformed A-label, no Punycode eligible content found"
  | .lastHyphen => "A-label must not end with a hyphen"
  | .unreadable => "Invalid A-label"

end Fault

/-- The first code point that is not allowed where it stands. The part of the
label before it is listed from the last code point on. -/
def codeFault? (label before : List Nat) : List Nat → Option Fault
  | [] => none
  | n :: after =>
    let next := codeFault? label (n :: before) after
    let position := before.length + 1
    if n = 0x200C ∨ n = 0x200D then
      if isJoinerAllowed n before after then next else some (.joiner n position label)
    else
      match isAllowedBeside? n before after with
      | some true => next
      | some false => some (.misplaced n position label)
      | none => if isAllowed n then next else some (.foreign n position label)

namespace Direction

/-- Whether a label with such a code point keeps to one direction. -/
def isBinding : Direction → Bool
  | .rightToLeft | .arabic | .arabicNumber => true
  | _ => false

def isNumber : Direction → Bool
  | .number | .arabicNumber => true
  | _ => false

/-- Whether a label that keeps to a direction may hold such a code point. -/
def fits (isRightToLeft : Bool) (d : Direction) : Bool :=
  if d = .leftToRight then !isRightToLeft else !d.isBinding || isRightToLeft

/-- Whether a label may end with such a code point and marks after it. -/
def isEnd (d : Direction) : Bool := d = .leftToRight || d.isBinding || d = .number

end Direction

/-- The first code point that does not fit into a label, from a position on.
Numbers in a label are all of the same kind. -/
def strayFault? (isRightToLeft : Bool) (position : Nat) (number : Option Direction) :
    List Direction → Option Fault
  | [] => none
  | d :: rest =>
    if !d.fits isRightToLeft then some (.stray isRightToLeft position)
    else if d.isNumber && number.any (· != d) then some .mixedNumbers
    else strayFault? isRightToLeft (position + 1) (if d.isNumber then some d else number) rest

/-- What is wrong with the directions in a label. -/
def directionFault? (label : List Nat) : Option Fault :=
  match label.findIdx? fun n => (direction? n).isNone with
  | some i => some (.undirected (i + 1) label)
  | none =>
    let ds := label.filterMap direction?
    let fault? (isRightToLeft : Bool) : Option Fault :=
      (strayFault? isRightToLeft 1 none ds).or
        (if (ds.reverse.find? (· != .mark)).any Direction.isEnd then none else some .stop)
    if !ds.any Direction.isBinding then none
    else
      match ds.head? with
      | some .leftToRight => fault? false
      | some .rightToLeft | some .arabic => fault? true
      | _ => some (.start label)

def hyphen : Nat := 0x2D

/-- What is wrong with a label. -/
def labelFault? (label : List Nat) : Option Fault :=
  if label.isEmpty then some .empty
  else if !Text.isComposed label then some .uncomposed
  else if (label.drop 2).take 2 = [hyphen, hyphen] then some .hyphenPair
  else if label.head? = some hyphen ∨ label.getLast? = some hyphen then some .outerHyphen
  else if label.head?.any (isWithin allMarkRanges) then some .leadingMark
  else (codeFault? label [] label).or (directionFault? label)

/-- A label, unless something is wrong with it. -/
def checkLabel (label : List Nat) : Except Fault (List Nat) :=
  match labelFault? label with
  | some fault => .error fault
  | none => .ok label

/-- What stands before a label that is written in ASCII and goes beyond it. -/
def tag : List Char := "xn--".toList

/-- The label that a text in ASCII writes, in lower case. -/
def readLabel (cs : List Char) : Except Fault (List Nat) :=
  let cs := cs.map Char.toLower
  if tag.isPrefixOf cs then
    let cs := cs.drop tag.length
    if cs.isEmpty then .error .onlyTag
    else if cs.getLast? = some '-' then .error .lastHyphen
    else
      match Punycode.decode? cs with
      | none => .error .unreadable
      | some label => checkLabel label
  else checkLabel (cs.map Char.toNat)

/-- A label in ASCII, if it has such a form of at most 63 characters. -/
def writeLabel? (label : List Nat) : Option (List Char) :=
  let cs? :=
    if label.all (· < 128) then
      let cs := label.map Char.ofNat
      (readLabel cs).toOption.map fun _ => cs
    else (checkLabel label).toOption.map fun label => tag ++ Punycode.encode label
  cs?.filter fun cs => cs.length ≤ 63

end PlotDigitizer.Service.HostName
