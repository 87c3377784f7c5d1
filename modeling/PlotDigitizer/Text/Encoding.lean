/-
Bytes read as letters, and texts written as bytes.

A mark before a JSON text tells how wide its units are and in which order their
bytes stand. Without one the zero bytes at the start of it tell, since it starts
with two ASCII characters unless it is one alone. A half of a character is read
like a character, and joined with another only where units are of two bytes.

UTF-8 writes characters only, and ASCII the first 128 of them. A text with
other letters is not written, and the first of these are told.
-/
import PlotDigitizer.Text.Quoted

namespace PlotDigitizer

/-- How letters are encoded, and whether the first byte of a unit counts
most. -/
inductive Encoding where
  | utf8
  | utf16 (bigEndian : Bool)
  | utf32 (bigEndian : Bool)
deriving Repr, DecidableEq

namespace Encoding

/-- The encoding of a JSON text. -/
def detect (bytes : List UInt8) : Encoding :=
  if [0xFF, 0xFE, 0, 0].isPrefixOf bytes then .utf32 false
  else if [0xFE, 0xFF].isPrefixOf bytes then .utf16 true
  else if [0xFF, 0xFE].isPrefixOf bytes then .utf16 false
  else
    match bytes with
    | a :: b :: c :: d :: _ =>
      if a = 0 then if b = 0 then .utf32 true else .utf16 true
      else if b = 0 then if c = 0 ∧ d = 0 then .utf32 false else .utf16 false
      else .utf8
    | [a, b] => if a = 0 then .utf16 true else if b = 0 then .utf16 false else .utf8
    | _ => .utf8

/-- A code point of which some bytes are still to come. -/
structure Pending where
  left : Nat := 0
  /-- What the bytes so far write. -/
  code : Nat := 0
  /-- The least code point that is written in as many bytes. -/
  least : Nat := 0

/-- The code point that a byte begins. -/
def Pending.begun? (b : UInt8) : Option Pending :=
  let n := b.toNat
  if n < 0x80 then some { code := n }
  else if n < 0xC0 then none
  else if n < 0xE0 then some { left := 1, code := n - 0xC0, least := 0x80 }
  else if n < 0xF0 then some { left := 2, code := n - 0xE0, least := 0x800 }
  else if n < 0xF8 then some { left := 3, code := n - 0xF0, least := 0x10000 }
  else none

/-- The code point with one more byte. -/
def Pending.more? (p : Pending) (b : UInt8) : Option Pending :=
  if p.left = 0 then begun? b
  else if 0x80 ≤ b.toNat ∧ b.toNat < 0xC0 then
    some { p with left := p.left - 1, code := p.code * 64 + (b.toNat - 0x80) }
  else none

/-- The letters that bytes write in UTF-8, the first of them after what is
pending. -/
def octets? (p : Pending) : List UInt8 → Option (List Letter)
  | [] => if p.left = 0 then some [] else none
  | b :: rest => do
    let p ← p.more? b
    if p.left = 0 then
      if p.code < p.least then none
      else
        let l ← Letter.ofCode? p.code
        (octets? {} rest).map (l :: ·)
    else octets? p rest

/-- The units that pairs of bytes write. -/
def pairs? (bigEndian : Bool) : List UInt8 → Option (List UInt16)
  | [] => some []
  | a :: b :: rest =>
    let n := if bigEndian then a.toNat * 256 + b.toNat else b.toNat * 256 + a.toNat
    (pairs? bigEndian rest).map (UInt16.ofNat n :: ·)
  | _ => none

/-- The code points that pairs of units write. -/
def quads? (bigEndian : Bool) : List UInt16 → Option (List Nat)
  | [] => some []
  | u :: v :: rest =>
    let n := if bigEndian then u.toNat * 65536 + v.toNat else v.toNat * 65536 + u.toNat
    (quads? bigEndian rest).map (n :: ·)
  | _ => none

/-- The letters that bytes write, if they write letters throughout, without the
mark before them. -/
def decode? (bytes : List UInt8) (e : Encoding) : Option (List Letter) := do
  let ls ← match e with
    | .utf8 => octets? {} bytes
    | .utf16 bigEndian => (pairs? bigEndian bytes).map Letter.ofUnits
    | .utf32 bigEndian => do
      let units ← pairs? bigEndian bytes
      (← quads? bigEndian units).mapM Letter.ofCode?
  match ls with
  | .char '\uFEFF' :: rest => some rest
  | ls => some ls

end Encoding

/-- The characters that texts are written in. -/
inductive Charset where
  | ascii
  | utf8
deriving Repr, DecidableEq

/-- Whether a letter can be written. -/
def Charset.writes : Charset → Letter → Bool
  | .ascii, l => l.code < 128
  | .utf8, l => l.char?.isSome

/-- Letters side by side in a text, from a position on, that cannot be
written. -/
structure Unwritten where
  charset : Charset
  position : Nat
  first : Letter
  others : List Letter
deriving Repr, DecidableEq

namespace Unwritten

/-- The first letters that cannot be written in a text whose first letter has
this position. -/
def first? (charset : Charset) (position : Nat) : List Letter → Option Unwritten
  | [] => none
  | l :: rest =>
    if charset.writes l then first? charset (position + 1) rest
    else some ⟨charset, position, l, rest.takeWhile fun m => !charset.writes m⟩

def message (e : Unwritten) : String :=
  let name := match e.charset with
    | .ascii => "ascii"
    | .utf8 => "utf-8"
  let first := String.ofList (Text.codeEscape e.first.code)
  let place := match e.others with
    | [] => " '" ++ first ++ "' in position " ++ toString e.position
    | ls => "s in position " ++ toString e.position ++ "-" ++ toString (e.position + ls.length)
  let reason := match e.charset with
    | .ascii => "ordinal not in range(128)"
    | .utf8 => "surrogates not allowed"
  "'" ++ name ++ "' codec can't encode character" ++ place ++ ": " ++ reason

end Unwritten

/-- The bytes of a text in UTF-8. -/
def Text.utf8 (t : Text) : Except Unwritten (List UInt8) :=
  match Unwritten.first? .utf8 0 t.letters with
  | some e => .error e
  | none => .ok (String.ofList (t.letters.filterMap Letter.char?)).toUTF8.data.toList

end PlotDigitizer
