/-
How a double is laid out as text.

`Decimal.shortest` gives the digits; a `Layout` says what stands around them:
where the plain notation ends and the notation with an exponent begins, and
the words for the numbers that have no digits. Two layouts are in use, which
differ in those words only.
-/
import PlotDigitizer.Number.Shortest

namespace PlotDigitizer

/-- The decisions of a number format. A number is written plainly if the power
of ten at its first digit is at least `plainFrom` and below `plainTo`. -/
structure Layout where
  plainFrom : Int
  plainTo : Int
  /-- The fewest digits an exponent is written with. -/
  exponentDigits : Nat
  undefined : String
  infinite : String

namespace Layout

/-- Numbers in messages and in tables. -/
def plain : Layout := ⟨-4, 16, 2, "nan", "inf"⟩

/-- Numbers in JSON text. -/
def json : Layout := ⟨-4, 16, 2, "NaN", "Infinity"⟩

def zeros (n : Nat) : List Char := List.replicate n '0'

/-- The digits with a point after the first `before` of them, and with zeros
on the side where digits are missing. A whole number gets one zero after the
point. -/
def pointed (digits : List Char) (before : Int) : List Char :=
  if before ≤ 0 then '0' :: '.' :: zeros (-before).toNat ++ digits
  else
    let n := before.toNat
    if digits.length ≤ n then digits ++ zeros (n - digits.length) ++ ['.', '0']
    else digits.take n ++ '.' :: digits.drop n

/-- An exponent: its mark, its sign always, and enough digits. -/
def exponent (l : Layout) (e : Int) : List Char :=
  let digits := Nat.toDigits 10 e.natAbs
  'e' :: (if e < 0 then '-' else '+') :: zeros (l.exponentDigits - digits.length) ++ digits

/-- A decimal number under the layout. -/
def decimal (l : Layout) (d : Decimal) : List Char :=
  let digits := Nat.toDigits 10 d.digits
  let first : Int := d.exponent + digits.length - 1
  if l.plainFrom ≤ first ∧ first < l.plainTo then pointed digits (first + 1)
  else
    let mantissa := match digits with
      | [c] => [c]
      | c :: rest => c :: '.' :: rest
      | [] => []
    mantissa ++ l.exponent first

/-- A double under the layout: the shortest digits that read back, signed. -/
def double (l : Layout) (x : Float) : String :=
  let sign (negative : Bool) (text : String) := if negative then "-" ++ text else text
  match Binary64.parts x with
  | .undefined => l.undefined
  | .infinite negative => sign negative l.infinite
  | .finite negative m e => sign negative (String.ofList (l.decimal (Decimal.shortest m e)))

end Layout
end PlotDigitizer
