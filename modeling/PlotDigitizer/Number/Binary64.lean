/-
Doubles as numbers `±m * 2^e`, and correct rounding onto them.

A double is read through its bits (`parts`) and written through its bits
(`nearest`), so every rounding written here is an integer computation:
`nearest m e` is the double nearest to `m * 2^e`, a tie going to the even
mantissa. A quotient first computes enough leading bits, then marks in one
further bit whether anything was cut off, and rounds that once.
-/
namespace PlotDigitizer.Binary64

/-- What a double stands for. -/
inductive Parts where
  | undefined
  | infinite (negative : Bool)
  | finite (negative : Bool) (mantissa : Nat) (exponent : Int)
deriving Repr, DecidableEq

/-- The sign, mantissa and exponent held in the bits of `x`. -/
def parts (x : Float) : Parts :=
  let bits := x.toBits.toNat
  let negative := decide (Nat.pow 2 63 ≤ bits)
  let scale : Nat := bits / Nat.pow 2 52 % Nat.pow 2 11
  let fraction := bits % Nat.pow 2 52
  if scale = 2047 then
    if fraction = 0 then .infinite negative else .undefined
  else if scale = 0 then .finite negative fraction (-1074)
  else .finite negative (fraction + Nat.pow 2 52) ((scale : Int) - 1075)

def nan : Float := Float.ofBits 0x7FF8000000000000

def infinity : Float := Float.ofBits 0x7FF0000000000000

/-- `m / 2^s` to the nearest whole number, a half going to the even one. -/
def dropBits (m s : Nat) : Nat :=
  let whole := m >>> s
  let rest := 2 * (m - whole <<< s)
  if rest < Nat.pow 2 s then whole
  else if Nat.pow 2 s < rest then whole + 1
  else whole + whole % 2

/-- The bits of the double nearest to `m * 2^e`, which is positive. The unit
of the last place is `2^place`; a mantissa that rounds up to `2^53` carries
into the exponent by itself. -/
def nearestBits (m : Nat) (e : Int) : Nat :=
  let place : Int := max (m.log2 + e - 52) (-1074)
  let mantissa := if place ≤ e then m <<< (e - place).toNat else dropBits m (place - e).toNat
  min ((place + 1074).toNat * Nat.pow 2 52 + mantissa) 0x7FF0000000000000

/-- The double nearest to `m * 2^e`, a tie going to the even mantissa;
infinity from the first number on that rounds above every double. -/
def nearest (m : Nat) (e : Int) : Float :=
  if m = 0 then 0 else Float.ofBits (UInt64.ofNat (nearestBits m e))

/-- The double nearest to `num / den`, for `den` positive. -/
def nearestRatio (num den : Nat) : Float :=
  if num = 0 then 0
  else
    let up := den.log2 + 66 - num.log2
    let quotient := (num <<< up) / den
    let cut := if quotient * den = num <<< up then 0 else 1
    nearest (2 * quotient + cut) (-(up : Int) - 1)

/-- Whether `x` is a number proper. -/
def isFinite (x : Float) : Bool :=
  match parts x with
  | .finite .. => true
  | _ => false

/-- The double nearest to a whole number; `none` if that is infinite. -/
def ofInt? (n : Int) : Option Float :=
  let x := nearest n.natAbs 0
  if isFinite x then some (if n < 0 then -x else x) else none

/-- The largest double not above a whole number. -/
def below (n : Int) : Float :=
  let drop := n.natAbs.log2 - 52
  let whole := n.natAbs >>> drop
  if 0 ≤ n then
    let x := nearest whole drop
    if isFinite x then x else Float.ofBits 0x7FEFFFFFFFFFFFFF
  else -nearest (if whole <<< drop = n.natAbs then whole else whole + 1) drop

/-- The whole number that `x` is, if it is one. -/
def toInt? (x : Float) : Option Int :=
  match parts x with
  | .finite negative m e =>
    let magnitude? : Option Nat :=
      if 0 ≤ e then some (m <<< e.toNat)
      else if (m >>> (-e).toNat) <<< (-e).toNat = m then some (m >>> (-e).toNat)
      else none
    magnitude?.map fun (k : Nat) => if negative then -(k : Int) else k
  | _ => none

/-- The least whole number not below `x`; `none` if `x` is infinite or
undefined. -/
def ceiling? (x : Float) : Option Int :=
  match parts x with
  | .finite negative m e =>
    if 0 ≤ e then some (if negative then -(m <<< e.toNat : Nat) else (m <<< e.toNat : Nat))
    else
      let whole := m >>> (-e).toNat
      some (if negative then -(whole : Int)
        else if whole <<< (-e).toNat = m then whole else whole + 1)
  | _ => none

end PlotDigitizer.Binary64
