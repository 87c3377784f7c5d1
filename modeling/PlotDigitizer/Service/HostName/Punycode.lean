/-
Labels of any script written in ASCII.

First stand the ASCII characters of the label, then a hyphen if there are any,
then the other code points in ascending order, each as its distance from the
one before. A distance counts the places in the label that are passed over too,
and is written in base 36 with the least digit first. How large a digit has to
be for more to follow adapts to the distances written so far.
-/
namespace PlotDigitizer.Service.HostName.Punycode

/-- The digits in order. -/
def digitChars : List Char := "abcdefghijklmnopqrstuvwxyz0123456789".toList

/-- The value of a digit, which may be in upper case. -/
def digit? (c : Char) : Option Nat := digitChars.findIdx? (· == c.toLower)

/-- Digits from this value on are followed by another one, at a place. -/
def threshold (place bias : Nat) : Nat :=
  if 36 * (place + 1) ≤ bias then 1 else min 26 (36 * (place + 1) - bias)

theorem threshold_pos (place bias : Nat) : 1 ≤ threshold place bias := by
  unfold threshold
  split
  · exact Nat.le_refl 1
  · omega

theorem threshold_le (place bias : Nat) : threshold place bias ≤ 26 := by
  unfold threshold
  split
  · omega
  · exact Nat.min_le_left ..

/-- The bias that a distance leaves. It is scaled down until it is small. -/
def biasOf (distance : Nat) : Nat :=
  if 455 < distance then 36 + biasOf (distance / 35)
  else 36 * distance / (distance + 38)
termination_by distance

/-- The bias after a distance. The number counts the code points written so
far. -/
def adapted (distance : Nat) (isFirst : Bool) (count : Nat) : Nat :=
  let d := if isFirst then distance / 700 else distance / 2
  biasOf (d + d / count)

/-- The digits of a distance from a place on. -/
def digitsFrom (place bias distance : Nat) : List Nat :=
  let t := threshold place bias
  if distance < t then [distance]
  else
    (t + (distance - t) % (36 - t)) :: digitsFrom (place + 1) bias ((distance - t) / (36 - t))
termination_by distance
decreasing_by
  have h₁ := threshold_pos place bias
  have h₂ := threshold_le place bias
  have h₃ := Nat.div_le_self (distance - threshold place bias) (36 - threshold place bias)
  omega

/-- The state between two distances. -/
structure Progress where
  /-- The digits written, from the last one on. -/
  digits : List Nat := []
  distance : Nat := 0
  bias : Nat := 72
  /-- How many code points of the label are written. -/
  count : Nat
  isFirst : Bool := true

/-- A code point of the label passed on the way to the next `n`. -/
def Progress.pass (n : Nat) (p : Progress) (m : Nat) : Progress :=
  if m < n then { p with distance := p.distance + 1 }
  else if m = n then
    { digits := (digitsFrom 0 p.bias p.distance).reverse ++ p.digits
      distance := 0
      bias := adapted p.distance p.isFirst (p.count + 1)
      count := p.count + 1
      isFirst := false }
  else p

/-- All code points of the label that are among the ascending ones listed,
after those below `n`. -/
def Progress.passAll (label : List Nat) : List Nat → Nat → Progress → Progress
  | [], _, p => p
  | m :: rest, n, p =>
    let p := { p with distance := p.distance + (m - n) * (p.count + 1) }
    let p := label.foldl (Progress.pass m) p
    passAll label rest (m + 1) { p with distance := p.distance + 1 }

/-- A label in ASCII. -/
def encode (label : List Nat) : List Char :=
  let basic := label.filter (· < 128)
  let others := ((label.filter (128 ≤ ·)).mergeSort (· ≤ ·)).eraseDups
  let p := Progress.passAll label others 128 { count := basic.length }
  let before := if basic.isEmpty then [] else basic.map Char.ofNat ++ ['-']
  before ++ p.digits.reverse.map fun d => digitChars.getD d '?'

/-- A distance and the text after it. -/
def distance? (bias : Nat) : Nat → Nat → Nat → List Char → Option (Nat × List Char)
  | _, _, _, [] => none
  | place, weight, sum, c :: rest =>
    match digit? c with
    | none => none
    | some d =>
      if d < threshold place bias then some (sum + d * weight, rest)
      else
        distance? bias (place + 1) (weight * (36 - threshold place bias)) (sum + d * weight) rest

theorem length_of_distance? {bias place weight sum : Nat} {cs rest : List Char} {n : Nat}
    (h : distance? bias place weight sum cs = some (n, rest)) : rest.length < cs.length := by
  induction cs generalizing place weight sum with
  | nil => simp [distance?] at h
  | cons c cs ih =>
    rw [distance?] at h
    split at h
    · simp at h
    · split at h
      · cases h; simp
      · have := ih h; simp; omega

/-- The label with the code points that are left to read. The last one read
is `code`, and stands before the position. -/
def insertAll (code position bias : Nat) (label : List Nat) (isFirst : Bool) (cs : List Char) :
    Option (List Nat) :=
  if cs.isEmpty then some label
  else
    match h : distance? bias 0 1 0 cs with
    | none => none
    | some (n, rest) =>
      let places := label.length + 1
      let total := position + n
      let next := code + total / places
      if 0x10FFFF < next then none
      else
        let label := label.take (total % places) ++ next :: label.drop (total % places)
        insertAll next (total % places + 1) (adapted n isFirst label.length) label false rest
termination_by cs.length
decreasing_by exact length_of_distance? h

/-- The label that a text in ASCII writes. -/
def decode? (cs : List Char) : Option (List Nat) :=
  let (tail, before) := cs.reverse.span (· != '-')
  insertAll 128 0 72 (before.tail.reverse.map Char.toNat) true tail.reverse

end PlotDigitizer.Service.HostName.Punycode
