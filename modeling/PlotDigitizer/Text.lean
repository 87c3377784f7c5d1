/-
Text: a sequence of letters.

A character beyond the basic plane is carried by two 16-bit units, a high half
and a low half. An escape can write a half without the other one, so a text
need not consist of characters. Its letters are the characters, and the halves
that stand by themselves.
-/
namespace PlotDigitizer

/-- A unit that is half a character. -/
structure Half where
  unit : UInt16
  isHalf : 0xD800 ≤ unit.toNat ∧ unit.toNat < 0xE000
deriving Repr, DecidableEq

/-- A character, or a half of one that stands by itself. -/
inductive Letter where
  | char (c : Char)
  | half (h : Half)
deriving Repr, DecidableEq

namespace Letter

/-- The code point of a letter. -/
def code : Letter → Nat
  | char c => c.toNat
  | half h => h.unit.toNat

def char? : Letter → Option Char
  | char c => some c
  | half _ => none

/-- The letter of a code point, if there is one. -/
def ofCode? (n : Nat) : Option Letter :=
  if valid : n.isValidChar then some (char (Char.ofNatAux n valid))
  else
    let u := UInt16.ofNat n
    if h : u.toNat = n ∧ 0xD800 ≤ u.toNat ∧ u.toNat < 0xE000 then some (half ⟨u, h.2⟩) else none

/-- The units that a character is carried by. -/
def unitsOfChar (c : Char) : List UInt16 :=
  if c.toNat < 0x10000 then [UInt16.ofNat c.toNat]
  else
    let n := c.toNat - 0x10000
    [UInt16.ofNat (0xD800 + n / 0x400), UInt16.ofNat (0xDC00 + n % 0x400)]

def units : Letter → List UInt16
  | char c => unitsOfChar c
  | half h => [h.unit]

def isHigh (u : UInt16) : Bool := 0xD800 ≤ u.toNat && u.toNat < 0xDC00

def isLow (u : UInt16) : Bool := 0xDC00 ≤ u.toNat && u.toNat < 0xE000

/-- The letter of a unit by itself. -/
def single (u : UInt16) : Letter :=
  if h : 0xD800 ≤ u.toNat ∧ u.toNat < 0xE000 then half ⟨u, h⟩ else char (Char.ofNat u.toNat)

/-- The character of two halves. -/
def joined (high low : UInt16) : Letter :=
  char (Char.ofNat (0x10000 + (high.toNat - 0xD800) * 0x400 + (low.toNat - 0xDC00)))

/-- The letters of units: a high half is joined with a low half after it. -/
def ofUnits : List UInt16 → List Letter
  | [] => []
  | [u] => [single u]
  | u :: v :: rest =>
    if isHigh u && isLow v then joined u v :: ofUnits rest else single u :: ofUnits (v :: rest)

/-- The units of a character are read as that character, whatever follows. -/
theorem ofUnits_unitsOfChar (c : Char) (us : List UInt16) :
    ofUnits (unitsOfChar c ++ us) = char c :: ofUnits us := by
  have hv : c.toNat < 0xD800 ∨ (0xE000 ≤ c.toNat ∧ c.toNat < 0x110000) := by
    have v := c.valid
    have e : c.val.toNat = c.toNat := rfl
    simp only [UInt32.isValidChar, Nat.isValidChar] at v
    rw [e] at v
    omega
  unfold unitsOfChar
  split
  · rename_i h
    have hn : (UInt16.ofNat c.toNat).toNat = c.toNat := by
      rw [UInt16.toNat_ofNat']; omega
    have hs : single (UInt16.ofNat c.toNat) = char c := by
      have hh : ¬(0xD800 ≤ (UInt16.ofNat c.toNat).toNat
          ∧ (UInt16.ofNat c.toNat).toNat < 0xE000) := by rw [hn]; omega
      rw [single, dif_neg hh, hn, Char.ofNat_toNat]
    have hh : isHigh (UInt16.ofNat c.toNat) = false := by
      simp only [isHigh, hn, Bool.and_eq_false_iff, decide_eq_false_iff_not]
      omega
    cases us with
    | nil => simp [ofUnits, hs]
    | cons v rest => simp [ofUnits, hs, hh]
  · rename_i h
    have h1 : (UInt16.ofNat (0xD800 + (c.toNat - 0x10000) / 0x400)).toNat
        = 0xD800 + (c.toNat - 0x10000) / 0x400 := by
      rw [UInt16.toNat_ofNat']; omega
    have h2 : (UInt16.ofNat (0xDC00 + (c.toNat - 0x10000) % 0x400)).toNat
        = 0xDC00 + (c.toNat - 0x10000) % 0x400 := by
      rw [UInt16.toNat_ofNat']; omega
    have hh : (isHigh (UInt16.ofNat (0xD800 + (c.toNat - 0x10000) / 0x400))
        && isLow (UInt16.ofNat (0xDC00 + (c.toNat - 0x10000) % 0x400))) = true := by
      simp only [isHigh, isLow, h1, h2, Bool.and_eq_true, decide_eq_true_eq]
      omega
    have hj : joined (UInt16.ofNat (0xD800 + (c.toNat - 0x10000) / 0x400))
        (UInt16.ofNat (0xDC00 + (c.toNat - 0x10000) % 0x400)) = char c := by
      have e : 0x10000 + (0xD800 + (c.toNat - 0x10000) / 0x400 - 0xD800) * 0x400
          + (0xDC00 + (c.toNat - 0x10000) % 0x400 - 0xDC00) = c.toNat := by omega
      simp only [joined, h1, h2, e, Char.ofNat_toNat]
    simp only [List.cons_append, List.nil_append, ofUnits, hh, if_true, hj]

end Letter

structure Text where
  letters : List Letter
deriving Repr, DecidableEq

namespace Text

def ofChars (cs : List Char) : Text := ⟨cs.map .char⟩

def ofString (s : String) : Text := ofChars s.toList

instance : Coe String Text := ⟨ofString⟩

instance : Append Text := ⟨fun t s => ⟨t.letters ++ s.letters⟩⟩

def isEmpty (t : Text) : Bool := t.letters.isEmpty

/-- Lines, each with its end. -/
def unlines (lines : List Text) : Text := ⟨lines.flatMap fun t => t.letters ++ [.char '\n']⟩

/-- The characters of a text that has no lone halves. -/
def chars? (t : Text) : Option (List Char) := t.letters.mapM Letter.char?

def toString? (t : Text) : Option String := t.chars?.map String.ofList

/-- The code points of a text, by which texts are ordered. -/
def codes (t : Text) : List Nat := t.letters.map Letter.code

instance : LT Text := ⟨fun t s => t.codes < s.codes⟩

instance : DecidableLT Text := fun t s => inferInstanceAs (Decidable (t.codes < s.codes))

@[simp] theorem letters_append (t s : Text) : (t ++ s).letters = t.letters ++ s.letters := rfl

theorem lt_def {t s : Text} : t < s ↔ t.codes < s.codes := Iff.rfl

@[simp] theorem letters_ofChars (cs : List Char) : (ofChars cs).letters = cs.map .char := rfl

theorem chars?_ofChars (cs : List Char) : (ofChars cs).chars? = some cs := by
  unfold chars?
  rw [letters_ofChars]
  induction cs with
  | nil => rfl
  | cons c cs ih => simp [List.mapM_cons, ih, Letter.char?]

/-- A text that consists of characters is the text of them. -/
theorem chars?_eq_some {t : Text} {cs : List Char} : t.chars? = some cs ↔ t = ofChars cs := by
  refine ⟨fun h => ?_, fun h => by rw [h, chars?_ofChars]⟩
  obtain ⟨ls⟩ := t
  rw [chars?] at h
  induction ls generalizing cs with
  | nil =>
    obtain rfl := Option.some.inj h
    rfl
  | cons l ls ih =>
    rw [List.mapM_cons] at h
    cases l with
    | half half => exact absurd h (by simp [Letter.char?])
    | char c =>
      cases hrest : ls.mapM Letter.char? with
      | none => exact absurd h (by simp [Letter.char?, hrest])
      | some rest =>
        simp only [Letter.char?, hrest, Option.pure_def, Option.bind_eq_bind, Option.bind_some,
          Option.some.injEq] at h
        rw [← h]
        exact congrArg (fun t : Text => (⟨.char c :: t.letters⟩ : Text)) (ih hrest)

@[simp] theorem toString?_ofString (s : String) : (ofString s).toString? = some s := by
  simp [toString?, ofString, chars?_ofChars]

theorem toString?_eq_some {t : Text} {s : String} : t.toString? = some s ↔ t = ofString s := by
  refine ⟨fun h => ?_, fun h => by rw [h, toString?_ofString]⟩
  obtain ⟨cs, hcs, rfl⟩ := Option.map_eq_some_iff.1 h
  rw [ofString, String.toList_ofList]
  exact chars?_eq_some.1 hcs

@[simp] theorem ofString_inj {s t : String} : ofString s = ofString t ↔ s = t := by
  refine ⟨fun h => ?_, congrArg ofString⟩
  have := congrArg toString? h
  simpa using this

end Text
end PlotDigitizer
