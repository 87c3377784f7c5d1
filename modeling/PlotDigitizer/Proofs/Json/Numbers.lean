/-
Numbers that are read as they were written.

A number is taken apart into its sign, the digits before and after the point
and the exponent (`Figure`). Whatever follows, it is read as the decimal number
of its parts, as long as what follows cannot belong to the number (`number_eq`).
The layouts write such figures, for doubles (`number_double`) and for whole
numbers (`number_int`).
-/
import PlotDigitizer.Json.Reader
import PlotDigitizer.Proofs.Number.Shortest

namespace PlotDigitizer

/-! ## Digits -/

namespace Numeral

theorem isDigit_iff {c : Char} : isDigit c = true ↔ 48 ≤ c.toNat ∧ c.toNat ≤ 57 := by
  rw [isDigit, Text.asciiDigit?]
  split <;> simp_all

theorem isDigit_of_mem_toDigits {n : Nat} {c : Char} (h : c ∈ Nat.toDigits 10 n) : isDigit c = true := by
  have hdigit := Nat.isDigit_of_mem_toDigits (by decide) (by decide) h
  simp only [Char.isDigit, Bool.and_eq_true, decide_eq_true_eq] at hdigit
  exact isDigit_iff.2 hdigit

theorem isDigit_of_mem_zeros {n : Nat} {c : Char} (h : c ∈ Layout.zeros n) : isDigit c = true := by
  rw [List.eq_of_mem_replicate h]
  rfl

theorem natOf_eq (cs : List Char) : natOf cs = Nat.ofDigitChars 10 cs 0 := rfl

theorem natOf_append (cs ds : List Char) : natOf (cs ++ ds) = natOf cs * 10 ^ ds.length + natOf ds := by
  rw [natOf_eq, natOf_eq, natOf_eq, Nat.ofDigitChars_append, Nat.ofDigitChars_eq_ofDigitChars_zero,
    Nat.mul_comm]

@[simp] theorem natOf_toDigits (n : Nat) : natOf (Nat.toDigits 10 n) = n := Nat.ofDigitChars_ten_toDigits

@[simp] theorem natOf_zeros (n : Nat) : natOf (Layout.zeros n) = 0 := by
  rw [natOf_eq, Layout.zeros, Nat.ofDigitChars_replicate_zero, Nat.mul_zero]

theorem natOf_lt {cs : List Char} (h : ∀ c ∈ cs, isDigit c = true) : natOf cs < 10 ^ cs.length := by
  induction cs using List.reverseRecOn with
  | nil => decide
  | append_singleton cs c ih =>
    rw [List.forall_mem_append, List.forall_mem_singleton] at h
    have hc := isDigit_iff.1 h.2
    have hlast : natOf [c] = c.toNat - 48 := by
      simp [natOf]
    have := ih h.1
    rw [natOf_append, hlast, List.length_append, List.length_singleton, pow_succ]
    omega

/-- Only zero is written with a zero in front. -/
theorem eq_zero_of_head?_toDigits {n : Nat} (h : (Nat.toDigits 10 n).head? = some '0') : n = 0 := by
  by_contra hn
  obtain ⟨rest, hrest⟩ := List.head?_eq_some_iff.1 h
  have hdigits : ∀ c ∈ rest, isDigit c = true := fun c hc =>
    isDigit_of_mem_toDigits (hrest ▸ List.mem_cons_of_mem _ hc)
  have hvalue : n = natOf rest := by
    conv_lhs => rw [← natOf_toDigits n, hrest]
    rfl
  have hlow := Decimal.le_of_length_toDigits (Nat.pos_of_ne_zero hn)
  have hhigh := natOf_lt hdigits
  rw [hrest, List.length_cons, Nat.add_sub_cancel] at hlow
  omega

end Numeral

namespace Json

open Numeral (isDigit natOf)

/-- A text that a number before it cannot go on with. -/
def EndsNumber (rest : List Letter) : Prop :=
  ∀ c tail, rest = .char c :: tail → isDigit c = false ∧ c ≠ '.' ∧ c ≠ 'e' ∧ c ≠ 'E'

/-- A text that digits before it cannot go on with. -/
def EndsDigits (rest : List Letter) : Prop := ∀ c tail, rest = .char c :: tail → isDigit c = false

theorem EndsNumber.endsDigits {rest : List Letter} (h : EndsNumber rest) : EndsDigits rest :=
  fun c tail hc => (h c tail hc).1

theorem EndsDigits.cons {c : Char} (h : isDigit c = false) (rest : List Letter) : EndsDigits (.char c :: rest) := by
  rintro _ _ ⟨⟩
  exact h

theorem digits_of_endsDigits {rest : List Letter} (h : EndsDigits rest) : digits rest = ([], rest) := by
  match rest with
  | [] | .half _ :: _ => rfl
  | .char c :: tail => rw [digits, if_neg (Bool.eq_false_iff.1 (h c tail rfl))]

theorem digits_append {cs : List Char} {rest : List Letter} (hcs : ∀ c ∈ cs, isDigit c = true)
    (hrest : EndsDigits rest) : digits (cs.map .char ++ rest) = (cs, rest) := by
  induction cs with
  | nil => exact digits_of_endsDigits hrest
  | cons c cs ih =>
    rw [List.forall_mem_cons] at hcs
    rw [List.map_cons, List.cons_append, digits, if_pos hcs.1, ih hcs.2]

/-! ## Numbers in parts -/

/-- An exponent: whether it is negative, and its digits. -/
structure Exponent where
  negative : Bool
  digits : List Char

/-- A number in parts. -/
structure Figure where
  negative : Bool
  whole : List Char
  fraction : List Char
  exponent : Option Exponent

namespace Figure

def signText (f : Figure) : List Char := if f.negative then ['-'] else []

def fractionText (f : Figure) : List Char := if f.fraction.isEmpty then [] else '.' :: f.fraction

def exponentText (f : Figure) : List Char :=
  match f.exponent with
  | none => []
  | some e => 'e' :: (if e.negative then '-' else '+') :: e.digits

def text (f : Figure) : List Char := f.signText ++ (f.whole ++ (f.fractionText ++ f.exponentText))

/-- The exponent that is written, if one is. -/
def exponent? (f : Figure) : Option Int :=
  f.exponent.map fun e => if e.negative then -(natOf e.digits : Int) else natOf e.digits

/-- The number without its sign. -/
def decimal (f : Figure) : Decimal :=
  ⟨natOf (f.whole ++ f.fraction), f.exponent?.getD 0 - f.fraction.length⟩

/-- Digits stand where they should, and no zero in front of others. -/
structure IsProper (f : Figure) : Prop where
  whole : ∀ c ∈ f.whole, isDigit c = true
  whole_ne_nil : f.whole ≠ []
  whole_zero : f.whole.head? = some '0' → f.whole = ['0']
  fraction : ∀ c ∈ f.fraction, isDigit c = true
  exponent : ∀ e, f.exponent = some e → e.digits ≠ [] ∧ ∀ c ∈ e.digits, isDigit c = true

/-- Whether a figure has a point or an exponent. -/
def isReal (f : Figure) : Bool := !f.fraction.isEmpty || f.exponent.isSome

/-- The characters that figures are made of. -/
theorem IsProper.mem_text {f : Figure} (hf : f.IsProper) {c : Char} (hc : c ∈ f.text) :
    isDigit c = true ∨ c ∈ ['-', '+', '.', 'e'] := by
  simp only [text, List.mem_append] at hc
  rcases hc with hc | hc | hc | hc
  · rw [signText] at hc
    split at hc <;> simp_all
  · exact .inl (hf.whole c hc)
  · rw [fractionText] at hc
    split at hc
    · simp at hc
    · rcases List.mem_cons.1 hc with rfl | hc
      · exact .inr (by decide)
      · exact .inl (hf.fraction c hc)
  · rw [exponentText] at hc
    split at hc
    · simp at hc
    · rename_i e he
      rcases List.mem_cons.1 hc with rfl | hc
      · exact .inr (by decide)
      · rcases List.mem_cons.1 hc with rfl | hc
        · right
          split <;> decide
        · exact .inl ((hf.exponent e he).2 c hc)

end Figure

section
variable {f : Figure} {rest : List Letter}

theorem wholePart_append (hf : f.IsProper) (hrest : EndsDigits rest) :
    wholePart (f.whole.map .char ++ rest) = (f.whole, rest) := by
  obtain ⟨c, cs, hwhole⟩ := List.exists_cons_of_ne_nil hf.whole_ne_nil
  by_cases hc : c = '0'
  · rw [hf.whole_zero (by rw [hwhole, hc]; rfl)]
    rfl
  · have hdigits := digits_append hf.whole hrest
    rw [hwhole] at hdigits ⊢
    rw [List.map_cons, List.cons_append] at hdigits ⊢
    rw [wholePart, hdigits]
    rintro _ ⟨⟩
    exact hc rfl

theorem endsDigits_fractionText (f : Figure) (hrest : EndsDigits rest) :
    EndsDigits (f.fractionText.map .char ++ rest) := by
  rw [Figure.fractionText]
  split
  · exact hrest
  · exact .cons rfl _

theorem endsDigits_exponentText (f : Figure) (hrest : EndsDigits rest) :
    EndsDigits (f.exponentText.map .char ++ rest) := by
  rw [Figure.exponentText]
  split
  · exact hrest
  · exact .cons rfl _

theorem fractionPart_of_ne {rest : List Letter} (h : ∀ tail, rest ≠ .char '.' :: tail) :
    fractionPart rest = ([], rest) := by
  unfold fractionPart
  split
  · rename_i tail
    exact absurd rfl (h tail)
  · rfl

theorem fractionPart_append (hf : f.IsProper) (hrest : EndsNumber rest) :
    fractionPart (f.fractionText.map .char ++ (f.exponentText.map .char ++ rest))
      = (f.fraction, f.exponentText.map .char ++ rest) := by
  rw [Figure.fractionText]
  split
  · rename_i hempty
    rw [List.isEmpty_iff.1 hempty]
    refine fractionPart_of_ne fun tail h => ?_
    rw [Figure.exponentText] at h
    split at h
    · exact (hrest _ _ h).2.1 rfl
    · simp at h
  · rename_i hne
    rw [List.map_cons, List.cons_append, fractionPart,
      digits_append hf.fraction (endsDigits_exponentText f hrest.endsDigits)]
    rw [List.isEmpty_iff] at hne
    cases hfraction : f.fraction with
    | nil => exact absurd hfraction hne
    | cons c cs => rfl

theorem exponentPart_of_ne (h : ∀ tail, rest ≠ .char 'e' :: tail ∧ rest ≠ .char 'E' :: tail) :
    exponentPart rest = (none, rest) := by
  match rest with
  | [] => rfl
  | mark :: tail =>
    have hmark : (mark == Letter.char 'e' || mark == Letter.char 'E') = false := by
      rw [Bool.or_eq_false_iff, beq_eq_false_iff_ne, beq_eq_false_iff_ne]
      exact ⟨fun he => (h tail).1 (by rw [he]), fun he => (h tail).2 (by rw [he])⟩
    simp only [exponentPart, hmark, Bool.false_and, Bool.false_eq_true, if_false]

theorem exponentPart_append (hf : f.IsProper) (hrest : EndsNumber rest) :
    exponentPart (f.exponentText.map .char ++ rest) = (f.exponent?, rest) := by
  cases he : f.exponent with
  | none =>
    simp only [Figure.exponentText, Figure.exponent?, he, List.map_nil, List.nil_append, Option.map_none]
    exact exponentPart_of_ne fun tail =>
      ⟨fun h => (hrest _ _ h).2.2.1 rfl, fun h => (hrest _ _ h).2.2.2 rfl⟩
  | some e =>
    obtain ⟨hne, hdigits⟩ := hf.exponent e he
    have hread := digits_append hdigits hrest.endsDigits
    have hempty : e.digits.isEmpty = false := by simpa using hne
    simp only [Figure.exponentText, Figure.exponent?, he, List.map_cons, List.cons_append, Option.map_some]
    cases e.negative <;> simp [exponentPart, takeSign, hread, hempty]

theorem minusPart_append (hf : f.IsProper) (tail : List Letter) :
    minusPart (f.signText.map .char ++ (f.whole.map .char ++ tail))
      = (f.negative, f.whole.map .char ++ tail) := by
  rw [Figure.signText]
  cases f.negative with
  | true => rfl
  | false =>
    obtain ⟨c, cs, hwhole⟩ := List.exists_cons_of_ne_nil hf.whole_ne_nil
    have hc : c ≠ '-' := by
      rintro rfl
      exact absurd (hf.whole '-' (hwhole ▸ List.mem_cons_self)) (by decide)
    rw [hwhole]
    unfold minusPart
    split
    · rename_i h
      exact absurd (Letter.char.inj (List.cons.inj h).1) hc
    · rfl

/-- **A number is read as its parts.** -/
theorem number_eq (hf : f.IsProper) (hrest : EndsNumber rest) (longest : Nat) :
    number longest (f.text.map .char ++ rest) =
      if f.isReal then .ok (.real (Decimal.signed f.negative f.decimal), rest)
      else if longest < f.whole.length then .error .oversized
      else .ok (.int (if f.negative then -(natOf f.whole : Int) else natOf f.whole), rest) := by
  have htext : f.text.map Letter.char ++ rest = f.signText.map .char ++ (f.whole.map .char
      ++ (f.fractionText.map .char ++ (f.exponentText.map .char ++ rest))) := by
    rw [Figure.text]
    simp only [List.map_append, List.append_assoc]
  have hends := endsDigits_fractionText f (endsDigits_exponentText f hrest.endsDigits)
  have hempty : f.whole.isEmpty = false := by simpa using hf.whole_ne_nil
  have hnone : f.exponent?.isNone = !f.exponent.isSome := by
    rw [Figure.exponent?]
    cases f.exponent <;> rfl
  have hreal : (f.fraction.isEmpty && f.exponent?.isNone) = !f.isReal := by
    rw [hnone, Figure.isReal, Bool.not_or, Bool.not_not]
  simp only [number, htext, minusPart_append hf, wholePart_append hf hends, fractionPart_append hf hrest,
    exponentPart_append hf hrest, hempty, hreal]
  cases f.isReal <;> rfl

end

/-! ## Layouts -/

/-- A figure with a point or an exponent that stands for a decimal number. -/
structure Figure.Shows (f : Figure) (negative : Bool) (d : Decimal) : Prop where
  isProper : f.IsProper
  isReal : f.isReal = true
  negative_eq : f.negative = negative
  value_eq : f.decimal.value = d.value

theorem Figure.decimal_of_exponent_none {f : Figure} (h : f.exponent = none) :
    f.decimal = ⟨natOf (f.whole ++ f.fraction), -f.fraction.length⟩ := by
  rw [decimal, exponent?, h, Option.map_none, Option.getD_none, zero_sub]

theorem isDigit_toDigits (n : Nat) : ∀ c ∈ Nat.toDigits 10 n, isDigit c = true :=
  fun _ => Numeral.isDigit_of_mem_toDigits

theorem isDigit_zeros (n : Nat) : ∀ c ∈ Layout.zeros n, isDigit c = true :=
  fun _ => Numeral.isDigit_of_mem_zeros

section
variable {d : Decimal} (negative : Bool)

/-- All digits after the point. -/
theorem shows_after {k : Nat} (hk : d.exponent + ((Nat.toDigits 10 d.digits).length : Int) = -k) :
    Figure.Shows ⟨negative, ['0'], Layout.zeros k ++ Nat.toDigits 10 d.digits, none⟩ negative d where
  isProper := {
    whole := by simp [Numeral.isDigit_iff]
    whole_ne_nil := by simp
    whole_zero := fun _ => rfl
    fraction := List.forall_mem_append.2 ⟨isDigit_zeros k, isDigit_toDigits _⟩
    exponent := by rintro _ ⟨⟩ }
  isReal := by simp [Figure.isReal]
  negative_eq := rfl
  value_eq := by
    have hzero : natOf ['0'] = 0 := rfl
    rw [Figure.decimal_of_exponent_none rfl, Numeral.natOf_append, Numeral.natOf_append, hzero,
      Numeral.natOf_zeros, Numeral.natOf_toDigits, List.length_append, Layout.zeros, List.length_replicate]
    congr 2
    · omega
    · push_cast
      omega

/-- All digits before the point. -/
theorem shows_before {k : Nat} (hk : d.exponent = k) (hd : d.digits = 0 → d.exponent = 0) :
    Figure.Shows ⟨negative, Nat.toDigits 10 d.digits ++ Layout.zeros k, ['0'], none⟩ negative d where
  isProper := {
    whole := List.forall_mem_append.2 ⟨isDigit_toDigits _, isDigit_zeros k⟩
    whole_ne_nil := by simp
    whole_zero := fun h => by
      have hhead : (Nat.toDigits 10 d.digits).head? = some '0' := by
        rwa [List.head?_append_of_ne_nil _ Nat.toDigits_ne_nil] at h
      have hzero := Numeral.eq_zero_of_head?_toDigits hhead
      obtain rfl : k = 0 := by have := hd hzero; omega
      rw [hzero]
      rfl
    fraction := by simp [Numeral.isDigit_iff]
    exponent := by rintro _ ⟨⟩ }
  isReal := rfl
  negative_eq := rfl
  value_eq := by
    have hzero : natOf ['0'] = 0 := rfl
    rw [Figure.decimal_of_exponent_none rfl, Numeral.natOf_append, Numeral.natOf_append, hzero,
      Numeral.natOf_zeros, Numeral.natOf_toDigits, Layout.zeros, List.length_replicate, Decimal.value,
      Decimal.value, hk, zpow_natCast]
    simp

/-- The point among the digits. -/
theorem shows_among {k : Nat} (hk : 0 < k) (hlt : k < (Nat.toDigits 10 d.digits).length)
    (he : d.exponent + ((Nat.toDigits 10 d.digits).length : Int) = k) :
    Figure.Shows ⟨negative, (Nat.toDigits 10 d.digits).take k, (Nat.toDigits 10 d.digits).drop k, none⟩
      negative d where
  isProper := {
    whole := fun c hc => isDigit_toDigits _ c (List.mem_of_mem_take hc)
    whole_ne_nil := by simp [hk.ne']
    whole_zero := fun h => by
      have hhead : (Nat.toDigits 10 d.digits).head? = some '0' := by
        rwa [List.head?_take, if_neg hk.ne'] at h
      rw [Numeral.eq_zero_of_head?_toDigits hhead] at hlt
      exact absurd hlt (by simp; omega)
    fraction := fun c hc => isDigit_toDigits _ c (List.mem_of_mem_drop hc)
    exponent := by rintro _ ⟨⟩ }
  isReal := by simp [Figure.isReal, hlt]
  negative_eq := rfl
  value_eq := by
    rw [Figure.decimal_of_exponent_none rfl, List.take_append_drop, Numeral.natOf_toDigits, List.length_drop]
    congr 2
    omega

/-- The point after the first digit, or none, and an exponent. -/
theorem shows_exponent {c : Char} {rest : List Char} (hdigits : Nat.toDigits 10 d.digits = c :: rest)
    {e : Exponent} (hne : e.digits ≠ []) (he : ∀ c ∈ e.digits, isDigit c = true)
    (hvalue : (if e.negative then -(natOf e.digits : Int) else natOf e.digits)
      = d.exponent + rest.length) : Figure.Shows ⟨negative, [c], rest, some e⟩ negative d where
  isProper := {
    whole := by
      rw [List.forall_mem_singleton]
      exact isDigit_toDigits d.digits c (hdigits ▸ List.mem_cons_self)
    whole_ne_nil := by simp
    whole_zero := fun h => by rw [Option.some.inj h]
    fraction := fun x hx => isDigit_toDigits d.digits x (hdigits ▸ List.mem_cons_of_mem c hx)
    exponent := by
      rintro _ ⟨⟩
      exact ⟨hne, he⟩ }
  isReal := by simp [Figure.isReal]
  negative_eq := rfl
  value_eq := by
    have hdecimal : Figure.decimal ⟨negative, [c], rest, some e⟩
        = ⟨natOf ([c] ++ rest), (d.exponent + rest.length) - rest.length⟩ := by
      rw [← hvalue]
      rfl
    rw [hdecimal, List.singleton_append, ← hdigits, Numeral.natOf_toDigits, Int.add_sub_cancel]

end

theorem exists_shows_pointed {d : Decimal} (hd : d.digits = 0 → d.exponent = 0) (negative : Bool) :
    ∃ f : Figure, f.Shows negative d ∧ f.text = f.signText ++ Layout.pointed (Nat.toDigits 10 d.digits)
      (d.exponent + ((Nat.toDigits 10 d.digits).length : Int)) := by
  have hlen : 0 < (Nat.toDigits 10 d.digits).length := Nat.length_toDigits_pos
  unfold Layout.pointed
  dsimp only
  split
  · rename_i hleft
    refine ⟨_, shows_after negative (k := (-(d.exponent + (Nat.toDigits 10 d.digits).length)).toNat)
      (by omega), ?_⟩
    simp [Figure.text, Figure.fractionText, Figure.exponentText]
  · split
    · rename_i hright
      refine ⟨_, shows_before negative (k := d.exponent.toNat) (by omega) hd, ?_⟩
      have hzeros : d.exponent.toNat = (d.exponent + (Nat.toDigits 10 d.digits).length).toNat
          - (Nat.toDigits 10 d.digits).length := by omega
      simp [Figure.text, Figure.fractionText, Figure.exponentText, hzeros]
    · rename_i hinside
      refine ⟨_, shows_among negative (k := (d.exponent + (Nat.toDigits 10 d.digits).length).toNat)
        (by omega) (by omega) (by omega), ?_⟩
      have hdrop : ¬((Nat.toDigits 10 d.digits).length
          ≤ (d.exponent + (Nat.toDigits 10 d.digits).length).toNat) := hinside
      simp [Figure.text, Figure.fractionText, Figure.exponentText, hdrop]

theorem exists_shows_exponent (l : Layout) (d : Decimal) (negative : Bool) :
    ∃ f : Figure, f.Shows negative d ∧ f.text = f.signText ++
      ((match Nat.toDigits 10 d.digits with
        | [c] => [c]
        | c :: rest => c :: '.' :: rest
        | [] => []) ++ l.exponent (d.exponent + ((Nat.toDigits 10 d.digits).length : Int) - 1)) := by
  obtain ⟨c, rest, hdigits⟩ := List.exists_cons_of_ne_nil (Nat.toDigits_ne_nil (b := 10) (n := d.digits))
  have hfirst : d.exponent + ((c :: rest).length : Int) - 1 = d.exponent + rest.length := by
    rw [List.length_cons]
    omega
  rw [hdigits, hfirst]
  generalize hfirst' : d.exponent + (rest.length : Int) = first
  let e : Exponent := ⟨decide (first < 0),
    Layout.zeros (l.exponentDigits - (Nat.toDigits 10 first.natAbs).length) ++ Nat.toDigits 10 first.natAbs⟩
  refine ⟨_, shows_exponent negative hdigits (e := e) ?_ ?_ ?_, ?_⟩
  · simp [e]
  · exact List.forall_mem_append.2 ⟨isDigit_zeros _, isDigit_toDigits _⟩
  · rw [hfirst', Numeral.natOf_append, Numeral.natOf_zeros, Numeral.natOf_toDigits]
    simp only [e, decide_eq_true_eq]
    split <;> omega
  · have hexp : l.exponent first = 'e' :: (if e.negative then '-' else '+') :: e.digits := by
      simp [Layout.exponent, e]
    rw [hexp]
    cases rest <;> simp [Figure.text, Figure.fractionText, Figure.exponentText]

/-- **A layout writes a figure** that stands for its decimal number. -/
theorem exists_shows (l : Layout) {d : Decimal} (hd : d.digits = 0 → d.exponent = 0) (negative : Bool) :
    ∃ f : Figure, f.Shows negative d ∧ f.text = f.signText ++ l.decimal d := by
  unfold Layout.decimal
  dsimp only
  split
  · rw [show d.exponent + ((Nat.toDigits 10 d.digits).length : Int) - 1 + 1
      = d.exponent + ((Nat.toDigits 10 d.digits).length : Int) by omega]
    exact exists_shows_pointed hd negative
  · exact exists_shows_exponent l d negative

/-! ## Doubles and whole numbers -/

/-- A figure that a double is written as, and read from. -/
structure Figure.IsOf (f : Figure) (x : Float) : Prop where
  isProper : f.IsProper
  isReal : f.isReal = true
  signed_eq : Decimal.signed f.negative f.decimal = x

theorem exists_isOf (l : Layout) {x : Float} (hx : Binary64.isFinite x = true) :
    ∃ f : Figure, f.IsOf x ∧ f.text = (l.double x).toList := by
  obtain ⟨negative, m, e, hparts⟩ := Binary64.isFinite_iff.1 hx
  obtain ⟨f, hshows, htext⟩ := exists_shows l (Decimal.exponent_shortest hparts) negative
  refine ⟨f, ⟨hshows.isProper, hshows.isReal, ?_⟩, ?_⟩
  · rw [hshows.negative_eq]
    exact Decimal.signed_of_parts hparts hshows.value_eq
  · rw [htext, Layout.double, hparts, Figure.signText, hshows.negative_eq]
    dsimp only
    split <;> simp

/-- **A double is read as it was written**, by whatever layout. -/
theorem number_double (l : Layout) {x : Float} (hx : Binary64.isFinite x = true) {rest : List Letter}
    (hrest : EndsNumber rest) (longest : Nat) :
    number longest ((l.double x).toList.map .char ++ rest) = .ok (.real x, rest) := by
  obtain ⟨f, hf, htext⟩ := exists_isOf l hx
  rw [← htext, number_eq hf.isProper hrest, if_pos hf.isReal, hf.signed_eq]

/-- A whole number as a figure. -/
def Figure.ofInt (n : Int) : Figure := ⟨decide (n < 0), Nat.toDigits 10 n.natAbs, [], none⟩

theorem Figure.isProper_ofInt (n : Int) : (ofInt n).IsProper where
  whole := isDigit_toDigits _
  whole_ne_nil := Nat.toDigits_ne_nil
  whole_zero := fun h => by
    rw [ofInt, Numeral.eq_zero_of_head?_toDigits h]
    rfl
  fraction := by simp [ofInt]
  exponent := by rintro _ ⟨⟩

theorem Figure.text_ofInt (n : Int) : (ofInt n).text = (toString n).toList := by
  have htext : (ofInt n).text = (ofInt n).signText ++ Nat.toDigits 10 n.natAbs := by
    simp [text, ofInt, fractionText, exponentText]
  rw [htext, Int.toString_eq_repr, Int.repr_eq_if, signText, ofInt]
  by_cases hn : n < 0
  · have habs : (-n).toNat = n.natAbs := by omega
    have hneg : ¬(0 ≤ n) := by omega
    simp [hn, hneg, habs]
  · have habs : n.toNat = n.natAbs := by omega
    have hpos : 0 ≤ n := by omega
    simp [hn, hpos, habs]

/-- **A whole number is read as it was written**, if it is not too long. -/
theorem number_int (n : Int) {rest : List Letter} (hrest : EndsNumber rest) {longest : Nat}
    (hlength : (Nat.toDigits 10 n.natAbs).length ≤ longest) :
    number longest ((toString n).toList.map .char ++ rest) = .ok (.int n, rest) := by
  have hreal : (Figure.ofInt n).isReal = false := rfl
  rw [← Figure.text_ofInt, number_eq (Figure.isProper_ofInt n) hrest, hreal, if_neg Bool.false_ne_true,
    if_neg (by simpa [Figure.ofInt] using hlength)]
  simp only [Figure.ofInt, Numeral.natOf_toDigits, decide_eq_true_eq]
  congr 3
  split <;> omega

end Json
end PlotDigitizer
