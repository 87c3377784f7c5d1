/-
Strings that are read as they were written.

A text is written unit by unit, so what is read are the letters of its units
(`stringTail_units`). They are the letters that were written, unless a high
half that stood by itself was followed by a low one: written, the two are no
longer told from a character (`Text.joined_eq_iff`). A text of characters has
no halves (`Text.joined_ofChars`).
-/
import Mathlib.Data.List.Chain
import PlotDigitizer.Json.Reader
import PlotDigitizer.Json.Writer

namespace PlotDigitizer

namespace Text

/-- The units a text is carried by. -/
def units (t : Text) : List UInt16 := t.letters.flatMap Letter.units

/-- The text with halves that meet made characters. -/
def joined (t : Text) : Text := ⟨Letter.ofUnits t.units⟩

theorem joined_ofChars (cs : List Char) : (ofChars cs).joined = ofChars cs := by
  have hletters : Letter.ofUnits ((ofChars cs).units) = cs.map .char := by
    induction cs with
    | nil => rfl
    | cons c cs ih =>
      have hunits : (ofChars (c :: cs)).units = Letter.unitsOfChar c ++ (ofChars cs).units := rfl
      rw [hunits, Letter.ofUnits_unitsOfChar, ih, List.map_cons]
  rw [joined, hletters]
  rfl

end Text

namespace Letter

/-- A high half before a low one, which are the units of a character. -/
def Meets : Letter → Letter → Prop
  | .half h, .half l => isHigh h.unit = true ∧ isLow l.unit = true
  | _, _ => False

instance : DecidableRel Meets
  | .half h, .half l => inferInstanceAs (Decidable (isHigh h.unit = true ∧ isLow l.unit = true))
  | .char _, _ | .half _, .char _ => inferInstanceAs (Decidable False)

theorem single_unit (h : Half) : single h.unit = half h := dif_pos h.isHalf

/-- A half is read as it is unless it meets a half. -/
theorem ofUnits_half {h : Half} {l : Letter} (hl : ¬(half h).Meets l) (us : List UInt16) :
    ofUnits (h.unit :: (l.units ++ us)) = half h :: ofUnits (l.units ++ us) := by
  cases l with
  | half l =>
    have hjoin : ¬(isHigh h.unit && isLow l.unit) = true := by rwa [Bool.and_eq_true]
    simp only [units, List.singleton_append, ofUnits, if_neg hjoin, single_unit]
  | char c =>
    obtain ⟨u, rest, hunits, hlow⟩ : ∃ u rest, unitsOfChar c = u :: rest ∧ isLow u = false := by
      have v := c.valid
      have e : c.val.toNat = c.toNat := rfl
      simp only [UInt32.isValidChar, Nat.isValidChar, e] at v
      unfold unitsOfChar
      split
      · refine ⟨_, _, rfl, ?_⟩
        simp only [isLow, UInt16.toNat_ofNat', Bool.and_eq_false_iff, decide_eq_false_iff_not]
        omega
      · refine ⟨_, _, rfl, ?_⟩
        simp only [isLow, UInt16.toNat_ofNat', Bool.and_eq_false_iff, decide_eq_false_iff_not]
        omega
    simp only [units, hunits, List.cons_append, ofUnits, hlow, Bool.and_false, Bool.false_eq_true, if_false,
      single_unit]

theorem ofUnits_eq_iff (ls : List Letter) :
    ofUnits (ls.flatMap units) = ls ↔ ls.IsChain fun a b => ¬a.Meets b := by
  induction ls with
  | nil => simp [ofUnits]
  | cons l ls ih =>
    rw [List.flatMap_cons]
    cases l with
    | char c =>
      rw [units, ofUnits_unitsOfChar, List.cons.injEq, eq_self_iff_true, true_and, ih, List.isChain_cons]
      exact (and_iff_right fun _ _ => id).symm
    | half h =>
      cases ls with
      | nil => simp [units, ofUnits, single_unit]
      | cons l ls =>
        rw [List.isChain_cons_cons, List.flatMap_cons]
        by_cases hl : (half h).Meets l
        · cases l with
          | char c => exact hl.elim
          | half l =>
            have hjoin : (isHigh h.unit && isLow l.unit) = true := by rwa [Bool.and_eq_true]
            refine iff_of_false (fun heq => ?_) fun h => h.1 hl
            simp only [units, List.singleton_append, ofUnits, if_pos hjoin, joined, List.cons.injEq,
              reduceCtorEq, false_and] at heq
        · have hread := ofUnits_half hl (ls.flatMap units)
          rw [units, List.singleton_append, hread, List.cons.injEq, eq_self_iff_true, true_and,
            and_iff_right hl, ← List.flatMap_cons, ih]

theorem toNat_ofNat {n : Nat} (h : n.isValidChar) : (Char.ofNat n).toNat = n := by
  rw [Char.ofNat, dif_pos h]
  exact UInt32.toNat_ofNatLT

theorem units_single (u : UInt16) : (single u).units = [u] := by
  have hu := u.toNat_lt
  unfold single
  split
  · rfl
  · rename_i h
    have hcode : (Char.ofNat u.toNat).toNat = u.toNat := by
      refine toNat_ofNat ?_
      unfold Nat.isValidChar
      omega
    rw [units, unitsOfChar, hcode, if_pos (by omega), UInt16.ofNat_toNat]

theorem units_joined {u v : UInt16} (hu : isHigh u = true) (hv : isLow v = true) :
    (joined u v).units = [u, v] := by
  simp only [isHigh, isLow, Bool.and_eq_true, decide_eq_true_eq] at hu hv
  have hcode : (Char.ofNat (0x10000 + (u.toNat - 0xD800) * 0x400 + (v.toNat - 0xDC00))).toNat
      = 0x10000 + (u.toNat - 0xD800) * 0x400 + (v.toNat - 0xDC00) := by
    refine toNat_ofNat ?_
    unfold Nat.isValidChar
    omega
  rw [joined, units, unitsOfChar, hcode, if_neg (by omega)]
  have hhigh : 0xD800 + (0x10000 + (u.toNat - 0xD800) * 0x400 + (v.toNat - 0xDC00) - 0x10000) / 0x400
      = u.toNat := by omega
  have hlow : 0xDC00 + (0x10000 + (u.toNat - 0xD800) * 0x400 + (v.toNat - 0xDC00) - 0x10000) % 0x400
      = v.toNat := by omega
  simp only [hhigh, hlow, UInt16.ofNat_toNat]

/-- Letters made of units are carried by the same units. -/
theorem units_ofUnits (us : List UInt16) : (ofUnits us).flatMap units = us := by
  induction us using ofUnits.induct with
  | case1 => rfl
  | case2 u => rw [ofUnits, List.flatMap_singleton, units_single]
  | case3 u v us hjoin ih =>
    obtain ⟨hu, hv⟩ := Bool.and_eq_true _ _ ▸ hjoin
    rw [ofUnits, if_pos hjoin, List.flatMap_cons, units_joined hu hv, ih]
    rfl
  | case4 u v us hjoin ih =>
    rw [ofUnits, if_neg hjoin, List.flatMap_cons, units_single, ih]
    rfl

end Letter

namespace Text

/-- No two halves of a character stand beside each other. -/
def HalvesApart (t : Text) : Prop := t.letters.IsChain fun a b => ¬a.Meets b

instance (t : Text) : Decidable t.HalvesApart := by unfold HalvesApart; infer_instance

theorem joined_eq_iff {t : Text} : t.joined = t ↔ t.HalvesApart := by
  obtain ⟨ls⟩ := t
  rw [joined, mk.injEq]
  exact Letter.ofUnits_eq_iff ls

theorem halvesApart_of_chars? {t : Text} (h : t.chars?.isSome = true) : t.HalvesApart := by
  obtain ⟨cs, hcs⟩ := Option.isSome_iff_exists.1 h
  rw [← joined_eq_iff, chars?_eq_some.1 hcs, joined_ofChars]

theorem units_of_joined (t : Text) : t.joined.units = t.units := Letter.units_ofUnits t.units

/-! ## Hexadecimal digits -/

theorem hexDigit?_digitChar {n : Nat} (h : n < 16) : hexDigit? (Nat.digitChar n) = some n := by
  revert n
  decide

theorem toDigits_sixteen {n : Nat} (h : 16 ≤ n) :
    Nat.toDigits 16 n = Nat.toDigits 16 (n / 16) ++ [Nat.digitChar (n % 16)] :=
  Nat.toDigits_of_base_le (by decide) h

/-- The four hexadecimal digits of a unit. -/
theorem hex_four {n : Nat} (h : n < 65536) : hex 4 n = [Nat.digitChar (n / 16 / 16 / 16),
    Nat.digitChar (n / 16 / 16 % 16), Nat.digitChar (n / 16 % 16), Nat.digitChar (n % 16)] := by
  have hone {k : Nat} (hk : k < 16) : Nat.toDigits 16 k = [Nat.digitChar k] := Nat.toDigits_of_lt_base hk
  have hzero : '0' = Nat.digitChar 0 := rfl
  rw [hex, hzero]
  by_cases h1 : n < 16
  · simp [hone h1, Nat.mod_eq_of_lt h1, Nat.div_eq_of_lt h1, List.replicate]
  · rw [toDigits_sixteen (by omega)]
    by_cases h2 : n / 16 < 16
    · simp [hone h2, Nat.mod_eq_of_lt h2, Nat.div_eq_of_lt h2, List.replicate]
    · rw [toDigits_sixteen (by omega)]
      by_cases h3 : n / 16 / 16 < 16
      · simp [hone h3, Nat.mod_eq_of_lt h3, Nat.div_eq_of_lt h3]
      · rw [toDigits_sixteen (by omega), hone (by omega)]
        rfl

end Text

namespace Json

/-! ## Units -/

theorem unit?_hex (u : UInt16) (rest : List Letter) :
    unit? ((Text.hex 4 u.toNat).map .char ++ rest) = some (u, rest) := by
  have hu := u.toNat_lt
  have hvalue : ((u.toNat / 16 / 16 / 16 * 16 + u.toNat / 16 / 16 % 16) * 16 + u.toNat / 16 % 16) * 16
      + u.toNat % 16 = u.toNat := by omega
  rw [Text.hex_four (by omega)]
  simp only [List.map_cons, List.map_nil, List.cons_append, List.nil_append, unit?,
    Text.hexDigit?_digitChar (show u.toNat / 16 / 16 / 16 < 16 by omega),
    Text.hexDigit?_digitChar (Nat.mod_lt _ (by decide : 16 > 0)), Option.bind_eq_bind, Option.bind_some,
    hvalue, UInt16.ofNat_toNat]

/-- How a unit is written: a character as itself or by a short escape, any unit
by its code. -/
inductive Written (u : UInt16) : List Char → Prop where
  | plain {c : Char} (hletter : Letter.single u = .char c) (hlow : Letter.isLow u = false)
      (hhigh : Letter.isHigh u = false) (hquote : c ≠ '"') (hslash : c ≠ '\\') (hcode : 32 ≤ c.toNat) :
      Written u [c]
  | short {mark c : Char} (hletter : Letter.single u = .char c) (hlow : Letter.isLow u = false)
      (hhigh : Letter.isHigh u = false) (hmark : simpleEscape? (.char mark) = some c) :
      Written u ['\\', mark]
  | code : Written u (unit u.toNat)

theorem written_escapeAscii {u : UInt16} {c : Char} (hletter : Letter.single u = .char c)
    (hlow : Letter.isLow u = false) (hhigh : Letter.isHigh u = false) (hcode : c.toNat = u.toNat) :
    Written u (escapeAscii c) := by
  unfold escapeAscii
  split
  · rename_i h
    rw [Bool.or_eq_true, beq_iff_eq, beq_iff_eq] at h
    rcases h with rfl | rfl <;> exact .short hletter hlow hhigh rfl
  · rename_i hplain
    rw [Bool.or_eq_true, beq_iff_eq, beq_iff_eq, not_or] at hplain
    iterate 5
      split
      · rename_i h
        obtain rfl := beq_iff_eq.1 h
        exact .short hletter hlow hhigh rfl
    split
    · rename_i h
      exact .plain hletter hlow hhigh hplain.1 hplain.2 h.1
    · rw [hcode]
      exact .code

theorem written_escape (u : UInt16) : Written u (escape u) := by
  unfold escape
  split
  · rename_i hu
    have hlow : Letter.isLow u = false := by
      simp only [Letter.isLow, Bool.and_eq_false_iff, decide_eq_false_iff_not]
      omega
    have hhigh : Letter.isHigh u = false := by
      simp only [Letter.isHigh, Bool.and_eq_false_iff, decide_eq_false_iff_not]
      omega
    have hletter : Letter.single u = .char (Char.ofNat u.toNat) := by
      rw [Letter.single, dif_neg (by omega)]
    exact written_escapeAscii hletter hlow hhigh (Letter.toNat_ofNat (.inl (by omega)))
  · exact .code

/-! ## Texts -/

/-- Units as they stand in a string, up to the closing quote and what follows. -/
def tailOf (us : List UInt16) (rest : List Letter) : List Letter :=
  (us.flatMap escape).map .char ++ .char '"' :: rest

theorem tailOf_cons (u : UInt16) (us : List UInt16) (rest : List Letter) :
    tailOf (u :: us) rest = (escape u).map .char ++ tailOf us rest := by
  rw [tailOf, tailOf, List.flatMap_cons, List.map_append, List.append_assoc]

theorem tailOf_ne_nil (us : List UInt16) (rest : List Letter) : tailOf us rest ≠ [] := by
  simp [tailOf]

theorem code_unit (u : UInt16) {rest : List Letter} (hrest : rest ≠ []) :
    code (.char 'u' :: ((Text.hex 4 u.toNat).map .char ++ rest)) = .ok (u, rest) := by
  rw [code, List.drop_one, List.tail_cons, unit?_hex]
  obtain ⟨l, ls, rfl⟩ := List.exists_cons_of_ne_nil hrest
  rfl

theorem unit_eq (u : UInt16) (rest : List Letter) : (unit u.toNat).map Letter.char ++ rest
    = .char '\\' :: .char 'u' :: ((Text.hex 4 u.toNat).map .char ++ rest) := rfl

/-- Only a low half is read as one. -/
theorem lowEscape?_tailOf_cons (u : UInt16) (us : List UInt16) (rest : List Letter) :
    lowEscape? (tailOf (u :: us) rest) = if Letter.isLow u then some (u, tailOf us rest) else none := by
  rw [tailOf_cons]
  have hwritten := written_escape u
  generalize escape u = text at hwritten
  cases hwritten with
  | plain hletter hlow hhigh hquote hslash hcode =>
    rw [hlow, if_neg Bool.false_ne_true]
    unfold lowEscape?
    split
    · rename_i h
      exact absurd (Letter.char.inj (List.cons.inj h).1) hslash
    · rfl
  | @short mark c hletter hlow hhigh hmark =>
    rw [hlow, if_neg Bool.false_ne_true]
    have hu : mark ≠ 'u' := by
      rintro rfl
      exact absurd hmark (Option.some_ne_none c).symm
    unfold lowEscape?
    split
    · rename_i h
      exact absurd (Letter.char.inj (List.cons.inj (List.cons.inj h).2).1) hu
    · rfl
  | code =>
    rw [unit_eq, lowEscape?, code_unit u (tailOf_ne_nil us rest)]

theorem escaped_tailOf_nil (u : UInt16) (rest : List Letter) :
    escaped u (tailOf [] rest) = (.single u, tailOf [] rest) := rfl

theorem escaped_tailOf_cons (u v : UInt16) (us : List UInt16) (rest : List Letter) :
    escaped u (tailOf (v :: us) rest) =
      if Letter.isHigh u && Letter.isLow v then (.joined u v, tailOf us rest)
      else (.single u, tailOf (v :: us) rest) := by
  rw [escaped, lowEscape?_tailOf_cons]
  cases Letter.isLow v <;> cases Letter.isHigh u <;> rfl

section
variable {start : List Letter} {room : Nat} {rest : List Letter}

theorem stringTail_plain {c : Char} (hquote : c ≠ '"') (hslash : c ≠ '\\') (hcode : 32 ≤ c.toNat) :
    stringTail start (room + 1) (.char c :: rest)
      = (stringTail start room rest).map fun p => (.char c :: p.1, p.2) := by
  have hmark : (Letter.char c == .char '"') = false := by simpa using hquote
  have hescape : (Letter.char c == .char '\\') = false := by simpa using hslash
  have hcontrol : ¬((Letter.char c).code < 32) := Nat.not_lt.2 hcode
  rw [stringTail.eq_def]
  simp only [hmark, hescape, hcontrol, Bool.false_eq_true, if_false]

theorem stringTail_short {mark c : Char} (hmark : simpleEscape? (.char mark) = some c) :
    stringTail start (room + 1) (.char '\\' :: .char mark :: rest)
      = (stringTail start room rest).map fun p => (.char c :: p.1, p.2) := by
  have hquote : (Letter.char '\\' == .char '"') = false := rfl
  rw [stringTail.eq_def]
  simp only [hquote, Bool.false_eq_true, beq_self_eq_true, if_true, if_false]
  split
  · rename_i h
    exact absurd h (List.cons_ne_nil _ _)
  · rename_i h
    -- The mark of an escape by code is no short escape.
    rw [(List.cons.inj h).1] at hmark
    exact absurd hmark (Option.some_ne_none c).symm
  · rename_i h
    obtain ⟨rfl, rfl⟩ := List.cons.inj h
    rw [hmark]

theorem stringTail_code (u : UInt16) (hrest : rest ≠ []) :
    stringTail start (room + 1) ((unit u.toNat).map .char ++ rest)
      = (stringTail start room (escaped u rest).2).map fun p => ((escaped u rest).1 :: p.1, p.2) := by
  have hquote : (Letter.char '\\' == .char '"') = false := rfl
  rw [unit_eq, stringTail.eq_def]
  simp only [hquote, Bool.false_eq_true, beq_self_eq_true, if_true, if_false, code_unit u hrest]

variable {u : UInt16} {us : List UInt16}

/-- A unit that goes with no other gives its letter. -/
theorem stringTail_cons (h : escaped u (tailOf us rest) = (.single u, tailOf us rest))
    (hus : stringTail start room (tailOf us rest) = .ok (Letter.ofUnits us, rest)) :
    stringTail start (room + 1) (tailOf (u :: us) rest) = .ok (.single u :: Letter.ofUnits us, rest) := by
  rw [tailOf_cons]
  have hwritten := written_escape u
  generalize escape u = text at hwritten
  cases hwritten with
  | plain hletter hlow hhigh hquote hslash hcode =>
    rw [List.map_singleton, List.singleton_append, stringTail_plain hquote hslash hcode, hus, hletter]
    rfl
  | short hletter hlow hhigh hmark =>
    rw [List.map_cons, List.map_singleton, List.cons_append, List.singleton_append, stringTail_short hmark,
      hus, hletter]
    rfl
  | code =>
    rw [stringTail_code u (tailOf_ne_nil us rest), h, hus]
    rfl

/-- A high half and a low one give a character. -/
theorem stringTail_joined {v : UInt16} (hjoin : (Letter.isHigh u && Letter.isLow v) = true)
    (hus : stringTail start room (tailOf us rest) = .ok (Letter.ofUnits us, rest)) :
    stringTail start (room + 1) (tailOf (u :: v :: us) rest)
      = .ok (.joined u v :: Letter.ofUnits us, rest) := by
  have hescaped := escaped_tailOf_cons u v us rest
  rw [hjoin, if_pos rfl] at hescaped
  rw [tailOf_cons]
  have hwritten := written_escape u
  generalize escape u = text at hwritten
  have hhalf := (Bool.and_eq_true _ _ ▸ hjoin).1
  cases hwritten with
  | plain hletter hlow hhigh => exact absurd hhalf (by rw [hhigh]; exact Bool.false_ne_true)
  | short hletter hlow hhigh => exact absurd hhalf (by rw [hhigh]; exact Bool.false_ne_true)
  | code =>
    rw [stringTail_code u (tailOf_ne_nil _ rest), hescaped, hus]
    rfl

/-- **Units are read as they were written.** -/
theorem stringTail_tailOf (start : List Letter) (us : List UInt16) (rest : List Letter) (room : Nat)
    (hroom : us.length < room) : stringTail start room (tailOf us rest) = .ok (Letter.ofUnits us, rest) := by
  obtain ⟨room, rfl⟩ := Nat.exists_eq_succ_of_ne_zero (Nat.ne_of_gt (Nat.zero_lt_of_lt hroom))
  induction us using Letter.ofUnits.induct generalizing room with
  | case1 => rfl
  | case2 u =>
    obtain ⟨room, rfl⟩ := Nat.exists_eq_succ_of_ne_zero (show room ≠ 0 by simp at hroom; omega)
    exact stringTail_cons (escaped_tailOf_nil u rest) rfl
  | case3 u v us hjoin ih =>
    rw [List.length_cons, List.length_cons] at hroom
    obtain ⟨room, rfl⟩ := Nat.exists_eq_succ_of_ne_zero (show room ≠ 0 by omega)
    rw [Letter.ofUnits, if_pos hjoin]
    exact stringTail_joined hjoin (ih room (by omega))
  | case4 u v us hjoin ih =>
    rw [List.length_cons] at hroom
    obtain ⟨room, rfl⟩ := Nat.exists_eq_succ_of_ne_zero (show room ≠ 0 by omega)
    rw [Letter.ofUnits, if_neg hjoin]
    refine stringTail_cons ?_ (ih room (by omega))
    rw [escaped_tailOf_cons, if_neg hjoin]

theorem length_le_tailOf (us : List UInt16) (rest : List Letter) : us.length ≤ (tailOf us rest).length := by
  induction us with
  | nil => exact Nat.zero_le _
  | cons u us ih =>
    have hpos : 0 < (escape u).length := by
      have hwritten := written_escape u
      generalize escape u = text at hwritten
      cases hwritten <;> simp [unit]
    rw [tailOf_cons, List.length_append, List.length_map, List.length_cons]
    omega

end

theorem string_eq (t : Text) (rest : List Letter) :
    (string t).map Letter.char ++ rest = .char '"' :: tailOf t.units rest := by
  have hunits : t.letters.flatMap (fun l => l.units.flatMap escape) = t.units.flatMap escape :=
    List.flatMap_assoc.symm
  rw [string, hunits, tailOf]
  simp

/-- A text is written as the one it is read as. -/
theorem string_joined (t : Text) : string t.joined = string t := by
  have hunits (t : Text) : string t = '"' :: t.units.flatMap escape ++ ['"'] := by
    rw [string, Text.units, List.flatMap_assoc]
  rw [hunits, hunits, Text.units_of_joined]

/-- **A text is read as it was written**, but for halves that meet. -/
theorem stringTail_units (start : List Letter) (t : Text) (rest : List Letter) :
    stringTail start ((tailOf t.units rest).length + 1) (tailOf t.units rest)
      = .ok (t.joined.letters, rest) :=
  stringTail_tailOf start t.units rest _ (Nat.lt_succ_of_le (length_le_tailOf _ _))

end Json
end PlotDigitizer
