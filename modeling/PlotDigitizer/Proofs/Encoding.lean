/-
Texts that are read from the bytes they were written in.

UTF-8 writes each character by itself, so its bytes are read one by one: the
first tells how many follow, and what is pending holds what they write so far
(`Encoding.octets?_char`). No byte of a text in UTF-8 marks an order of bytes,
so a text is read as it was sent, unless its first letter is the mark itself or
one of its letters is zero (`Encoding.decode?_utf8`).
-/
import Mathlib.Data.List.Basic
import PlotDigitizer.Text.Encoding

namespace PlotDigitizer

/-! ## Texts as bytes -/

namespace Unwritten

/-- All letters of a text can be written exactly if none are told. -/
theorem first?_eq_none_iff {charset : Charset} {position : Nat} {ls : List Letter} :
    first? charset position ls = none ↔ ls.all charset.writes = true := by
  induction ls generalizing position with
  | nil => exact ⟨fun _ => rfl, fun _ => rfl⟩
  | cons l rest ih =>
    rw [first?, List.all_cons]
    cases h : charset.writes l
    · simp
    · simpa using ih

end Unwritten

theorem Text.utf8_ofChars (cs : List Char) : (ofChars cs).utf8 = .ok (cs.flatMap String.utf8EncodeChar) := by
  have hwritten : Unwritten.first? .utf8 0 (cs.map .char) = none := by
    rw [Unwritten.first?_eq_none_iff, List.all_map]
    exact List.all_eq_true.2 fun c _ => rfl
  have hchars : (cs.map Letter.char).filterMap Letter.char? = cs := by
    rw [List.filterMap_map]
    exact List.filterMap_some
  rw [utf8, letters_ofChars, hwritten, hchars]
  exact congrArg Except.ok List.toList_data_toByteArray

/-! ## Bytes as letters -/

namespace Encoding

variable {n code least : Nat} {c : Char}

theorem toNat_ofNat (h : n < 0x100) : (UInt8.ofNat n).toNat = n := by
  rw [UInt8.toNat_ofNat']
  exact Nat.mod_eq_of_lt h

theorem octets?_of_more? {p q : Pending} {b : UInt8} (h : p.more? b = some q) (hq : q.left ≠ 0)
    (bs : List UInt8) : octets? p (b :: bs) = octets? q bs := by
  simp only [octets?, h, Option.bind_eq_bind, Option.bind_some, if_neg hq]

/-- A code point that is complete is read, if it is not written in too many
bytes. -/
theorem octets?_of_complete {p : Pending} {b : UInt8} (h : p.more? b = some ⟨0, c.toNat, least⟩)
    (hleast : least ≤ c.toNat) (bs : List UInt8) :
    octets? p (b :: bs) = (octets? {} bs).map (.char c :: ·) := by
  have hletter : Letter.ofCode? c.toNat = some (.char c) := by
    have hvalid : c.toNat.isValidChar := c.valid
    rw [Letter.ofCode?, dif_pos hvalid]
    rfl
  simp only [octets?, h, Option.bind_eq_bind, Option.bind_some, if_true, if_neg (Nat.not_lt.2 hleast),
    hletter]

/-! ### The first byte of a code point, by how many follow -/

theorem octets?_none (h : c.toNat < 0x80) (bs : List UInt8) :
    octets? {} (UInt8.ofNat c.toNat :: bs) = (octets? {} bs).map (.char c :: ·) := by
  refine octets?_of_complete ?_ (Nat.zero_le c.toNat) bs
  rw [Pending.more?, if_pos rfl, Pending.begun?, toNat_ofNat (by omega), if_pos h]

theorem octets?_one (h : n < 0x20) (bs : List UInt8) :
    octets? {} (UInt8.ofNat (n + 0xC0) :: bs) = octets? ⟨1, n, 0x80⟩ bs := by
  refine octets?_of_more? ?_ Nat.one_ne_zero bs
  rw [Pending.more?, if_pos rfl, Pending.begun?, toNat_ofNat (by omega), if_neg (by omega), if_neg (by omega),
    if_pos (by omega), Nat.add_sub_cancel]

theorem octets?_two (h : n < 0x10) (bs : List UInt8) :
    octets? {} (UInt8.ofNat (n + 0xE0) :: bs) = octets? ⟨2, n, 0x800⟩ bs := by
  refine octets?_of_more? ?_ (Nat.succ_ne_zero 1) bs
  rw [Pending.more?, if_pos rfl, Pending.begun?, toNat_ofNat (by omega), if_neg (by omega), if_neg (by omega),
    if_neg (by omega), if_pos (by omega), Nat.add_sub_cancel]

theorem octets?_three (h : n < 0x8) (bs : List UInt8) :
    octets? {} (UInt8.ofNat (n + 0xF0) :: bs) = octets? ⟨3, n, 0x10000⟩ bs := by
  refine octets?_of_more? ?_ (Nat.succ_ne_zero 2) bs
  rw [Pending.more?, if_pos rfl, Pending.begun?, toNat_ofNat (by omega), if_neg (by omega), if_neg (by omega),
    if_neg (by omega), if_neg (by omega), if_pos (by omega), Nat.add_sub_cancel]

/-! ### A byte that follows -/

theorem more?_tail (left : Nat) (h : n < 0x40) :
    Pending.more? ⟨left + 1, code, least⟩ (UInt8.ofNat (n + 0x80)) = some ⟨left, code * 64 + n, least⟩ := by
  rw [Pending.more?, if_neg (Nat.succ_ne_zero left), toNat_ofNat (by omega), if_pos (by omega)]
  simp only [Nat.add_sub_cancel]

theorem octets?_tail (left : Nat) (h : n < 0x40) (bs : List UInt8) :
    octets? ⟨left + 2, code, least⟩ (UInt8.ofNat (n + 0x80) :: bs)
      = octets? ⟨left + 1, code * 64 + n, least⟩ bs :=
  octets?_of_more? (more?_tail (left + 1) h) (Nat.succ_ne_zero left) bs

theorem octets?_last (h : n < 0x40) (hcode : code * 64 + n = c.toNat) (hleast : least ≤ c.toNat)
    (bs : List UInt8) :
    octets? ⟨1, code, least⟩ (UInt8.ofNat (n + 0x80) :: bs) = (octets? {} bs).map (.char c :: ·) := by
  refine octets?_of_complete ?_ hleast bs
  rw [more?_tail 0 h, hcode]

/-! ### Characters -/

/-- A character is read from the bytes that it is written in. -/
theorem octets?_char (c : Char) (bs : List UInt8) :
    octets? {} (String.utf8EncodeChar c ++ bs) = (octets? {} bs).map (.char c :: ·) := by
  have hc : c.toNat < 0x110000 := by
    have hvalid : c.toNat.isValidChar := c.valid
    unfold Nat.isValidChar at hvalid
    omega
  have hval : c.val.toNat = c.toNat := rfl
  have hbyte (k : Nat) : k % 64 < 0x40 := Nat.mod_lt _ (by decide)
  simp only [String.utf8EncodeChar, hval]
  split
  · rename_i h
    exact octets?_none (Nat.lt_succ_of_le h) bs
  · split
    · have hfirst : c.toNat / 64 % 32 < 0x20 := Nat.mod_lt _ (by decide)
      simp only [List.cons_append, List.nil_append, octets?_one hfirst]
      exact octets?_last (hbyte _) (by omega) (by omega) bs
    · split
      · have hfirst : c.toNat / 4096 % 16 < 0x10 := Nat.mod_lt _ (by decide)
        simp only [List.cons_append, List.nil_append, octets?_two hfirst, octets?_tail 0 (hbyte _)]
        exact octets?_last (hbyte _) (by omega) (by omega) bs
      · have hfirst : c.toNat / 262144 % 8 < 0x8 := Nat.mod_lt _ (by decide)
        simp only [List.cons_append, List.nil_append, octets?_three hfirst, octets?_tail 1 (hbyte _),
          octets?_tail 0 (hbyte _)]
        exact octets?_last (hbyte _) (by omega) (by omega) bs

theorem octets?_utf8 (cs : List Char) : octets? {} (cs.flatMap String.utf8EncodeChar) = some (cs.map .char) := by
  induction cs with
  | nil => rfl
  | cons c cs ih => rw [List.flatMap_cons, octets?_char, ih, Option.map_some, List.map_cons]

/-- No byte of a character marks an order of bytes, and only zero is written
by a zero byte. -/
theorem bounds_of_mem_utf8EncodeChar {b : UInt8} (h : b ∈ String.utf8EncodeChar c) (hc : c.toNat ≠ 0) :
    0 < b.toNat ∧ b.toNat < 0xF8 := by
  have hval : c.val.toNat = c.toNat := rfl
  simp only [String.utf8EncodeChar, hval] at h
  split at h
  · rw [List.mem_singleton] at h
    rw [h, toNat_ofNat (by omega)]
    omega
  · split at h
    · simp only [List.mem_cons, List.not_mem_nil, or_false] at h
      rcases h with rfl | rfl <;> rw [toNat_ofNat (by omega)] <;> omega
    · split at h
      · simp only [List.mem_cons, List.not_mem_nil, or_false] at h
        rcases h with rfl | rfl | rfl <;> rw [toNat_ofNat (by omega)] <;> omega
      · simp only [List.mem_cons, List.not_mem_nil, or_false] at h
        rcases h with rfl | rfl | rfl | rfl <;> rw [toNat_ofNat (by omega)] <;> omega

/-- Bytes that are neither zero nor mark an order are read as UTF-8. -/
theorem detect_eq_utf8 {bytes : List UInt8} (h : ∀ b ∈ bytes, 0 < b.toNat ∧ b.toNat < 0xF8) :
    detect bytes = .utf8 := by
  have hzero {b : UInt8} (hb : b ∈ bytes) : b ≠ 0 := by
    rintro rfl
    exact absurd (h 0 hb).1 (by decide)
  have hmark {m : UInt8} (hm : 0xF8 ≤ m.toNat) (ms : List UInt8) : (m :: ms).isPrefixOf bytes = false := by
    cases bytes with
    | nil => rfl
    | cons b bytes =>
      have hne : ¬m = b := by
        rintro rfl
        exact absurd (h m List.mem_cons_self).2 (Nat.not_lt.2 hm)
      rw [List.isPrefixOf_cons_cons, beq_eq_false_iff_ne.2 hne, Bool.false_and]
  simp only [detect, hmark (show 0xF8 ≤ (0xFF : UInt8).toNat by decide),
    hmark (show 0xF8 ≤ (0xFE : UInt8).toNat by decide), Bool.false_eq_true, if_false]
  split
  · rename_i a b c d rest
    rw [if_neg (hzero (by simp)), if_neg (hzero (by simp))]
  · rename_i a b
    rw [if_neg (hzero (by simp)), if_neg (hzero (by simp))]
  · rfl

/-- **A text that is sent is read as it is.** -/
theorem decode?_utf8 {cs : List Char} (hzero : ∀ c ∈ cs, c.toNat ≠ 0) (hmark : cs.head? ≠ some '\uFEFF') :
    decode? (cs.flatMap String.utf8EncodeChar) (detect (cs.flatMap String.utf8EncodeChar))
      = some (cs.map .char) := by
  have hdetect : detect (cs.flatMap String.utf8EncodeChar) = .utf8 := by
    refine detect_eq_utf8 fun b hb => ?_
    obtain ⟨c, hc, hb⟩ := List.mem_flatMap.1 hb
    exact bounds_of_mem_utf8EncodeChar hb (hzero c hc)
  rw [hdetect, decode?, octets?_utf8]
  cases cs with
  | nil => rfl
  | cons c cs =>
    have hne : c ≠ '\uFEFF' := fun h => hmark (by rw [h, List.head?_cons])
    simp only [List.map_cons, Option.bind_eq_bind, Option.bind_some]
    split
    · rename_i heq
      cases heq
      exact (hne rfl).elim
    · rfl

end Encoding
end PlotDigitizer
