/-
Host names that are written in ASCII and read again.

A label beyond ASCII is written only if nothing is wrong with it, so all its
code points are of the alphabet, in which there is no full stop and no capital
letter of ASCII (`IsLabelCode`). So the reader finds the same label behind the
tag (`readLabel_writeLabel?`), and the same labels between the dots
(`read_write?`).
-/
import PlotDigitizer.Proofs.Service.HostName.Punycode
import PlotDigitizer.Proofs.Success
import PlotDigitizer.Service.HostName

namespace PlotDigitizer.Service
namespace HostName

/-! ## Labels -/

/-- What is true of all code points of the alphabet: none is a full stop or a
capital letter of ASCII. -/
structure IsLabelCode (n : Nat) : Prop where
  le : n ≤ 0x10FFFF
  ne_dot : n ≠ 0x2E
  not_capital : ¬(0x41 ≤ n ∧ n ≤ 0x5A)

/-- Whether a range holds only such code points. -/
def isLabelRange (first last : Nat) : Bool :=
  last ≤ 0x10FFFF && (last < 0x2E || (0x2E < first && (last < 0x41 || 0x5A < first)))

theorem isLabelCode_of_isLabelRange {first last n : Nat} (h : isLabelRange first last = true)
    (hfirst : first ≤ n) (hlast : n ≤ last) : IsLabelCode n := by
  simp only [isLabelRange, Bool.and_eq_true, Bool.or_eq_true, decide_eq_true_eq] at h
  exact ⟨by omega, by omega, by omega⟩

theorem isLabelCode_of_isWithin {ranges : List (Nat × Nat)}
    (hranges : ranges.all (fun r => isLabelRange r.1 r.2) = true) {n : Nat} (h : isWithin ranges n = true) :
    IsLabelCode n := by
  obtain ⟨r, hr, hn⟩ := List.any_eq_true.1 h
  obtain ⟨hfirst, hlast⟩ := by simpa using hn
  exact isLabelCode_of_isLabelRange (List.all_eq_true.1 hranges r hr) hfirst hlast

theorem isLabelCode_of_isAllowed {n : Nat} (h : isAllowed n = true) : IsLabelCode n := by
  simp only [isAllowed, Bool.or_eq_true] at h
  rcases h with h | h
  · unfold direction? at h
    split at h
    · rename_i hwithin
      exact isLabelCode_of_isWithin (by decide +kernel) hwithin
    · split at h
      · rename_i hwithin
        exact isLabelCode_of_isWithin (by decide +kernel) hwithin
      · rw [Option.isSome_map] at h
        obtain ⟨r, hr⟩ := Option.isSome_iff_exists.1 h
        have hranges : otherRanges.all (fun r => isLabelRange r.1 r.2.1) = true := by decide +kernel
        obtain ⟨hfirst, hlast⟩ := by simpa using List.find?_some hr
        have hrange := List.all_eq_true.1 hranges r (List.mem_of_find?_eq_some hr)
        exact isLabelCode_of_isLabelRange hrange hfirst hlast
  · exact isLabelCode_of_isWithin (by decide +kernel) h

theorem isLabelCode_of_isAllowedBeside? {n : Nat} {before after : List Nat} {b : Bool}
    (h : isAllowedBeside? n before after = some b) : IsLabelCode n := by
  unfold isAllowedBeside? at h
  constructor <;> grind

/-- A label with nothing wrong in it holds only code points of the alphabet. -/
theorem isLabelCode_of_codeFault? {label before ns : List Nat} (h : codeFault? label before ns = none) :
    ∀ n ∈ ns, IsLabelCode n := by
  induction ns generalizing before with
  | nil => exact fun _ hn => nomatch hn
  | cons n ns ih =>
    have hboth : IsLabelCode n ∧ codeFault? label (n :: before) ns = none := by
      rw [codeFault?] at h
      split at h
      · rename_i hjoiner
        split at h
        · refine ⟨?_, h⟩
          rcases hjoiner with rfl | rfl <;> constructor <;> omega
        · cases h
      · split at h
        · exact ⟨isLabelCode_of_isAllowedBeside? ‹_›, h⟩
        · cases h
        · split at h
          · exact ⟨isLabelCode_of_isAllowed ‹_›, h⟩
          · cases h
    exact List.forall_mem_cons.2 ⟨hboth.1, ih hboth.2⟩

theorem checkLabel_eq_ok {label label' : List Nat} :
    checkLabel label = .ok label' ↔ labelFault? label = none ∧ label' = label := by
  unfold checkLabel
  cases labelFault? label <;> simp [eq_comm]

theorem isLabelCode_of_labelFault? {label : List Nat} (h : labelFault? label = none) :
    ∀ n ∈ label, IsLabelCode n := by
  unfold labelFault? at h
  split_ifs at h
  exact isLabelCode_of_codeFault? (Option.or_eq_none_iff.1 h).1

theorem toLower_ofNat {n : Nat} (h : n < 128) (hcapital : ¬(0x41 ≤ n ∧ n ≤ 0x5A)) :
    ((Char.ofNat n).toLower == Char.ofNat n) = true := by
  have hne : ¬((Char.ofNat n).val ≥ 'A'.val ∧ (Char.ofNat n).val ≤ 'Z'.val) := by
    show ¬(0x41 ≤ (Char.ofNat n).toNat ∧ (Char.ofNat n).toNat ≤ 0x5A)
    rwa [toNat_ofNat h]
  exact beq_iff_eq.2 (dif_neg hne)

/-- What is written for a label beyond ASCII. -/
theorem writeLabel?_beyond {label : List Nat} {cs : List Char} (hbeyond : ∃ n ∈ label, 128 ≤ n)
    (h : writeLabel? label = some cs) :
    labelFault? label = none ∧ cs = tag ++ Punycode.encode label ∧ cs.length ≤ 63 := by
  have hnotAll : label.all (· < 128) = false := by
    obtain ⟨n, hn, hlarge⟩ := hbeyond
    rw [List.all_eq_false]
    exact ⟨n, hn, by simpa using hlarge⟩
  simp only [writeLabel?, hnotAll, Bool.false_eq_true, if_false, Option.filter_eq_some_iff,
    Option.map_eq_some_iff] at h
  obtain ⟨⟨checked, hchecked, rfl⟩, hlength⟩ := h
  obtain ⟨hfault, rfl⟩ := checkLabel_eq_ok.1 (toOption_eq_some.1 hchecked)
  exact ⟨hfault, rfl, of_decide_eq_true hlength⟩

/-- **A label beyond ASCII is read from what is written for it.** -/
theorem readLabel_writeLabel? {label : List Nat} {cs : List Char} (hbeyond : ∃ n ∈ label, 128 ≤ n)
    (h : writeLabel? label = some cs) : readLabel cs = .ok label := by
  obtain ⟨hfault, rfl, -⟩ := writeLabel?_beyond hbeyond h
  have hlabel := isLabelCode_of_labelFault? hfault
  have hcodes : ∀ n ∈ label, n ≤ 0x10FFFF := fun n hn => (hlabel n hn).le
  obtain ⟨hne, hlast⟩ := Punycode.getLast?_encode hcodes hbeyond
  have hlower : (tag ++ Punycode.encode label).map Char.toLower = tag ++ Punycode.encode label := by
    have htag : tag.map Char.toLower = tag := by decide
    have hencode : ∀ c ∈ Punycode.encode label, (c.toLower == c) = true :=
      Punycode.all_encode (by decide) (by decide)
        (fun n hn hlow => toLower_ofNat hlow (hlabel n hn).not_capital) hcodes
    rw [List.map_append, htag,
      (List.map_congr_left fun c hc => eq_of_beq (hencode c hc)).trans (List.map_id _)]
  have hprefix : tag.isPrefixOf (tag ++ Punycode.encode label) = true := by simp
  have hcheck : checkLabel label = .ok label := checkLabel_eq_ok.2 ⟨hfault, rfl⟩
  simp only [readLabel, hlower, hprefix, List.drop_left, List.isEmpty_iff, hne, hlast, if_true, if_false,
    Punycode.decode?_encode hcodes, hcheck]

/-! ## Names -/

/-- What is written for a label between dots. -/
structure Writes (label : List Nat) (cs : List Char) : Prop where
  read : ∃ read, readLabel cs = .ok read ∧ ((∃ n ∈ label, 128 ≤ n) → read = label)
  ne_nil : cs ≠ []
  short : cs.length ≤ 63
  ascii : ∀ c ∈ cs, c.toNat < 128
  dotless : ∀ c ∈ cs, isDot c.toNat = false

theorem writes_of_ascii {label : List Nat} {cs : List Char} (hdotless : ∀ n ∈ label, isDot n = false)
    (hlow : ∀ n ∈ label, n < 128) (h : writeLabel? label = some cs) : Writes label cs := by
  have hall : label.all (· < 128) = true := List.all_eq_true.2 fun n hn => decide_eq_true (hlow n hn)
  simp only [writeLabel?, hall, if_true, Option.filter_eq_some_iff, Option.map_eq_some_iff] at h
  obtain ⟨⟨read, hread, rfl⟩, hlength⟩ := h
  have hread := toOption_eq_some.1 hread
  refine ⟨⟨read, hread, ?_⟩, ?_, of_decide_eq_true hlength, ?_, ?_⟩
  · rintro ⟨n, hn, hlarge⟩
    exact (Nat.not_le.2 (hlow n hn) hlarge).elim
  · intro hnil
    rw [hnil] at hread
    cases hread
  · rw [List.forall_mem_map]
    exact fun n hn => (toNat_ofNat (hlow n hn)).symm ▸ hlow n hn
  · rw [List.forall_mem_map]
    exact fun n hn => (toNat_ofNat (hlow n hn)).symm ▸ hdotless n hn

theorem writes_of_beyond {label : List Nat} {cs : List Char} (hbeyond : ∃ n ∈ label, 128 ≤ n)
    (h : writeLabel? label = some cs) : Writes label cs := by
  have hread := readLabel_writeLabel? hbeyond h
  obtain ⟨hfault, rfl, hlength⟩ := writeLabel?_beyond hbeyond h
  have hlabel := isLabelCode_of_labelFault? hfault
  have hchars : ∀ c ∈ Punycode.encode label, (decide (c.toNat < 128) && !isDot c.toNat) = true := by
    refine Punycode.all_encode (by decide) (by decide) (fun n hn hlow => ?_) fun n hn => (hlabel n hn).le
    have hdot : isDot n = false := by
      have hne := (hlabel n hn).ne_dot
      simp [isDot]
      omega
    rw [toNat_ofNat hlow, hdot, decide_eq_true hlow]
    rfl
  have htag : tag.all (fun c => decide (c.toNat < 128) && !isDot c.toNat) = true := by decide
  have hall : ∀ c ∈ tag ++ Punycode.encode label, (decide (c.toNat < 128) && !isDot c.toNat) = true :=
    List.forall_mem_append.2 ⟨List.all_eq_true.1 htag, hchars⟩
  refine ⟨⟨label, hread, fun _ => rfl⟩, List.cons_ne_nil _ _, hlength, fun c hc => ?_, fun c hc => ?_⟩
  · exact of_decide_eq_true (Bool.and_eq_true_iff.1 (hall c hc)).1
  · simpa using (Bool.and_eq_true_iff.1 (hall c hc)).2

theorem writes_of_writeLabel? {label : List Nat} {cs : List Char} (hdotless : ∀ n ∈ label, isDot n = false)
    (h : writeLabel? label = some cs) : Writes label cs := by
  by_cases hlow : ∀ n ∈ label, n < 128
  · exact writes_of_ascii hdotless hlow h
  · exact writes_of_beyond (by simpa using hlow) h

theorem splitOnP_written {ws : List (List Char)} (hne : ws ≠ [])
    (h : ∀ w ∈ ws, ∀ c ∈ w, isDot c.toNat = false) :
    ((['.'].intercalate ws).map Char.toNat).splitOnP isDot = ws.map (·.map Char.toNat) := by
  have hsplit {w : List Char} (hw : ∀ c ∈ w, isDot c.toNat = false) :
      ∀ n ∈ w.map Char.toNat, isDot n = false := List.forall_mem_map.2 hw
  induction ws with
  | nil => exact (hne rfl).elim
  | cons w ws ih =>
    obtain ⟨hw, hws⟩ := List.forall_mem_cons.1 h
    cases ws with
    | nil =>
      rw [List.intercalate_singleton, List.splitOnP_eq_singleton (hsplit hw)]
      rfl
    | cons w' ws =>
      rw [List.intercalate_cons_cons, List.append_assoc, List.map_append, List.map_append]
      exact (List.splitOnP_append_cons_of_forall_mem (hsplit hw) _ rfl _).trans
        (congrArg _ (ih (List.cons_ne_nil _ _) hws))

theorem forall_mem_splitOnP {p : Nat → Bool} {ns : List Nat} :
    ∀ part ∈ ns.splitOnP p, ∀ n ∈ part, p n = false := by
  induction ns with
  | nil => simp
  | cons n ns ih =>
    rw [List.splitOnP_cons_eq_if_modifyHead]
    split
    · exact List.forall_mem_cons.2 ⟨by simp, ih⟩
    · rename_i hn
      cases hparts : ns.splitOnP p with
      | nil => simp
      | cons part parts =>
        rw [hparts] at ih
        obtain ⟨hpart, hrest⟩ := List.forall_mem_cons.1 ih
        rw [List.modifyHead_cons]
        exact List.forall_mem_cons.2 ⟨List.forall_mem_cons.2 ⟨by simpa using hn, hpart⟩, hrest⟩

/-- The text of written labels, which ends with a dot perhaps. -/
def dotted (ws : List (List Char)) (hasLastDot : Bool) : List Char :=
  ['.'].intercalate (if hasLastDot then ws ++ [[]] else ws)

/-- Written labels between dots are told apart again. -/
theorem labels_dotted {ws : List (List Char)} {hasLastDot : Bool} (hne : hasLastDot = false → ws ≠ [])
    (h : ∀ w ∈ ws, w ≠ [] ∧ ∀ c ∈ w, isDot c.toNat = false) :
    labels ((dotted ws hasLastDot).map Char.toNat) = (ws.map (·.map Char.toNat), hasLastDot) := by
  unfold labels dotted
  cases hasLastDot with
  | true =>
    have hall : ∀ w ∈ ws ++ [[]], ∀ c ∈ w, isDot c.toNat = false :=
      List.forall_mem_append.2 ⟨fun w hw => (h w hw).2, by simp⟩
    have hsplit := splitOnP_written (by simp) hall
    rw [List.map_append] at hsplit
    simp [hsplit]
  | false =>
    have hsplit := splitOnP_written (hne rfl) fun w hw => (h w hw).2
    have hlast : (ws.map (·.map Char.toNat)).getLast? ≠ some [] := by
      intro hlast
      obtain ⟨w, hw, hnil⟩ := List.mem_map.1 (List.mem_of_getLast? hlast)
      exact (h w hw).1 (List.map_eq_nil_iff.1 hnil)
    simp only [Bool.false_eq_true, if_false, hsplit, hlast]

theorem dotted_ascii {ws : List (List Char)} {hasLastDot : Bool} (h : ∀ w ∈ ws, ∀ c ∈ w, c.toNat < 128) :
    ∀ c ∈ dotted ws hasLastDot, c.toNat < 128 := by
  have hparts {ws : List (List Char)} (h : ∀ w ∈ ws, ∀ c ∈ w, c.toNat < 128) :
      ∀ c ∈ ['.'].intercalate ws, c.toNat < 128 := by
    induction ws with
    | nil => simp
    | cons w ws ih =>
      obtain ⟨hw, hws⟩ := List.forall_mem_cons.1 h
      cases ws with
      | nil => rwa [List.intercalate_singleton]
      | cons w' ws =>
        rw [List.intercalate_cons_cons]
        exact List.forall_mem_append.2 ⟨List.forall_mem_append.2 ⟨hw, by simp⟩, ih hws⟩
  unfold dotted
  split
  · exact hparts (List.forall_mem_append.2 ⟨h, by simp⟩)
  · exact hparts h

theorem write?_eq_some {name : List Nat} {cs : List Char} (h : write? name = some cs) :
    ∃ ws, List.Forall₂ (fun label w => writeLabel? label = some w)
      (labels (name.flatMap Text.lowerCodes)).1 ws ∧ cs = dotted ws (labels (name.flatMap Text.lowerCodes)).2 ∧ cs.length ≤ maxLength := by
  simp only [write?, Option.bind_eq_bind, Option.bind_eq_some_iff, Option.pure_def, Option.some.injEq] at h
  obtain ⟨_, _, ws, hws, _, hlength, rfl⟩ := h
  have hlt := (Option.guard_eq_some' _).1 hlength
  have hlimit (b : Bool) : (if b then maxLength + 1 else maxLength) ≤ maxLength + 1 := by
    cases b <;> decide
  exact ⟨ws, mapM_eq_some.1 hws, rfl, Nat.le_of_lt_succ (Nat.lt_of_lt_of_le hlt (hlimit _))⟩

theorem labels_dotless (ns : List Nat) : ∀ label ∈ (labels ns).1, ∀ n ∈ label, isDot n = false := by
  unfold labels
  dsimp only
  split
  · exact fun label hlabel => forall_mem_splitOnP label (List.dropLast_subset _ hlabel)
  · exact forall_mem_splitOnP

theorem labels_ne_nil {ns : List Nat} (h : (labels ns).2 = false) : (labels ns).1 ≠ [] := by
  unfold labels at h ⊢
  dsimp only at h ⊢
  split at h
  · cases h
  · rename_i hlast
    rw [if_neg hlast]
    exact List.splitOnP_ne_nil isDot ns

/-- What is written label by label is read label by label. -/
theorem exists_reads {ls : List (List Nat)} {ws : List (List Char)} (h : List.Forall₂ Writes ls ws) :
    (∀ w ∈ ws, ∃ label, Writes label w) ∧
      ∃ reads, List.Forall₂ (fun w read => readLabel w = .ok read) ws reads ∧
        List.Forall₂ (fun label read => (∃ n ∈ label, 128 ≤ n) → read = label) ls reads := by
  induction h with
  | nil => exact ⟨by simp, [], .nil, .nil⟩
  | cons hw _ ih =>
    obtain ⟨read, hread, hsame⟩ := hw.read
    obtain ⟨hall, reads, hreads, hsames⟩ := ih
    exact ⟨List.forall_mem_cons.2 ⟨⟨_, hw⟩, hall⟩, read :: reads, .cons hread hreads, .cons hsame hsames⟩

/-- **A name is read from what is written for it.** That is ASCII, at most 63
characters for each label and at most 254 in all, and is read label by label;
a label beyond ASCII is read as it was. -/
theorem read_write? {name : List Nat} {cs : List Char} (h : write? name = some cs) :
    cs.length ≤ maxLength ∧ (∀ c ∈ cs, c.toNat < 128) ∧
      ∃ ws reads, cs = dotted ws (labels (name.flatMap Text.lowerCodes)).2 ∧
        (∀ w ∈ ws, w ≠ [] ∧ w.length ≤ 63) ∧ read cs = .ok reads ∧
        List.Forall₂ (fun label read => (∃ n ∈ label, 128 ≤ n) → read = label)
          (labels (name.flatMap Text.lowerCodes)).1 reads := by
  obtain ⟨ws, hws, rfl, hlength⟩ := write?_eq_some h
  have hwrites : List.Forall₂ Writes (labels (name.flatMap Text.lowerCodes)).1 ws :=
    ((List.forall₂_and_left _ _).2 ⟨labels_dotless _, hws⟩).imp fun _ _ h => writes_of_writeLabel? h.1 h.2
  obtain ⟨hall, reads, hreads, hsame⟩ := exists_reads hwrites
  have hne : (labels (name.flatMap Text.lowerCodes)).2 = false → ws ≠ [] := by
    rintro hdot rfl
    exact labels_ne_nil hdot (List.forall₂_nil_right_iff.1 hws)
  have hlabels := labels_dotted hne fun w hw =>
    have ⟨_, h⟩ := hall w hw
    ⟨h.ne_nil, h.dotless⟩
  have hread : read (dotted ws (labels (name.flatMap Text.lowerCodes)).2) = .ok reads := by
    rw [read, if_neg (Nat.not_lt.2 hlength), hlabels, mapM_eq_ok, List.forall₂_map_left_iff]
    refine hreads.imp fun w read hread => ?_
    have hcodes : (w.map Char.toNat).map Char.ofNat = w := by
      rw [List.map_map]
      exact (List.map_congr_left fun c _ => Char.ofNat_toNat c).trans (List.map_id w)
    rwa [hcodes]
  refine ⟨hlength, dotted_ascii fun w hw => ?_, ws, reads, rfl, fun w hw => ?_, hread, hsame⟩
  · obtain ⟨_, h⟩ := hall w hw
    exact h.ascii
  · obtain ⟨_, h⟩ := hall w hw
    exact ⟨h.ne_nil, h.short⟩

example : write? ("Bücher.example.".toList.map Char.toNat) = some "xn--bcher-kva.example.".toList := by
  decide +kernel

end HostName
end PlotDigitizer.Service
