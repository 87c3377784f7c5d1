/-
Labels that are written in ASCII and read again.

The writer of a label counts distances between code points, and the reader
walks along them. Both are told by one relation (`Reached`): what is written
so far is read as the part of the label that is passed, and the next distance
leads to where the writer is. Each code point passed keeps it (`Reached.pass`),
so a label is read as it was (`decode?_encode`).
-/
import Mathlib.Data.List.Sort
import Mathlib.Data.List.TakeDrop
import Mathlib.Tactic.Ring
import PlotDigitizer.Service.HostName.Punycode

namespace PlotDigitizer.Service

/-- A list is cut where a property ends. -/
theorem span_append {α : Type} {p : α → Bool} {xs ys : List α} (h : ∀ x ∈ xs, p x = true)
    (hstop : ∀ y ∈ ys.head?, p y = false) : (xs ++ ys).span p = (xs, ys) := by
  rw [List.span_eq_takeWhile_dropWhile, List.takeWhile_append_of_pos h, List.dropWhile_append_of_pos h]
  cases ys with
  | nil => rw [List.takeWhile_nil, List.dropWhile_nil, List.append_nil]
  | cons y ys =>
    have hy : p y = false := hstop y rfl
    rw [List.takeWhile_cons, List.dropWhile_cons]
    simp only [hy, Bool.false_eq_true, if_false, List.append_nil]

theorem span_eq_self {α : Type} {p : α → Bool} {xs : List α} (h : ∀ x ∈ xs, p x = true) :
    xs.span p = (xs, []) := by
  have hspan : (xs ++ []).span p = (xs, []) := span_append h (by rintro _ ⟨⟩)
  rwa [List.append_nil] at hspan

namespace HostName

theorem toNat_ofNat {n : Nat} (h : n < 128) : (Char.ofNat n).toNat = n := by
  have hvalid : n.isValidChar := .inl (by omega)
  rw [Char.ofNat, dif_pos hvalid]
  rfl

namespace Punycode

/-! ## Distances -/

/-- Digits as text. -/
def written (ds : List Nat) : List Char := ds.map fun d => digitChars.getD d '?'

theorem written_append (ds es : List Nat) : written (ds ++ es) = written ds ++ written es :=
  List.map_append

theorem digit?_digitChars {d : Nat} (h : d < 36) : digit? (digitChars.getD d '?') = some d := by
  have hall : ∀ e ∈ List.range 36, digit? (digitChars.getD e '?') = some e := by decide
  exact hall d (List.mem_range.2 h)

theorem lt_of_mem_digitsFrom {place bias distance d : Nat} (h : d ∈ digitsFrom place bias distance) :
    d < 36 := by
  fun_induction digitsFrom place bias distance with
  | case1 place distance t hlt =>
    have ht : t ≤ 26 := threshold_le place bias
    rw [List.mem_singleton] at h
    omega
  | case2 place distance t hge ih =>
    have ht : t ≤ 26 := threshold_le place bias
    rcases List.mem_cons.1 h with rfl | h
    · have hmod : (distance - t) % (36 - t) < 36 - t := Nat.mod_lt _ (by omega)
      omega
    · exact ih h

/-- A distance is read from its digits, whatever follows. -/
theorem distance?_digitsFrom (place bias distance weight sum : Nat) (rest : List Char) :
    distance? bias place weight sum (written (digitsFrom place bias distance) ++ rest)
      = some (sum + distance * weight, rest) := by
  fun_induction digitsFrom place bias distance generalizing weight sum with
  | case1 place distance t hlt =>
    have ht : t ≤ 26 := threshold_le place bias
    show distance? bias place weight sum (digitChars.getD distance '?' :: rest) = _
    rw [distance?, digit?_digitChars (by omega)]
    exact if_pos hlt
  | case2 place distance t hge ih =>
    have ht : t ≤ 26 := threshold_le place bias
    have hmod : (distance - t) % (36 - t) < 36 - t := Nat.mod_lt _ (by omega)
    have hdigit : ¬t + (distance - t) % (36 - t) < t := by omega
    have hsum : t + (distance - t) % (36 - t) + (distance - t) / (36 - t) * (36 - t) = distance := by
      have := Nat.mod_add_div' (distance - t) (36 - t)
      omega
    show distance? bias place weight sum (digitChars.getD (t + (distance - t) % (36 - t)) '?' ::
      (written (digitsFrom (place + 1) bias ((distance - t) / (36 - t))) ++ rest)) = _
    rw [distance?, digit?_digitChars (by omega)]
    refine (if_neg hdigit).trans ?_
    rw [ih]
    refine congrArg (fun n => some (n, rest)) ?_
    calc sum + (t + (distance - t) % (36 - t)) * weight + (distance - t) / (36 - t) * (weight * (36 - t))
        = sum + (t + (distance - t) % (36 - t) + (distance - t) / (36 - t) * (36 - t)) * weight := by ring
      _ = sum + distance * weight := by rw [hsum]

/-! ## What is read of what is written so far -/

/-- What is written so far is read as `known`, after the code points below 128,
and the next distance leads to the place `k` of it for the code point `n`. -/
structure Reached (basic known : List Nat) (n k : Nat) (p : Progress) : Prop where
  count : p.count = known.length
  place : k ≤ known.length
  digits : ∀ d ∈ p.digits, d < 36
  reads : ∃ code position,
    position + p.distance + code * (known.length + 1) = k + n * (known.length + 1) ∧
    ∀ rest, insertAll 128 0 72 basic true (written p.digits.reverse ++ rest)
      = insertAll code position p.bias known p.isFirst rest

namespace Reached

variable {basic known label : List Nat} {n k : Nat} {p : Progress}

theorem start (basic : List Nat) : Reached basic basic 128 0 { count := basic.length } where
  count := rfl
  place := Nat.zero_le _
  digits := fun _ hd => nomatch hd
  reads := ⟨128, 0, rfl, fun _ => rfl⟩

/-- A code point that is written is read at its place. -/
theorem write (h : Reached basic known n k p) (hn : n ≤ 0x10FFFF) :
    Reached basic (known.take k ++ n :: known.drop k) n (k + 1) (p.pass n n) := by
  obtain ⟨code, position, hplace, hreads⟩ := h.reads
  have hk : k < known.length + 1 := Nat.lt_succ_of_le h.place
  have hlength : (known.take k ++ n :: known.drop k).length = known.length + 1 := by
    simp only [List.length_append, List.length_cons, List.length_take, List.length_drop]
    omega
  have hpass : p.pass n n = { digits := (digitsFrom 0 p.bias p.distance).reverse ++ p.digits
                              distance := 0
                              bias := adapted p.distance p.isFirst (p.count + 1)
                              count := p.count + 1
                              isFirst := false } := by
    rw [Progress.pass, if_neg (Nat.lt_irrefl n), if_pos rfl]
  -- A distance counts all places of all code points from the one read last
  -- on, so its quotient tells the next one and its remainder the place.
  have hcode : code + (position + p.distance) / (known.length + 1) = n := by
    rw [Nat.add_comm, ← Nat.add_mul_div_right _ _ (Nat.succ_pos _), hplace,
      Nat.add_mul_div_right _ _ (Nat.succ_pos _), Nat.div_eq_of_lt hk, Nat.zero_add]
  have hindex : (position + p.distance) % (known.length + 1) = k := by
    rw [← Nat.add_mul_mod_self_right _ code, hplace, Nat.add_mul_mod_self_right, Nat.mod_eq_of_lt hk]
  rw [hpass]
  refine ⟨by rw [hlength, h.count], by omega, ?_, n, k + 1, by simp only [hlength, Nat.add_zero],
    fun rest => ?_⟩
  · intro d hd
    rcases List.mem_append.1 hd with hd | hd
    · exact lt_of_mem_digitsFrom (List.mem_reverse.1 hd)
    · exact h.digits d hd
  · have hne : (written (digitsFrom 0 p.bias p.distance) ++ rest).isEmpty = false := by
      rw [digitsFrom]
      split <;> rfl
    simp only [List.reverse_append, List.reverse_reverse, written_append, List.append_assoc, hreads]
    rw [insertAll, hne, distance?_digitsFrom]
    simp only [Nat.zero_add, Nat.mul_one, hcode, hindex, Nat.not_lt.2 hn, Bool.false_eq_true, if_false,
      hlength, h.count]

/-- A code point that is read already is passed over. -/
theorem passOver (h : Reached basic known n k p) (hk : k < known.length) :
    Reached basic known n (k + 1) { p with distance := p.distance + 1 } := by
  obtain ⟨code, position, hplace, hreads⟩ := h.reads
  exact ⟨h.count, hk, h.digits, code, position, by dsimp only; omega, hreads⟩

/-- At the end of the label the next code point begins. -/
theorem next (h : Reached basic known n known.length p) :
    Reached basic known (n + 1) 0 { p with distance := p.distance + 1 } := by
  obtain ⟨code, position, hplace, hreads⟩ := h.reads
  refine ⟨h.count, Nat.zero_le _, h.digits, code, position, ?_, hreads⟩
  rw [Nat.add_mul]
  dsimp only
  omega

theorem skip {m : Nat} (h : Reached basic known n 0 p) (hm : n ≤ m) :
    Reached basic known m 0 { p with distance := p.distance + (m - n) * (p.count + 1) } := by
  obtain ⟨code, position, hplace, hreads⟩ := h.reads
  refine ⟨h.count, Nat.zero_le _, h.digits, code, position, ?_, hreads⟩
  have hmul : m * (known.length + 1) = (m - n) * (known.length + 1) + n * (known.length + 1) := by
    rw [← Nat.add_mul, Nat.sub_add_cancel hm]
  rw [hmul, h.count]
  dsimp only
  omega

/-- One code point of the label: those up to `n` are read before it, those
below `n` from it on. -/
theorem pass {m : Nat} {us vs : List Nat} (hn : n ≤ 0x10FFFF)
    (h : Reached basic (us.filter (· ≤ n) ++ (m :: vs).filter (· < n)) n (us.filter (· ≤ n)).length p) :
    Reached basic ((us ++ [m]).filter (· ≤ n) ++ vs.filter (· < n)) n ((us ++ [m]).filter (· ≤ n)).length
      (p.pass n m) := by
  rcases Nat.lt_trichotomy m n with hlt | rfl | hgt
  · have hpass : p.pass n m = { p with distance := p.distance + 1 } := if_pos hlt
    have hover := h.passOver (by simp [hlt])
    simpa [hpass, hlt, Nat.le_of_lt hlt] using hover
  · have hwrite := h.write hn
    rw [List.take_left, List.drop_left] at hwrite
    simpa using hwrite
  · have hpass : p.pass n m = p := by
      rw [Progress.pass, if_neg (Nat.lt_asymm hgt), if_neg (Nat.ne_of_gt hgt)]
    simpa [hpass, hgt, Nat.not_le.2 hgt, Nat.le_of_lt hgt] using h

theorem passEach (hn : n ≤ 0x10FFFF) (vs us : List Nat) {p : Progress}
    (h : Reached basic (us.filter (· ≤ n) ++ vs.filter (· < n)) n (us.filter (· ≤ n)).length p) :
    Reached basic ((us ++ vs).filter (· ≤ n)) n ((us ++ vs).filter (· ≤ n)).length
      (vs.foldl (Progress.pass n) p) := by
  induction vs generalizing us p with
  | nil => simpa using h
  | cons m vs ih => simpa using ih (us ++ [m]) (h.pass hn)

/-- All that is left of the label: its code points from `n` on are listed in
ascending order, so between two of them nothing is written. -/
theorem passAll {ms : List Nat} (hms : ms.Pairwise (· < ·)) (hle : ∀ m ∈ ms, n ≤ m ∧ m ≤ 0x10FFFF)
    (hall : ∀ m ∈ label, n ≤ m → m ∈ ms) {p : Progress} (h : Reached basic (label.filter (· < n)) n 0 p) :
    ∃ last, Reached basic label last 0 (Progress.passAll label ms n p) := by
  induction ms generalizing n p with
  | nil =>
    have hlow : label.filter (· < n) = label :=
      List.filter_eq_self.2 fun m hm => decide_eq_true (Nat.not_le.1 fun hn => nomatch hall m hm hn)
    exact ⟨n, hlow ▸ h⟩
  | cons m ms ih =>
    obtain ⟨hmin, hms⟩ := List.pairwise_cons.1 hms
    obtain ⟨⟨hn, hm⟩, hrest⟩ := List.forall_mem_cons.1 hle
    have hbelow : label.filter (· < n) = label.filter (· < m) := by
      refine List.filter_congr fun x hx => decide_eq_decide.2
        ⟨fun h => Nat.lt_of_lt_of_le h hn, fun h => ?_⟩
      by_contra hxn
      rcases List.mem_cons.1 (hall x hx (Nat.not_lt.1 hxn)) with rfl | hmem
      · exact Nat.lt_irrefl _ h
      · exact Nat.lt_asymm h (hmin x hmem)
    have hupto : label.filter (· ≤ m) = label.filter (· < m + 1) :=
      List.filter_congr fun x _ => decide_eq_decide.2 Nat.lt_succ_iff.symm
    have hpassed := ((hbelow ▸ h).skip hn).passEach hm label []
    rw [List.nil_append, hupto] at hpassed
    refine ih hms (fun x hx => ⟨hmin x hx, (hrest x hx).2⟩) (fun x hx hmx => ?_) hpassed.next
    rcases List.mem_cons.1 (hall x hx (Nat.le_trans hn (Nat.le_of_succ_le hmx))) with rfl | hmem
    · exact (Nat.not_succ_le_self _ hmx).elim
    · exact hmem

end Reached

/-! ## Labels -/

theorem pairwise_eraseDups : ∀ {ns : List Nat}, ns.Pairwise (· ≤ ·) → ns.eraseDups.Pairwise (· < ·)
  | [], _ => .nil
  | n :: ns, h => by
    obtain ⟨hmin, hns⟩ := List.pairwise_cons.1 h
    rw [List.eraseDups_cons]
    refine List.pairwise_cons.2 ⟨fun m hm => ?_, pairwise_eraseDups (hns.filter _)⟩
    obtain ⟨hm, hne⟩ := by simpa using hm
    exact Nat.lt_of_le_of_ne (hmin m hm) (Ne.symm hne)
termination_by ns => ns.length
decreasing_by exact Nat.lt_succ_of_le (List.length_filter_le _ _)

/-- The code points of a label below 128. -/
def basicOf (label : List Nat) : List Nat := label.filter (· < 128)

/-- What stands before the digits of a label. -/
def plainPart (basic : List Nat) : List Char :=
  if basic.isEmpty then [] else basic.map Char.ofNat ++ ['-']

/-- A label is written in its plain part and digits that are read as the label
from there on. -/
theorem exists_reached {label : List Nat} (h : ∀ n ∈ label, n ≤ 0x10FFFF) :
    ∃ last p, Reached (basicOf label) label last 0 p ∧
      encode label = plainPart (basicOf label) ++ written p.digits.reverse := by
  have hsorted : ((label.filter (128 ≤ ·)).mergeSort (· ≤ ·)).Pairwise (· ≤ ·) :=
    List.pairwise_mergeSort' _ _
  obtain ⟨last, hreached⟩ := (Reached.start (basicOf label)).passAll (pairwise_eraseDups hsorted)
    (fun m hm => by
      obtain ⟨hm, hlarge⟩ := by simpa using hm
      exact ⟨hlarge, h m hm⟩)
    (fun m hm hlarge => by simpa using ⟨hm, hlarge⟩)
  exact ⟨last, _, hreached, rfl⟩

/-! ### What is read of a text with digits -/

theorem all_written {p : Char → Bool}
    (hdigit : (List.range 36).all (fun d => p (digitChars.getD d '?')) = true)
    {ds : List Nat} (hds : ∀ d ∈ ds, d < 36) : ∀ c ∈ written ds, p c = true := by
  intro c hc
  obtain ⟨d, hd, rfl⟩ := List.mem_map.1 hc
  exact List.all_eq_true.1 hdigit d (List.mem_range.2 (hds d hd))

theorem decode?_digits {ds : List Char} (h : ∀ c ∈ ds, (c != '-') = true) :
    decode? ds = insertAll 128 0 72 [] true ds := by
  rw [decode?, span_eq_self fun c hc => h c (List.mem_reverse.1 hc)]
  simp only [List.tail_nil, List.reverse_nil, List.map_nil, List.reverse_reverse]

theorem decode?_append (cs : List Char) {ds : List Char} (h : ∀ c ∈ ds, (c != '-') = true) :
    decode? (cs ++ '-' :: ds) = insertAll 128 0 72 (cs.map Char.toNat) true ds := by
  have hspan : (cs ++ '-' :: ds).reverse.span (· != '-') = (ds.reverse, '-' :: cs.reverse) := by
    rw [List.reverse_append, List.reverse_cons, List.append_assoc]
    exact span_append (fun c hc => h c (List.mem_reverse.1 hc)) (by rintro _ ⟨⟩; rfl)
  rw [decode?, hspan]
  simp only [List.tail_cons, List.reverse_reverse]

theorem insertAll_nil (code position bias : Nat) (label : List Nat) (isFirst : Bool) :
    insertAll code position bias label isFirst [] = some label := by
  rw [insertAll]
  rfl

/-- **A label is read from what is written for it.** -/
theorem decode?_encode {label : List Nat} (h : ∀ n ∈ label, n ≤ 0x10FFFF) :
    decode? (encode label) = some label := by
  obtain ⟨last, p, hreached, hencode⟩ := exists_reached h
  obtain ⟨code, position, -, hreads⟩ := hreached.reads
  have hdigits : ∀ c ∈ written p.digits.reverse, (c != '-') = true :=
    all_written (by decide) fun d hd => hreached.digits d (List.mem_reverse.1 hd)
  have hread := hreads []
  rw [List.append_nil, insertAll_nil] at hread
  rw [hencode, plainPart]
  split
  · rename_i hnil
    rw [List.isEmpty_iff.1 hnil] at hread
    rw [List.nil_append, decode?_digits hdigits, hread]
  · have hmap : ((basicOf label).map Char.ofNat).map Char.toNat = basicOf label := by
      rw [List.map_map]
      refine (List.map_congr_left fun n hn => toNat_ofNat ?_).trans (List.map_id _)
      simpa using (List.mem_filter.1 hn).2
    rw [List.append_assoc, List.singleton_append, decode?_append _ hdigits, hmap, hread]

/-- What holds of the digits, the hyphen and the code points in ASCII of a
label holds of all that is written for it. -/
theorem all_encode {p : Char → Bool}
    (hdigit : (List.range 36).all (fun d => p (digitChars.getD d '?')) = true) (hhyphen : p '-' = true)
    {label : List Nat} (hlabel : ∀ n ∈ label, n < 128 → p (Char.ofNat n) = true)
    (h : ∀ n ∈ label, n ≤ 0x10FFFF) : ∀ c ∈ encode label, p c = true := by
  obtain ⟨last, q, hreached, hencode⟩ := exists_reached h
  intro c hc
  rw [hencode, plainPart] at hc
  rcases List.mem_append.1 hc with hc | hc
  · split at hc
    · cases hc
    · rcases List.mem_append.1 hc with hc | hc
      · obtain ⟨n, hn, rfl⟩ := List.mem_map.1 hc
        obtain ⟨hn, hlow⟩ := List.mem_filter.1 hn
        exact hlabel n hn (of_decide_eq_true hlow)
      · rw [List.mem_singleton.1 hc]
        exact hhyphen
  · exact all_written hdigit (fun d hd => hreached.digits d (List.mem_reverse.1 hd)) c hc

theorem encode_ascii {label : List Nat} (h : ∀ n ∈ label, n ≤ 0x10FFFF) :
    ∀ c ∈ encode label, c.toNat < 128 := by
  have hall : ∀ c ∈ encode label, decide (c.toNat < 128) = true :=
    all_encode (by decide) (by decide) (fun n _ hn => decide_eq_true (by rwa [toNat_ofNat hn])) h
  exact fun c hc => of_decide_eq_true (hall c hc)

/-- A text that writes a code point beyond ASCII ends with a digit of it. -/
theorem getLast?_encode {label : List Nat} (h : ∀ n ∈ label, n ≤ 0x10FFFF) (hbeyond : ∃ n ∈ label, 128 ≤ n) :
    encode label ≠ [] ∧ (encode label).getLast? ≠ some '-' := by
  obtain ⟨n, hn, hlarge⟩ := hbeyond
  have hread := decode?_encode h
  refine ⟨fun hnil => ?_, fun hlast => ?_⟩
  · rw [hnil, decode?_digits (by simp), insertAll_nil] at hread
    cases hread
    cases hn
  · obtain ⟨cs, hcs⟩ := List.getLast?_eq_some_iff.1 hlast
    rw [hcs, decode?_append cs (by simp), insertAll_nil] at hread
    cases hread
    obtain ⟨c, hc, rfl⟩ := List.mem_map.1 hn
    exact Nat.not_le.2 (encode_ascii h c (hcs ▸ List.mem_append_left _ hc)) hlarge

end Punycode
end HostName
end PlotDigitizer.Service
