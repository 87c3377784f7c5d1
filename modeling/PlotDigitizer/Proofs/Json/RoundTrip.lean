/-
JSON text that is read as it was written.

What was written for a value is read as that value (`isRead_of_fits`),
whatever the spacing and whatever follows, if the reader goes deep enough and
reads whole numbers long enough (`Fits`), and the names of a record differ.
Halves of characters that meet in a text come back as the character
(`Value.joined`). By the grammar alone, without bounds, every value whose names
differ is read (`parse_write`).
-/
import PlotDigitizer.Proofs.Json.Numbers
import PlotDigitizer.Proofs.Json.Strings

namespace PlotDigitizer

namespace Value

mutual
/-- The value with its texts as they are read. -/
def joined : Value Float → Value Float
  | .text t => .text t.joined
  | .list vs => .list (joinedItems vs)
  | .record fs => .record (joinedFields fs)
  | .null => .null
  | .bool b => .bool b
  | .int n => .int n
  | .real x => .real x

def joinedItems : List (Value Float) → List (Value Float)
  | [] => []
  | v :: rest => joined v :: joinedItems rest

def joinedFields : List (Text × Value Float) → List (Text × Value Float)
  | [] => []
  | (name, v) :: rest => (name.joined, joined v) :: joinedFields rest
end

theorem joinedItems_eq (vs : List (Value Float)) : joinedItems vs = vs.map joined := by
  induction vs with
  | nil => rw [joinedItems, List.map_nil]
  | cons v vs ih => rw [joinedItems, ih, List.map_cons]

theorem joinedFields_eq (fs : List (Text × Value Float)) :
    joinedFields fs = fs.map fun f => (f.1.joined, f.2.joined) := by
  induction fs with
  | nil => rw [joinedFields, List.map_nil]
  | cons f fs ih => rw [joinedFields, ih, List.map_cons]

end Value

namespace Json

open Numeral (isDigit)

/-! ## Blanks -/

theorem skip_append {cs : List Char} (h : ∀ c ∈ cs, isSpace (.char c) = true) (ls : List Letter) :
    skip (cs.map .char ++ ls) = skip ls := by
  induction cs with
  | nil => rfl
  | cons c cs ih =>
    rw [List.forall_mem_cons] at h
    rw [List.map_cons, List.cons_append, skip, List.dropWhile_cons_of_pos h.1]
    exact ih h.2

theorem skip_cons {l : Letter} (h : isSpace l = false) (ls : List Letter) : skip (l :: ls) = l :: ls :=
  List.dropWhile_cons_of_neg (by rw [h]; exact Bool.false_ne_true)

theorem isSpace_line (s : Spacing) (k : Nat) : ∀ c ∈ s.line k, isSpace (.char c) = true := by
  cases s with
  | compact => exact List.forall_mem_nil _
  | indented =>
    rw [Spacing.line, List.forall_mem_cons]
    exact ⟨rfl, fun c hc => by rw [List.eq_of_mem_replicate hc]; rfl⟩

theorem skip_line (s : Spacing) (k : Nat) (ls : List Letter) : skip ((s.line k).map .char ++ ls) = skip ls :=
  skip_append (isSpace_line s k) ls

/-- After a value there may stand a line end, a comma or a closing bracket. -/
theorem endsNumber_cons {c : Char} (h : c = '\n' ∨ c = ',' ∨ c = ']' ∨ c = '\x7d') (ls : List Letter) :
    EndsNumber (.char c :: ls) := by
  rintro _ _ ⟨⟩
  rcases h with rfl | rfl | rfl | rfl <;> decide

theorem endsNumber_nil : EndsNumber [] := by
  rintro _ _ ⟨⟩

theorem endsNumber_line (s : Spacing) (k : Nat) {c : Char} (h : c = ']' ∨ c = '\x7d') (ls : List Letter) :
    EndsNumber ((s.line k).map .char ++ .char c :: ls) := by
  cases s with
  | compact => exact endsNumber_cons (by tauto) ls
  | indented => exact endsNumber_cons (.inl rfl) _

/-! ## Values by their first letter -/

/-- A figure starts with a digit, or with a minus sign and a digit. -/
theorem Figure.IsProper.text_cases {f : Figure} (hf : f.IsProper) : ∃ c cs, isDigit c = true ∧
    (f.text = c :: cs ∨ f.text = '-' :: c :: cs) := by
  obtain ⟨c, cs, hwhole⟩ := List.exists_cons_of_ne_nil hf.whole_ne_nil
  refine ⟨c, cs ++ (f.fractionText ++ f.exponentText), hf.whole c (hwhole ▸ List.mem_cons_self), ?_⟩
  rw [Figure.text, Figure.signText, hwhole]
  cases f.negative with
  | false => exact .inl rfl
  | true => exact .inr rfl

theorem ne_of_isDigit {c d : Char} (hc : isDigit c = true) (hd : isDigit d = false) : c ≠ d := by
  rintro rfl
  exact Bool.false_ne_true (hd.symm.trans hc)

theorem after?_eq_none {word : String} {c d : Char} {cs : List Char} {ls : List Letter}
    (hword : word.toList = d :: cs) (h : d ≠ c) : after? word (.char c :: ls) = none := by
  rw [after?, hword, if_neg]
  simp [h]

theorem after?_minus_eq_none {word : String} {c d : Char} {cs : List Char} {ls : List Letter}
    (hword : word.toList = '-' :: d :: cs) (h : d ≠ c) : after? word (.char '-' :: .char c :: ls) = none := by
  rw [after?, hword, if_neg]
  simp [h]

theorem scalar_of_words {ls : List Letter} (h : ∀ p ∈ words, after? p.1 ls = none) (longest : Nat) :
    scalar longest ls = number longest ls := by
  rw [scalar, List.findSome?_eq_none_iff.2]
  rintro ⟨word, v⟩ hp
  simp [h _ hp]

/-- A figure is no word. -/
theorem scalar_figure {f : Figure} (hf : f.IsProper) (longest : Nat) (rest : List Letter) :
    scalar longest (f.text.map .char ++ rest) = number longest (f.text.map .char ++ rest) := by
  obtain ⟨c, cs, hc, htext⟩ := hf.text_cases
  have hne {d : Char} (hd : isDigit d = false) : d ≠ c := (ne_of_isDigit hc hd).symm
  refine scalar_of_words ?_ longest
  simp only [words, List.forall_mem_cons]
  rcases htext with htext | htext <;> rw [htext, List.map_cons, List.cons_append]
  · exact ⟨after?_eq_none rfl (hne rfl), after?_eq_none rfl (hne rfl), after?_eq_none rfl (hne rfl),
      after?_eq_none rfl (hne rfl), after?_eq_none rfl (hne rfl), after?_eq_none rfl (hne rfl),
      List.forall_mem_nil _⟩
  · exact ⟨after?_eq_none rfl (by decide), after?_eq_none rfl (by decide), after?_eq_none rfl (by decide),
      after?_eq_none rfl (by decide), after?_eq_none rfl (by decide), after?_minus_eq_none rfl (hne rfl),
      List.forall_mem_nil _⟩

/-- What does not start like a string, a list or a record is a word or a number. -/
theorem parseValue_cons {c : Char} (hquote : c ≠ '"') (hbrace : c ≠ '\x7b') (hbracket : c ≠ '[')
    (longest depth room : Nat) (ls : List Letter) :
    parseValue longest depth (room + 1) (.char c :: ls) = scalar longest (.char c :: ls) := by
  rw [parseValue.eq_def]
  dsimp only
  split
  · rename_i h
    exact absurd (Letter.char.inj (List.cons.inj h).1) hquote
  · rename_i h
    exact absurd (Letter.char.inj (List.cons.inj h).1) hbrace
  · rename_i h
    exact absurd (Letter.char.inj (List.cons.inj h).1) hbracket
  · rfl

theorem parseValue_figure {f : Figure} (hf : f.IsProper) (longest depth room : Nat) (rest : List Letter) :
    parseValue longest depth (room + 1) (f.text.map .char ++ rest)
      = number longest (f.text.map .char ++ rest) := by
  rw [← scalar_figure hf]
  obtain ⟨c, cs, hc, htext | htext⟩ := hf.text_cases <;> rw [htext, List.map_cons, List.cons_append]
  · exact parseValue_cons (ne_of_isDigit hc rfl) (ne_of_isDigit hc rfl) (ne_of_isDigit hc rfl) _ _ _ _
  · exact parseValue_cons (by decide) (by decide) (by decide) _ _ _ _

/-- A double is a word or a figure. -/
theorem double_cases (x : Float) :
    (x = Binary64.nan ∨ x = Binary64.infinity ∨ x = -Binary64.infinity) ∨ Binary64.isFinite x = true := by
  cases hparts : Binary64.parts x with
  | undefined => exact .inl (.inl (Binary64.parts_injective (hparts.trans (by decide))))
  | infinite negative =>
    left
    right
    cases negative with
    | false => exact .inl (Binary64.parts_injective (hparts.trans (by decide)))
    | true => exact .inr (Binary64.parts_injective (hparts.trans (by decide)))
  | finite => exact .inr (by rw [Binary64.isFinite, hparts])

/-- Texts of values start with no blank and no closing bracket. -/
theorem exists_write_cons (s : Spacing) (k : Nat) (v : Value Float) :
    ∃ c cs, write s k v = c :: cs ∧ isSpace (.char c) = false ∧ c ≠ ']' := by
  have hfigure {f : Figure} (hf : f.IsProper) :
      ∃ c cs, f.text = c :: cs ∧ isSpace (.char c) = false ∧ c ≠ ']' := by
    obtain ⟨c, cs, hc, htext | htext⟩ := hf.text_cases
    · refine ⟨c, cs, htext, ?_, ne_of_isDigit hc rfl⟩
      have hne {d : Char} (hd : isDigit d = false) : (Letter.char c == .char d) = false := by
        simpa using ne_of_isDigit hc hd
      rw [isSpace, hne rfl, hne rfl, hne rfl, hne rfl]
      rfl
    · exact ⟨_, _, htext, rfl, by decide⟩
  match v with
  | .null => exact ⟨_, _, rfl, rfl, by decide⟩
  | .bool true | .bool false => exact ⟨_, _, rfl, rfl, by decide⟩
  | .int n =>
    have hwrite : write s k (.int n) = (toString n).toList := rfl
    rw [hwrite, ← Figure.text_ofInt]
    exact hfigure (Figure.isProper_ofInt n)
  | .real x =>
    have hwrite : write s k (.real x) = (Layout.json.double x).toList := rfl
    rw [hwrite]
    rcases double_cases x with (rfl | rfl | rfl) | hx
    · exact ⟨_, _, rfl, rfl, by decide⟩
    · exact ⟨_, _, rfl, rfl, by decide⟩
    · exact ⟨_, _, rfl, rfl, by decide⟩
    · obtain ⟨f, hf, htext⟩ := exists_isOf .json hx
      rw [← htext]
      exact hfigure hf.isProper
  | .text t => exact ⟨_, _, rfl, rfl, by decide⟩
  | .list [] | .list (_ :: _) => exact ⟨_, _, rfl, rfl, by decide⟩
  | .record [] | .record (_ :: _) => exact ⟨_, _, rfl, rfl, by decide⟩

/-! ## Values without items -/

/-- What a value fits into: whole numbers have at most `longest` digits, the
value is nested no deeper than the number says, and the names of every record
differ. -/
inductive Fits (longest : Nat) : Nat → Value Float → Prop where
  | null {d : Nat} : Fits longest d .null
  | bool {d : Nat} (b : Bool) : Fits longest d (.bool b)
  | int {d : Nat} {n : Int} (h : (Nat.toDigits 10 n.natAbs).length ≤ longest) : Fits longest d (.int n)
  | real {d : Nat} (x : Float) : Fits longest d (.real x)
  | text {d : Nat} (t : Text) : Fits longest d (.text t)
  | list {d : Nat} {vs : List (Value Float)} (h : ∀ v ∈ vs, Fits longest d v) :
      Fits longest (d + 1) (.list vs)
  | record {d : Nat} {fs : List (Text × Value Float)} (hnames : (fs.map (·.1.joined)).Nodup)
      (h : ∀ f ∈ fs, Fits longest d f.2) : Fits longest (d + 1) (.record fs)

/-- A value is read as it was written, whatever the room beyond its text. -/
def IsRead (longest depth : Nat) (v : Value Float) : Prop :=
  ∀ (s : Spacing) (k room : Nat) (rest : List Letter), EndsNumber rest → (write s k v).length < room →
    parseValue longest depth room ((write s k v).map .char ++ rest) = .ok (v.joined, rest)

section
variable {longest depth : Nat}

theorem IsRead.of_room {v : Value Float}
    (h : ∀ (s : Spacing) (k room : Nat) (rest : List Letter), EndsNumber rest → (write s k v).length ≤ room →
      parseValue longest depth (room + 1) ((write s k v).map .char ++ rest) = .ok (v.joined, rest)) :
    IsRead longest depth v := by
  rintro s k (_ | room) rest hrest hroom
  · exact absurd hroom (Nat.not_lt_zero _)
  · exact h s k room rest hrest (Nat.lt_succ_iff.1 hroom)

theorem isRead_null : IsRead longest depth .null := .of_room fun _ _ _ _ _ _ => rfl

theorem isRead_bool (b : Bool) : IsRead longest depth (.bool b) :=
  .of_room fun _ _ _ _ _ _ => by cases b <;> rfl

theorem isRead_text (t : Text) : IsRead longest depth (.text t) := by
  refine .of_room fun s k room rest _ _ => ?_
  have hwrite : write s k (.text t) = string t := rfl
  rw [hwrite, string_eq, parseValue, stringTail_units]
  rfl

theorem isRead_int {n : Int} (h : (Nat.toDigits 10 n.natAbs).length ≤ longest) :
    IsRead longest depth (.int n) := by
  refine .of_room fun s k room rest hrest _ => ?_
  have hwrite : write s k (.int n) = (toString n).toList := rfl
  rw [hwrite, ← Figure.text_ofInt, parseValue_figure (Figure.isProper_ofInt n), Figure.text_ofInt,
    number_int n hrest h]
  rfl

theorem isRead_real (x : Float) : IsRead longest depth (.real x) := by
  refine .of_room fun s k room rest hrest _ => ?_
  have hwrite : write s k (.real x) = (Layout.json.double x).toList := rfl
  rw [hwrite]
  rcases double_cases x with (rfl | rfl | rfl) | hx
  · rfl
  · rfl
  · rfl
  · obtain ⟨f, hf, htext⟩ := exists_isOf .json hx
    rw [← htext, parseValue_figure hf.isProper, htext, number_double .json hx hrest]
    rfl

/-! ## Lists -/

theorem skip_write (s : Spacing) (k : Nat) (v : Value Float) (ls : List Letter) :
    skip ((write s k v).map .char ++ ls) = (write s k v).map .char ++ ls := by
  obtain ⟨c, cs, hwrite, hc, -⟩ := exists_write_cons s k v
  rw [hwrite]
  exact skip_cons hc _

theorem length_write_pos (s : Spacing) (k : Nat) (v : Value Float) : 0 < (write s k v).length := by
  obtain ⟨c, cs, hwrite, -⟩ := exists_write_cons s k v
  rw [hwrite]
  exact Nat.zero_lt_succ _

/-- What follows an item of a list: the other items, and the closing bracket. -/
def afterItem (s : Spacing) (k j : Nat) (vs : List (Value Float)) (rest : List Letter) : List Letter :=
  (writeItems s k vs).map .char ++ ((s.line j).map .char ++ .char ']' :: rest)

theorem endsNumber_afterItem (s : Spacing) (k j : Nat) (vs : List (Value Float)) (rest : List Letter) :
    EndsNumber (afterItem s k j vs rest) := by
  cases vs with
  | nil => exact endsNumber_line s j (.inl rfl) rest
  | cons v vs => exact endsNumber_cons (.inr (.inl rfl)) _

theorem parseItems_write (s : Spacing) (k j : Nat) (rest : List Letter) {v : Value Float}
    {vs : List (Value Float)} (h : ∀ w ∈ v :: vs, IsRead longest depth w) (room : Nat)
    (hroom : (write s k v).length + (writeItems s k vs).length + 1 < room) :
    parseItems longest depth room ((write s k v).map .char ++ afterItem s k j vs rest)
      = .ok ((v :: vs).map Value.joined, rest) := by
  induction vs generalizing v room with
  | nil =>
    obtain ⟨room, rfl⟩ := Nat.exists_eq_succ_of_ne_zero (show room ≠ 0 by omega)
    have hread := h v List.mem_cons_self s k room _ (endsNumber_afterItem s k j [] rest) (by omega)
    have hskip : skip (afterItem s k j [] rest) = .char ']' :: rest := skip_line s j _
    simp only [parseItems, hread, hskip]
    rfl
  | cons w vs ih =>
    obtain ⟨room, rfl⟩ := Nat.exists_eq_succ_of_ne_zero (show room ≠ 0 by omega)
    have hlength : (writeItems s k (w :: vs)).length
        = (s.line k).length + (write s k w).length + (writeItems s k vs).length + 1 := by
      rw [writeItems]
      simp
      omega
    have hpos := length_write_pos s k v
    have hread := h v List.mem_cons_self s k room _ (endsNumber_afterItem s k j (w :: vs) rest) (by omega)
    have hnext : afterItem s k j (w :: vs) rest = .char ',' :: ((s.line k).map .char
        ++ ((write s k w).map .char ++ afterItem s k j vs rest)) := by
      simp only [afterItem, writeItems, List.map_cons, List.map_append, List.cons_append, List.append_assoc]
    have hskip : skip (afterItem s k j (w :: vs) rest) = .char ',' :: ((s.line k).map .char
        ++ ((write s k w).map .char ++ afterItem s k j vs rest)) := by
      rw [hnext]
      exact skip_cons rfl _
    have hitems := ih (fun x hx => h x (List.mem_cons_of_mem _ hx)) room (by omega)
    simp only [parseItems, hread, hskip, skip_line, skip_write, hitems]
    rfl

/-- A bracket that is not closed at once opens a list with items. -/
theorem parseValue_list {ls : List Letter} (h : ∀ tail, skip ls ≠ .char ']' :: tail) (room : Nat) :
    parseValue longest (depth + 1) (room + 1) (.char '[' :: ls)
      = (parseItems longest depth room (skip ls)).map fun p => (.list p.1, p.2) := by
  rw [parseValue]
  simp only [Nat.add_one_ne_zero, if_false, Nat.add_sub_cancel]

theorem isRead_list {vs : List (Value Float)} (h : ∀ v ∈ vs, IsRead longest depth v) :
    IsRead longest (depth + 1) (.list vs) := by
  refine .of_room fun s k room rest _ hroom => ?_
  cases vs with
  | nil => rfl
  | cons v vs =>
    have hwrite : (write s k (.list (v :: vs))).map Letter.char ++ rest = .char '[' :: ((s.line (k + 1)).map .char
        ++ ((write s (k + 1) v).map .char ++ afterItem s (k + 1) k vs rest)) := by
      simp only [afterItem, write, List.map_cons, List.map_append, List.cons_append, List.append_assoc,
        List.map_nil, List.nil_append]
    have hlength : (write s (k + 1) v).length + (writeItems s (k + 1) vs).length + 1 < room := by
      rw [write] at hroom
      simp only [List.length_cons, List.length_append] at hroom
      omega
    have hitems := parseItems_write s (k + 1) k rest h room hlength
    have hopen : ∀ tail, skip ((s.line (k + 1)).map .char
        ++ ((write s (k + 1) v).map .char ++ afterItem s (k + 1) k vs rest)) ≠ .char ']' :: tail := by
      intro tail heq
      obtain ⟨c, cs, hv, -, hc⟩ := exists_write_cons s (k + 1) v
      rw [skip_line, skip_write, hv] at heq
      exact hc (Letter.char.inj (List.cons.inj heq).1)
    rw [hwrite, parseValue_list hopen, skip_line, skip_write, hitems, Value.joined, Value.joinedItems_eq]
    rfl

/-! ## Records -/

theorem put_of_forall_ne {fields : List (Text × Value Float)} {name : Text} {v : Value Float}
    (h : ∀ f ∈ fields, f.1 ≠ name) : put fields name v = fields ++ [(name, v)] := by
  rw [put, if_neg]
  simpa using fun x hx => h (name, x) hx rfl

/-- Fields whose names differ stay as they are. -/
theorem laterWins_of_nodup {fields : List (Text × Value Float)} (h : (fields.map (·.1)).Nodup) :
    laterWins fields = fields := by
  have hfold : ∀ done : List (Text × Value Float), ((done ++ fields).map (·.1)).Nodup →
      fields.foldl (fun done f => put done f.1 f.2) done = done ++ fields := by
    clear h
    induction fields with
    | nil => intro done _; rw [List.append_nil]; rfl
    | cons f fields ih =>
      intro done hdone
      have hne : ∀ g ∈ done, g.1 ≠ f.1 := by
        rw [List.map_append, List.map_cons, List.nodup_append] at hdone
        exact fun g hg => hdone.2.2 _ (List.mem_map_of_mem hg) _ List.mem_cons_self
      rw [List.foldl_cons, put_of_forall_ne hne, ih, List.append_assoc, List.singleton_append]
      rwa [List.append_assoc, List.singleton_append]
  exact hfold [] h

/-- What follows the name of a field: the colon, the value, and what follows that. -/
def afterName (s : Spacing) (k : Nat) (v : Value Float) (tail : List Letter) : List Letter :=
  s.colon.map .char ++ ((write s k v).map .char ++ tail)

theorem skip_afterName (s : Spacing) (k : Nat) (v : Value Float) (tail : List Letter) :
    ∃ ls, skip (afterName s k v tail) = .char ':' :: ls ∧ skip ls = (write s k v).map .char ++ tail := by
  cases s with
  | compact => exact ⟨_, skip_cons rfl _, skip_write _ _ _ _⟩
  | indented =>
    refine ⟨_, skip_cons rfl _, ?_⟩
    have hblank : ∀ c ∈ [' '], isSpace (.char c) = true := List.forall_mem_singleton.2 rfl
    exact (skip_append hblank _).trans (skip_write _ _ _ _)

section
variable {s : Spacing} {k room : Nat} {v : Value Float} {tail ls : List Letter}

/-- A field before the closing brace. -/
theorem parseFields_last (name : Text) (hv : IsRead longest depth v) (hends : EndsNumber tail)
    (hroom : (write s k v).length < room) (htail : skip tail = .char '\x7d' :: ls) :
    parseFields longest depth (room + 1) ((string name).map .char ++ afterName s k v tail)
      = .ok ([(name.joined, v.joined)], ls) := by
  obtain ⟨_, hcolon, hvalue⟩ := skip_afterName s k v tail
  rw [string_eq]
  simp only [parseFields, stringTail_units, hcolon, hvalue, hv s k room tail hends hroom, htail]

/-- A field before a comma. -/
theorem parseFields_more (name : Text) (hv : IsRead longest depth v) (hends : EndsNumber tail)
    (hroom : (write s k v).length < room) (htail : skip tail = .char ',' :: ls) :
    parseFields longest depth (room + 1) ((string name).map .char ++ afterName s k v tail)
      = (parseFields longest depth room (skip ls)).map fun p => ((name.joined, v.joined) :: p.1, p.2) := by
  obtain ⟨_, hcolon, hvalue⟩ := skip_afterName s k v tail
  rw [string_eq]
  simp only [parseFields, stringTail_units, hcolon, hvalue, hv s k room tail hends hroom, htail]

end

/-- What follows a field of a record: the other fields, and the closing brace. -/
def afterField (s : Spacing) (k j : Nat) (fs : List (Text × Value Float)) (rest : List Letter) : List Letter :=
  (writeFields s k fs).map .char ++ ((s.line j).map .char ++ .char '\x7d' :: rest)

theorem endsNumber_afterField (s : Spacing) (k j : Nat) (fs : List (Text × Value Float))
    (rest : List Letter) : EndsNumber (afterField s k j fs rest) := by
  cases fs with
  | nil => exact endsNumber_line s j (.inr rfl) rest
  | cons f fs => exact endsNumber_cons (.inr (.inl rfl)) _

theorem parseFields_write (s : Spacing) (k j : Nat) (rest : List Letter) {f : Text × Value Float}
    {fs : List (Text × Value Float)} (h : ∀ g ∈ f :: fs, IsRead longest depth g.2) (room : Nat)
    (hroom : (write s k f.2).length + (writeFields s k fs).length + 1 < room) :
    parseFields longest depth room ((string f.1).map .char ++ afterName s k f.2 (afterField s k j fs rest))
      = .ok ((f :: fs).map fun g => (g.1.joined, g.2.joined), rest) := by
  induction fs generalizing f room with
  | nil =>
    obtain ⟨room, rfl⟩ := Nat.exists_eq_succ_of_ne_zero (show room ≠ 0 by omega)
    have hskip : skip (afterField s k j [] rest) = .char '\x7d' :: rest := skip_line s j _
    exact parseFields_last f.1 (h f List.mem_cons_self) (endsNumber_afterField s k j [] rest) (by omega) hskip
  | cons g fs ih =>
    obtain ⟨room, rfl⟩ := Nat.exists_eq_succ_of_ne_zero (show room ≠ 0 by omega)
    have hlength : (writeFields s k (g :: fs)).length = (s.line k).length + (string g.1).length
        + s.colon.length + (write s k g.2).length + (writeFields s k fs).length + 1 := by
      rw [writeFields]
      simp
      omega
    have hnext : afterField s k j (g :: fs) rest = .char ',' :: ((s.line k).map .char
        ++ ((string g.1).map .char ++ afterName s k g.2 (afterField s k j fs rest))) := by
      simp only [afterField, afterName, writeFields, List.map_cons, List.map_append, List.cons_append,
        List.append_assoc]
    have hskip : skip (afterField s k j (g :: fs) rest) = .char ',' :: ((s.line k).map .char
        ++ ((string g.1).map .char ++ afterName s k g.2 (afterField s k j fs rest))) := by
      rw [hnext]
      exact skip_cons rfl _
    have hname : skip ((string g.1).map .char ++ afterName s k g.2 (afterField s k j fs rest))
        = (string g.1).map .char ++ afterName s k g.2 (afterField s k j fs rest) := skip_cons rfl _
    have hpos := length_write_pos s k f.2
    rw [parseFields_more f.1 (h f List.mem_cons_self) (endsNumber_afterField s k j (g :: fs) rest)
      (by omega) hskip, skip_line, hname, ih (fun x hx => h x (List.mem_cons_of_mem _ hx)) room (by omega)]
    rfl

/-- A brace that is not closed at once opens a record with fields. -/
theorem parseValue_record {ls : List Letter} (h : ∀ tail, skip ls ≠ .char '\x7d' :: tail) (room : Nat) :
    parseValue longest (depth + 1) (room + 1) (.char '\x7b' :: ls)
      = (parseFields longest depth room (skip ls)).map fun p => (.record (laterWins p.1), p.2) := by
  rw [parseValue]
  simp only [Nat.add_one_ne_zero, if_false, Nat.add_sub_cancel]

theorem isRead_record {fs : List (Text × Value Float)} (hnames : (fs.map (·.1.joined)).Nodup)
    (h : ∀ f ∈ fs, IsRead longest depth f.2) : IsRead longest (depth + 1) (.record fs) := by
  refine .of_room fun s k room rest _ hroom => ?_
  cases fs with
  | nil => rfl
  | cons f fs =>
    have hwrite : (write s k (.record (f :: fs))).map Letter.char ++ rest = .char '\x7b' ::
        ((s.line (k + 1)).map .char
          ++ ((string f.1).map .char ++ afterName s (k + 1) f.2 (afterField s (k + 1) k fs rest))) := by
      simp only [afterName, afterField, write, List.map_cons, List.map_append, List.cons_append, List.append_assoc,
        List.map_nil, List.nil_append]
    have hlength : (write s (k + 1) f.2).length + (writeFields s (k + 1) fs).length + 1 < room := by
      rw [write] at hroom
      simp only [List.length_cons, List.length_append] at hroom
      omega
    have hname : skip ((s.line (k + 1)).map .char
          ++ ((string f.1).map .char ++ afterName s (k + 1) f.2 (afterField s (k + 1) k fs rest)))
        = (string f.1).map .char ++ afterName s (k + 1) f.2 (afterField s (k + 1) k fs rest) := by
      rw [skip_line]
      exact skip_cons rfl _
    have hopen : ∀ tail, skip ((s.line (k + 1)).map .char
        ++ ((string f.1).map .char ++ afterName s (k + 1) f.2 (afterField s (k + 1) k fs rest))) ≠ .char '\x7d' :: tail := by
      intro tail heq
      rw [hname] at heq
      exact absurd (List.cons.inj heq).1 (by decide)
    have hnodup : (((f :: fs).map fun f => (f.1.joined, f.2.joined)).map (·.1)).Nodup := by
      rwa [List.map_map]
    rw [hwrite, parseValue_record hopen, hname, parseFields_write s (k + 1) k rest h room hlength,
      Value.joined, Value.joinedFields_eq]
    show Except.ok (Value.record (laterWins _), rest) = _
    rw [laterWins_of_nodup hnodup]

/-- **A value is read as it was written.** -/
theorem isRead_of_fits {v : Value Float} (h : Fits longest depth v) : IsRead longest depth v := by
  induction h with
  | null => exact isRead_null
  | bool b => exact isRead_bool b
  | int h => exact isRead_int h
  | real x => exact isRead_real x
  | text t => exact isRead_text t
  | list _ ih => exact isRead_list ih
  | record hnames _ ih => exact isRead_record hnames ih

end

/-! ## Whole texts -/

section
variable {longest depth : Nat} {v : Value Float}

theorem readWith_write (h : Fits longest depth v) (s : Spacing) :
    readWith longest depth ((write s 0 v).map .char) = .ok v.joined := by
  have hread := isRead_of_fits h s 0 (2 * (write s 0 v).length + 2) [] endsNumber_nil (by omega)
  have hskip := skip_write s 0 v []
  rw [List.append_nil] at hread hskip
  rw [readWith, hskip, List.length_map, hread]
  rfl

/-- The value of a text by the grammar alone: no whole number has more digits
than the text has letters, and no value is nested deeper. -/
def parse (ls : List Letter) : Except Failure (Value Float) := readWith ls.length ls.length ls

theorem Fits.mono (h : Fits longest depth v) {longest' depth' : Nat} (hlongest : longest ≤ longest')
    (hdepth : depth ≤ depth') : Fits longest' depth' v := by
  induction h generalizing depth' with
  | null => exact .null
  | bool b => exact .bool b
  | int h => exact .int (h.trans hlongest)
  | real x => exact .real x
  | text t => exact .text t
  | list _ ih =>
    obtain ⟨d, rfl⟩ := Nat.exists_eq_succ_of_ne_zero (show depth' ≠ 0 by omega)
    exact .list fun v hv => ih v hv (by omega)
  | record hnames _ ih =>
    obtain ⟨d, rfl⟩ := Nat.exists_eq_succ_of_ne_zero (show depth' ≠ 0 by omega)
    exact .record hnames fun f hf => ih f hf (by omega)

theorem length_toDigits_le (n : Int) : (Nat.toDigits 10 n.natAbs).length ≤ (toString n).toList.length := by
  rw [← Figure.text_ofInt, Figure.text, List.length_append, List.length_append]
  show (Nat.toDigits 10 n.natAbs).length ≤ _ + ((Nat.toDigits 10 n.natAbs).length + _)
  omega

theorem length_write_le_items (s : Spacing) (k : Nat) {vs : List (Value Float)} (hv : v ∈ vs) :
    (write s k v).length ≤ (writeItems s k vs).length := by
  induction vs with
  | nil => exact absurd hv List.not_mem_nil
  | cons w vs ih =>
    rw [writeItems, List.length_append, List.length_append]
    rcases List.mem_cons.1 hv with rfl | hv
    · omega
    · have := ih hv
      omega

theorem length_write_lt_list (s : Spacing) (k : Nat) {vs : List (Value Float)} (hv : v ∈ vs) :
    (write s (k + 1) v).length < (write s k (.list vs)).length := by
  cases vs with
  | nil => exact absurd hv List.not_mem_nil
  | cons w vs =>
    rw [write]
    simp only [List.length_append, List.length_cons]
    rcases List.mem_cons.1 hv with rfl | hv
    · omega
    · have := length_write_le_items s (k + 1) hv
      omega

theorem length_write_le_fields (s : Spacing) (k : Nat) {fs : List (Text × Value Float)}
    {f : Text × Value Float} (hf : f ∈ fs) : (write s k f.2).length ≤ (writeFields s k fs).length := by
  induction fs with
  | nil => exact absurd hf List.not_mem_nil
  | cons g fs ih =>
    rw [writeFields, List.length_append, List.length_append]
    rcases List.mem_cons.1 hf with rfl | hf
    · omega
    · have := ih hf
      omega

theorem length_write_lt_record (s : Spacing) (k : Nat) {fs : List (Text × Value Float)}
    {f : Text × Value Float} (hf : f ∈ fs) : (write s (k + 1) f.2).length < (write s k (.record fs)).length := by
  cases fs with
  | nil => exact absurd hf List.not_mem_nil
  | cons g fs =>
    rw [write]
    simp only [List.length_append, List.length_cons]
    rcases List.mem_cons.1 hf with rfl | hf
    · omega
    · have := length_write_le_fields s (k + 1) hf
      omega

/-- The text of a value is longer than its numbers, and longer than the value
is deep. -/
theorem Fits.of_write (h : Fits longest depth v) (s : Spacing) (k : Nat) :
    Fits (write s k v).length (write s k v).length v := by
  induction h generalizing k with
  | null => exact .null
  | bool b => exact .bool b
  | int h => exact .int (length_toDigits_le _)
  | real x => exact .real x
  | text t => exact .text t
  | @list d vs _ ih =>
    obtain ⟨room, hroom⟩ := Nat.exists_eq_succ_of_ne_zero (length_write_pos s k (.list vs)).ne'
    rw [hroom]
    refine .list fun v hv => (ih v hv (k + 1)).mono ?_ ?_ <;>
      · have := length_write_lt_list s k hv
        omega
  | @record d fs hnames _ ih =>
    obtain ⟨room, hroom⟩ := Nat.exists_eq_succ_of_ne_zero (length_write_pos s k (.record fs)).ne'
    rw [hroom]
    refine .record hnames fun f hf => (ih f hf (k + 1)).mono ?_ ?_ <;>
      · have := length_write_lt_record s k hf
        omega

/-- **By the grammar alone, a value is read as it was written.** -/
theorem parse_write (h : Fits longest depth v) (s : Spacing) :
    parse ((write s 0 v).map .char) = .ok v.joined := by
  rw [parse, List.length_map]
  exact readWith_write (h.of_write s 0) s

end

mutual
/-- A value is written as the one it is read as. -/
theorem write_joined (s : Spacing) : ∀ (k : Nat) (v : Value Float), write s k v.joined = write s k v
  | _, .null | _, .bool _ | _, .int _ | _, .real _ => by rw [Value.joined]
  | _, .text t => by rw [Value.joined, write, write, string_joined]
  | _, .list [] => by rw [Value.joined, Value.joinedItems]
  | k, .list (v :: vs) => by
    rw [Value.joined, Value.joinedItems, write, write, write_joined s (k + 1) v,
      writeItems_joined s (k + 1) vs]
  | _, .record [] => by rw [Value.joined, Value.joinedFields]
  | k, .record ((name, v) :: fs) => by
    rw [Value.joined, Value.joinedFields, write, write, string_joined, write_joined s (k + 1) v,
      writeFields_joined s (k + 1) fs]

theorem writeItems_joined (s : Spacing) :
    ∀ (k : Nat) (vs : List (Value Float)), writeItems s k (Value.joinedItems vs) = writeItems s k vs
  | _, [] => by rw [Value.joinedItems]
  | k, v :: vs => by
    rw [Value.joinedItems, writeItems, writeItems, write_joined s k v, writeItems_joined s k vs]

theorem writeFields_joined (s : Spacing) : ∀ (k : Nat) (fs : List (Text × Value Float)),
    writeFields s k (Value.joinedFields fs) = writeFields s k fs
  | _, [] => by rw [Value.joinedFields]
  | k, (name, v) :: fs => by
    rw [Value.joinedFields, writeFields, writeFields, string_joined, write_joined s k v,
      writeFields_joined s k fs]
end

end Json
end PlotDigitizer
