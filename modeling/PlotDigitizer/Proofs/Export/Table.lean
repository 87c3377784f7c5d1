/-
What a table tells of its curves.

A table is lines, a curve is its lines up to a blank one, and a line is a label
and two numbers. Where no label holds a line end, the lines, the curves and the
parts of a line can be told apart again: a number holds no comma, so the last
two separators of a line are its own, whatever the label is. Two tables are
then the same text exactly if they are of curves with the same labels and with
coordinates that stand for the same numbers (`csv_eq_iff`).

A label with a line end in it can hold lines of a curve (`csv_lineInLabel`), so
among all labels there are tables that tell nothing apart (`csv_ambiguous`).
-/
import PlotDigitizer.Export.Labeled
import PlotDigitizer.Proofs.Json.Numbers
import PlotDigitizer.Proofs.Success

namespace PlotDigitizer

/-! ## Separated lists -/

section
variable {β γ δ : Type} {a : β}

/-- A list is split at the first separator in one way. -/
theorem append_cons_inj {x y z w : List β} (hx : a ∉ x) (hy : a ∉ y) (h : x ++ a :: z = y ++ a :: w) :
    x = y ∧ z = w := by
  induction x generalizing y with
  | nil =>
    cases y with
    | nil => exact ⟨rfl, (List.cons.inj h).2⟩
    | cons b y => exact absurd ((List.cons.inj h).1 ▸ List.mem_cons_self) hy
  | cons b x ih =>
    cases y with
    | nil => exact absurd ((List.cons.inj h).1 ▸ List.mem_cons_self) hx
    | cons c y =>
      obtain ⟨rfl, htail⟩ := List.cons.inj h
      obtain ⟨rfl, rfl⟩ := ih (List.not_mem_of_not_mem_cons hx) (List.not_mem_of_not_mem_cons hy) htail
      exact ⟨rfl, rfl⟩

/-- A list is split at the last separator in one way. -/
theorem append_cons_inj_last {x y z w : List β} (hz : a ∉ z) (hw : a ∉ w) (h : x ++ a :: z = y ++ a :: w) :
    x = y ∧ z = w := by
  have hreverse := congrArg List.reverse h
  simp only [List.reverse_append, List.reverse_cons, List.append_assoc, List.singleton_append] at hreverse
  obtain ⟨hzw, hxy⟩ := append_cons_inj (by rwa [List.mem_reverse]) (by rwa [List.mem_reverse]) hreverse
  exact ⟨List.reverse_injective hxy, List.reverse_injective hzw⟩

/-- Lists that a separator ends are told apart. -/
theorem flatMap_end_inj {xs ys : List (List β)} (hxs : ∀ x ∈ xs, a ∉ x) (hys : ∀ y ∈ ys, a ∉ y) :
    xs.flatMap (· ++ [a]) = ys.flatMap (· ++ [a]) ↔ xs = ys := by
  refine ⟨fun h => ?_, fun h => by rw [h]⟩
  induction xs generalizing ys with
  | nil =>
    cases ys with
    | nil => rfl
    | cons y ys => simp at h
  | cons x xs ih =>
    cases ys with
    | nil => simp at h
    | cons y ys =>
      rw [List.forall_mem_cons] at hxs hys
      rw [List.flatMap_cons, List.flatMap_cons, List.append_assoc, List.append_assoc] at h
      obtain ⟨rfl, htail⟩ := append_cons_inj hxs.1 hys.1 h
      rw [ih hxs.2 hys.2 htail]

/-- Lists have the same images if their members do, one by one. -/
theorem map_eq_map_iff_forall₂ {f : β → δ} {g : γ → δ} {R : β → γ → Prop} {xs : List β} {ys : List γ}
    (h : ∀ x ∈ xs, ∀ y ∈ ys, f x = g y ↔ R x y) : xs.map f = ys.map g ↔ List.Forall₂ R xs ys := by
  induction xs generalizing ys with
  | nil => cases ys <;> simp
  | cons x xs ih =>
    cases ys with
    | nil => simp
    | cons y ys =>
      rw [List.map_cons, List.map_cons, List.cons.injEq, List.forall₂_cons,
        h x List.mem_cons_self y List.mem_cons_self,
        ih fun x hx y hy => h x (List.mem_cons_of_mem _ hx) y (List.mem_cons_of_mem _ hy)]

end

namespace Text

theorem letters_injective : Function.Injective letters := fun t u h => by
  cases t
  cases u
  rw [Text.mk.injEq]
  exact h

/-- Texts without line ends are told apart as lines. -/
theorem unlines_inj {ts us : List Text} (hts : ∀ t ∈ ts, .char '\n' ∉ t.letters)
    (hus : ∀ u ∈ us, .char '\n' ∉ u.letters) : unlines ts = unlines us ↔ ts = us := by
  have hends (vs : List Text) : unlines vs = ⟨(vs.map letters).flatMap (· ++ [.char '\n'])⟩ := by
    rw [unlines, List.flatMap_map]
  rw [hends, hends, Text.mk.injEq, flatMap_end_inj (List.forall_mem_map.2 hts) (List.forall_mem_map.2 hus),
    letters_injective.list_map.eq_iff]

end Text

/-! ## Numbers -/

namespace Binary64

theorem value_of_toInt? {x : Float} {n : Int} (h : toInt? x = some n) : value x = n := by
  rw [toInt?] at h
  split at h
  · rename_i negative m e hparts
    obtain ⟨k, hk, rfl⟩ := Option.map_eq_some_iff.1 h
    have hvalue : (m : ℚ) * 2 ^ e = k := by
      split at hk
      · rename_i hle
        rw [← Option.some.inj hk, Nat.shiftLeft_eq, ← Int.toNat_of_nonneg hle]
        push_cast
        rw [zpow_natCast, Int.toNat_natCast]
      · rename_i hlt
        split at hk
        · rename_i hwhole
          rw [Option.some.inj hk, Nat.shiftLeft_eq] at hwhole
          have he : e = -((-e).toNat : Int) := by omega
          rw [← hwhole, he, zpow_neg, zpow_natCast, ← he]
          push_cast
          exact mul_inv_cancel_right₀ (by positivity) _
        · exact absurd hk (by simp)
    rw [value_of_parts hparts]
    cases negative <;> simp [hvalue]
  · exact absurd h (by simp)

theorem toInt?_of_value_zero {x : Float} (hx : isFinite x = true) (h : value x = 0) :
    toInt? x = some 0 := by
  obtain ⟨negative, m, e, hparts⟩ := isFinite_iff.1 hx
  have hm : m = 0 := by
    rw [value_of_parts hparts, mul_eq_zero_iff_right (two_zpow_pos e).ne'] at h
    cases negative <;> simpa using h
  subst hm
  rw [toInt?, hparts]
  cases negative <;> simp

end Binary64

namespace Labeled

open Binary64 (isFinite value)

section
variable {x y : Float}

/-- The cell of a number is a figure. -/
theorem exists_cell_figure (hx : isFinite x = true) :
    ∃ f : Json.Figure, f.IsProper ∧ f.text = (cell x).toList := by
  rw [cell]
  split
  · rename_i n _
    exact ⟨_, Json.Figure.isProper_ofInt n, Json.Figure.text_ofInt n⟩
  · obtain ⟨f, hf, htext⟩ := Json.exists_isOf .plain hx
    exact ⟨f, hf.isProper, htext⟩

theorem not_mem_cell (hx : isFinite x = true) {c : Char} (hdigit : Numeral.isDigit c = false)
    (hc : c ∉ ['-', '+', '.', 'e']) : .char c ∉ (cell x : Text).letters := by
  intro hmem
  obtain ⟨f, hf, htext⟩ := exists_cell_figure hx
  obtain ⟨c', hc', heq⟩ := List.mem_map.1 hmem
  rw [Letter.char.inj heq, ← htext] at hc'
  rcases hf.mem_text hc' with h | h
  · rw [hdigit] at h
    exact Bool.noConfusion h
  · exact hc h

/-- What a cell is read as: the whole number that the double is, or the double. -/
theorem number_cell (hx : isFinite x = true) : ∃ v : Value Float,
    (∃ longest, ∀ longest', longest ≤ longest' →
      Json.number longest' ((cell x).toList.map .char) = .ok (v, [])) ∧
    ((∃ n : Int, v = .int n ∧ value x = n) ∨ v = .real x) := by
  have hends : Json.EndsNumber [] := by rintro _ _ ⟨⟩
  rw [cell]
  split
  · rename_i n hn
    refine ⟨.int n, ⟨(Nat.toDigits 10 n.natAbs).length, fun longest hlongest => ?_⟩,
      .inl ⟨n, rfl, Binary64.value_of_toInt? hn⟩⟩
    simpa using Json.number_int n hends hlongest
  · refine ⟨.real x, ⟨0, fun longest _ => ?_⟩, .inr rfl⟩
    simpa using Json.number_double .plain hx hends longest

/-- **A cell tells its number.** -/
theorem value_eq_of_cell_eq (hx : isFinite x = true) (hy : isFinite y = true) (h : cell x = cell y) :
    value x = value y := by
  obtain ⟨v, ⟨longest, hv⟩, hvx⟩ := number_cell hx
  obtain ⟨w, ⟨longest', hw⟩, hwy⟩ := number_cell hy
  have hread := hv (max longest longest') (le_max_left _ _)
  rw [h, hw _ (le_max_right _ _), Except.ok.injEq, Prod.mk.injEq] at hread
  obtain ⟨rfl, -⟩ := hread
  rcases hvx with ⟨n, rfl, hn⟩ | rfl
  · rcases hwy with ⟨n', heq, hn'⟩ | heq
    · rw [hn, hn', Value.int.inj heq]
    · cases heq
  · rcases hwy with ⟨n', heq, hn'⟩ | heq
    · cases heq
    · rw [Value.real.inj heq]

theorem cell_eq_iff (hx : isFinite x = true) (hy : isFinite y = true) :
    cell x = cell y ↔ value x = value y := by
  refine ⟨value_eq_of_cell_eq hx hy, fun h => ?_⟩
  by_cases hzero : value x = 0
  · rw [cell, cell, Binary64.toInt?_of_value_zero hx hzero,
      Binary64.toInt?_of_value_zero hy (h.symm.trans hzero)]
  · rw [Binary64.eq_of_value_eq hx hy h hzero]

end

/-! ## Lines -/

/-- Points whose coordinates are numbers. -/
def IsNumeric (p : Point Float) : Prop := isFinite p.x = true ∧ isFinite p.y = true

instance : DecidablePred IsNumeric := fun _ => inferInstanceAs (Decidable (_ ∧ _))

/-- Points whose coordinates are the same numbers. -/
def SamePlace (p q : Point Float) : Prop := value p.x = value q.x ∧ value p.y = value q.y

/-- The line of a point. -/
def row (label : Text) (p : Point Float) : Text := label ++ ", " ++ cell p.x ++ ", " ++ cell p.y

/-- The lines of a curve, without the blank one. -/
def rows (c : Labeled Text Float) : List Text := c.points.map (row c.label)

theorem lines_eq (c : Labeled Text Float) : c.lines = c.rows ++ [("" : Text)] := rfl

theorem letters_row (label : Text) (p : Point Float) : (row label p).letters =
    (label.letters ++ .char ',' :: .char ' ' :: (cell p.x : Text).letters)
      ++ .char ',' :: .char ' ' :: (cell p.y : Text).letters := by
  have hseparator : (Text.ofString ", ").letters = [.char ',', .char ' '] := rfl
  simp only [row, Text.letters_append, hseparator, List.append_assoc, List.cons_append, List.nil_append]

theorem cell_inj {x y : Float} (h : (cell x : Text).letters = (cell y : Text).letters) : cell x = cell y :=
  Text.ofString_inj.1 (Text.letters_injective h)

/-- **A line tells its label and its numbers.** -/
theorem row_eq_iff {label label' : Text} {p q : Point Float} (hp : IsNumeric p) (hq : IsNumeric q) :
    row label p = row label' q ↔ label = label' ∧ SamePlace p q := by
  have hcomma {x : Float} (hx : isFinite x = true) :
      Letter.char ',' ∉ .char ' ' :: (cell x : Text).letters :=
    List.not_mem_cons_of_ne_of_not_mem (by decide) (not_mem_cell hx rfl (by decide))
  constructor
  · intro h
    have hletters := congrArg Text.letters h
    rw [letters_row, letters_row] at hletters
    obtain ⟨hleft, hy⟩ := append_cons_inj_last (hcomma hp.2) (hcomma hq.2) hletters
    obtain ⟨hlabel, hx⟩ := append_cons_inj_last (hcomma hp.1) (hcomma hq.1) hleft
    exact ⟨Text.letters_injective hlabel,
      (cell_eq_iff hp.1 hq.1).1 (cell_inj (List.cons.inj hx).2),
      (cell_eq_iff hp.2 hq.2).1 (cell_inj (List.cons.inj hy).2)⟩
  · rintro ⟨rfl, hx, hy⟩
    rw [row, row, (cell_eq_iff hp.1 hq.1).2 hx, (cell_eq_iff hp.2 hq.2).2 hy]

theorem row_ne_blank (label : Text) (p : Point Float) : row label p ≠ ("" : Text) := by
  intro h
  have hletters := congrArg Text.letters h
  rw [letters_row] at hletters
  exact absurd hletters (by simp [Text.ofString])

theorem blank_not_mem_rows (c : Labeled Text Float) : ("" : Text) ∉ c.rows := by
  intro h
  obtain ⟨p, -, hp⟩ := List.mem_map.1 h
  exact row_ne_blank c.label p hp

/-! ## Tables -/

/-- A curve that has points, with numbers for coordinates, and a label without
a line end. -/
structure IsPlain (c : Labeled Text Float) : Prop where
  label : .char '\n' ∉ c.label.letters
  points_ne_nil : c.points ≠ []
  numeric : ∀ p ∈ c.points, IsNumeric p

/-- Curves with the same label and, point by point, the same numbers. -/
structure Agrees (c d : Labeled Text Float) : Prop where
  label : c.label = d.label
  points : List.Forall₂ SamePlace c.points d.points

section
variable {c d : Labeled Text Float}

theorem IsPlain.lineEnd_not_mem_lines (hc : IsPlain c) :
    ∀ t ∈ c.lines, Letter.char '\n' ∉ t.letters := by
  rw [lines_eq, List.forall_mem_append, rows, List.forall_mem_map, List.forall_mem_singleton]
  refine ⟨fun p hp => ?_, List.not_mem_nil⟩
  have hcell {x : Float} (hx : isFinite x = true) : Letter.char '\n' ∉ (cell x : Text).letters :=
    not_mem_cell hx rfl (by decide)
  have hnumeric := hc.numeric p hp
  simp [letters_row, hc.label, hcell hnumeric.1, hcell hnumeric.2]

/-- The lines of a curve tell the curve. -/
theorem rows_eq_iff (hc : IsPlain c) (hd : IsPlain d) : c.rows = d.rows ↔ Agrees c d := by
  rw [rows, rows, map_eq_map_iff_forall₂ (R := fun p q => c.label = d.label ∧ SamePlace p q)
    fun p hp q hq => row_eq_iff (hc.numeric p hp) (hd.numeric q hq)]
  constructor
  · intro h
    obtain ⟨p, ps, hps⟩ := List.exists_cons_of_ne_nil hc.points_ne_nil
    refine ⟨?_, h.imp fun _ _ => And.right⟩
    rw [hps] at h
    obtain ⟨q, qs, hfirst, -, -⟩ := List.forall₂_cons_left_iff.1 h
    exact hfirst.1
  · exact fun h => h.points.imp fun _ _ hpq => ⟨h.label, hpq⟩

end

/-- **A table tells its curves.** Curves that have points, with numbers for
coordinates, and labels without line ends make the same table exactly if they
are as many, with the same labels and with the same numbers. -/
theorem csv_eq_iff {cs ds : List (Labeled Text Float)} (hcs : ∀ c ∈ cs, IsPlain c)
    (hds : ∀ d ∈ ds, IsPlain d) : csv cs = csv ds ↔ List.Forall₂ Agrees cs ds := by
  have hheader : Letter.char '\n' ∉ (header : Text).letters := by decide
  have hlines {es : List (Labeled Text Float)} (hes : ∀ e ∈ es, IsPlain e) :
      ∀ t ∈ (header : Text) :: es.flatMap lines, Letter.char '\n' ∉ t.letters := by
    rw [List.forall_mem_cons, List.forall_mem_flatMap]
    exact ⟨hheader, fun e he => (hes e he).lineEnd_not_mem_lines⟩
  have hrows (es : List (Labeled Text Float)) :
      es.flatMap lines = (es.map rows).flatMap (· ++ [("" : Text)]) := by
    rw [List.flatMap_map]
    rfl
  rw [csv, csv, Text.unlines_inj (hlines hcs) (hlines hds), List.cons.injEq, eq_self, true_and, hrows, hrows,
    flatMap_end_inj (List.forall_mem_map.2 fun c _ => blank_not_mem_rows c)
      (List.forall_mem_map.2 fun d _ => blank_not_mem_rows d),
    map_eq_map_iff_forall₂ fun c hc d hd => rows_eq_iff (hcs c hc) (hds d hd)]

/-- A curve with separators in its label, at the zero with a minus sign. -/
def minusZero : Labeled Text Float := ⟨"a, 0, 0", [⟨-0.0, 0.5⟩], 0⟩

def plusZero : Labeled Text Float := ⟨"a, 0, 0", [⟨0, 0.5⟩], 0⟩

/-- Labels may hold separators, and zeros are one number. -/
theorem csv_eq_iff_zeros : (∀ c ∈ [minusZero], IsPlain c) ∧ (∀ d ∈ [plusZero], IsPlain d) ∧
    (csv [minusZero] = csv [plusZero] ↔ List.Forall₂ Agrees [minusZero] [plusZero]) := by
  have hminus : ∀ c ∈ [minusZero], IsPlain c := by
    rw [List.forall_mem_singleton]
    exact ⟨by decide, by simp [minusZero], by decide +kernel⟩
  have hplus : ∀ c ∈ [plusZero], IsPlain c := by
    rw [List.forall_mem_singleton]
    exact ⟨by decide, by simp [plusZero], by decide +kernel⟩
  exact ⟨hminus, hplus, csv_eq_iff hminus hplus⟩

/-! ## Lines in labels -/

/-- The label that holds a line of a curve before the curve's label. -/
def lineInLabel (label : Text) (p : Point Float) : Text := row label p ++ "\n" ++ label

/-- **A line in a label is taken for a line of the curve.** -/
theorem csv_lineInLabel (label : Text) (p q : Point Float) (i j : Int) :
    csv [⟨label, [p, q], i⟩] = csv [⟨lineInLabel label p, [q], j⟩] := by
  have hend : (Text.ofString "\n").letters = [.char '\n'] := rfl
  refine Text.letters_injective ?_
  simp [csv, Text.unlines, lines_eq, rows, letters_row, lineInLabel, hend]

/-- Curves without points are left out of an export. -/
theorem points_ne_nil_of_label {c : Calibrator Float} {selections : List (Text × Curve Float)}
    {curves : List (Labeled Text Float)} (h : c.label selections = .ok curves) :
    ∀ l ∈ curves, l.points ≠ [] := by
  rw [Calibrator.label] at h
  split at h
  · cases h
  · obtain ⟨s, -, hcurves⟩ := bind_eq_ok.1 h
    cases hcurves
    intro l hl
    obtain ⟨⟨label, curve⟩, -, hselected⟩ := List.mem_filterMap.1 hl
    dsimp only at hselected
    split at hselected
    · cases hselected
    · cases hselected
    · rename_i hempty _
      obtain rfl := Option.some.inj hselected
      exact hempty

/-- Curves that an export has prepared, with numbers for coordinates. -/
structure IsPrepared (curves : List (Labeled Text Float)) : Prop where
  labeled : ∃ (c : Calibrator Float) (selections : List (Text × Curve Float)), c.label selections = .ok curves
  numeric : ∀ c ∈ curves, ∀ p ∈ c.points, IsNumeric p

/-- Prepared curves are told by their table, if their labels have no line ends. -/
theorem IsPrepared.isPlain {curves : List (Labeled Text Float)} (h : IsPrepared curves)
    (hlabels : ∀ c ∈ curves, .char '\n' ∉ c.label.letters) : ∀ c ∈ curves, IsPlain c := by
  obtain ⟨⟨_, _, hlabel⟩, hnumeric⟩ := h
  exact fun c hc => ⟨hlabels c hc, points_ne_nil_of_label hlabel c hc, hnumeric c hc⟩

/-- A chart that is calibrated to its own coordinates. -/
def unitSquare : Calibrator Float where
  x := ⟨some ⟨0, 0, 1, 1⟩, some 0, some 1⟩
  y := ⟨some ⟨0, 0, 1, 1⟩, some 0, some 1⟩

/-- Two points under one label. -/
def twoPoints : List (Labeled Text Float) := [⟨"a", [⟨0, 0⟩, ⟨1, 1⟩], 0⟩]

/-- The second point under a label that holds the line of the first. -/
def onePoint : List (Labeled Text Float) := [⟨"a, 0, 0\na", [⟨1, 1⟩], 1⟩]

theorem isPrepared_twoPoints : IsPrepared twoPoints where
  labeled := ⟨unitSquare, [("a", { points := [⟨0, 0⟩, ⟨1, 1⟩] })], rfl⟩
  numeric := by decide +kernel

theorem isPrepared_onePoint : IsPrepared onePoint where
  labeled := ⟨unitSquare, [("a, 0, 0\na", { points := [⟨1, 1⟩], index := 1 })], rfl⟩
  numeric := by decide +kernel

/-- Prepared curves that differ in their labels and in the number of their
points make the same table. -/
theorem csv_ambiguous : ¬∀ cs ds : List (Labeled Text Float), IsPrepared cs → IsPrepared ds →
    csv cs = csv ds → List.Forall₂ Agrees cs ds := by
  intro h
  have hlabel : lineInLabel "a" ⟨0, 0⟩ = ("a, 0, 0\na" : Text) := by decide +kernel
  have hcsv : csv twoPoints = csv onePoint := by
    rw [twoPoints, csv_lineInLabel "a" ⟨0, 0⟩ ⟨1, 1⟩ 0 1, hlabel]
    rfl
  obtain ⟨hagrees, -⟩ := List.forall₂_cons.1 (h _ _ isPrepared_twoPoints isPrepared_onePoint hcsv)
  exact absurd hagrees.label (by decide)

end Labeled
end PlotDigitizer
