/-
Saving and restoring bracket the map in force.

Operators are processed one after another, and one that is stopped does not stop
those after it (`Canvas.processEach`). An operator saves the map in force,
restores one, or changes it, or does nothing to the maps, whatever else it does
and whether or not it is stopped. So operators that are balanced leave what is
saved as they find it (`saved_of_isBalanced`), and the map in force is made of
the changes that are not enclosed between saving and restoring
(`Spelled.inForce`).
-/
import PlotDigitizer.Proofs.Drawing.Leftover
import PlotDigitizer.Proofs.Drawing.Stopped

namespace PlotDigitizer

section
variable {α : Type}

/-! ## Brackets -/

namespace Spelled

def saves (o : Spelled α) : Bool := Operator.ofValue? o.opcode == some .save

def restores (o : Spelled α) : Bool := Operator.ofValue? o.opcode == some .restore

/-- In no first part of some operators do more restore than save. -/
def NeverMoreRestored (ops : List (Spelled α)) : Prop :=
  ∀ n ≤ ops.length, (ops.take n).countP restores ≤ (ops.take n).countP saves

/-- Nor do more save than restore, in all. -/
structure IsBalanced (ops : List (Spelled α)) : Prop where
  never : NeverMoreRestored ops
  total : ops.countP restores = ops.countP saves

instance (ops : List (Spelled α)) : Decidable (NeverMoreRestored ops) :=
  inferInstanceAs (Decidable (∀ n ≤ ops.length, _))

instance (ops : List (Spelled α)) : Decidable (IsBalanced ops) :=
  decidable_of_iff (NeverMoreRestored ops ∧ ops.countP restores = ops.countP saves)
    ⟨fun h => ⟨h.1, h.2⟩, fun h => ⟨h.never, h.total⟩⟩

/-- What the operator at `i` saves, the one at `j` restores: between them the
operators are balanced. -/
structure IsPair (ops : List (Spelled α)) (i j : Nat) : Prop where
  opens : ops[i]?.any saves = true
  closes : ops[j]?.any restores = true
  between : IsBalanced ((ops.take j).drop (i + 1))

instance (ops : List (Spelled α)) (i j : Nat) : Decidable (IsPair ops i j) :=
  decidable_of_iff (ops[i]?.any saves = true ∧ ops[j]?.any restores = true ∧
      IsBalanced ((ops.take j).drop (i + 1)))
    ⟨fun h => ⟨h.1, h.2.1, h.2.2⟩, fun h => ⟨h.opens, h.closes, h.between⟩⟩

/-- The operator at `k` stands between one that saves and one that restores what
that saved. -/
def IsEnclosed (ops : List (Spelled α)) (k : Nat) : Prop :=
  ∃ i < k, ∃ j < ops.length, k < j ∧ IsPair ops i j

instance (ops : List (Spelled α)) (k : Nat) : Decidable (IsEnclosed ops k) :=
  inferInstanceAs (Decidable (∃ i < k, ∃ j < ops.length, _))

theorem restores_of_saves {o : Spelled α} (h : o.saves = true) : o.restores = false := by
  have hop : Operator.ofValue? o.opcode = some .save := beq_iff_eq.1 h
  rw [restores, hop]
  rfl

theorem saves_of_restores {o : Spelled α} (h : o.restores = true) : o.saves = false := by
  have hop : Operator.ofValue? o.opcode = some .restore := beq_iff_eq.1 h
  rw [saves, hop]
  rfl

/-! ## Balanced operators -/

section
variable {ops ops' : List (Spelled α)} {o opening closing : Spelled α}

theorem NeverMoreRestored.take (h : NeverMoreRestored ops) (n : Nat) :
    (ops.take n).countP restores ≤ (ops.take n).countP saves := by
  rcases Nat.le_total n ops.length with hn | hn
  · exact h n hn
  · rw [List.take_of_length_le hn]
    simpa using h ops.length le_rfl

theorem NeverMoreRestored.total (h : NeverMoreRestored ops) :
    ops.countP restores ≤ ops.countP saves := by
  simpa using h.take ops.length

theorem NeverMoreRestored.append (h : NeverMoreRestored ops) (h' : NeverMoreRestored ops') :
    NeverMoreRestored (ops ++ ops') := by
  intro n _
  have hops := h.take n
  have hops' := h'.take (n - ops.length)
  simp only [List.take_append, List.countP_append]
  omega

theorem neverMoreRestored_concat : NeverMoreRestored (ops ++ [o]) ↔ NeverMoreRestored ops ∧
    (ops ++ [o]).countP restores ≤ (ops ++ [o]).countP saves := by
  constructor
  · intro h
    refine ⟨fun n hn => ?_, h.total⟩
    have htake := h.take n
    rwa [List.take_append_of_le_length hn] at htake
  · rintro ⟨h, htotal⟩ n hn
    rcases Nat.lt_or_ge ops.length n with hlt | hle
    · rwa [List.take_of_length_le (by rw [List.length_append]; exact hlt)]
    · rw [List.take_append_of_le_length hle]
      exact h n hle

theorem isBalanced_nil : IsBalanced ([] : List (Spelled α)) :=
  ⟨fun _ _ => by simp, rfl⟩

theorem IsBalanced.append (h : IsBalanced ops) (h' : IsBalanced ops') : IsBalanced (ops ++ ops') :=
  ⟨h.never.append h'.never, by rw [List.countP_append, List.countP_append, h.total, h'.total]⟩

theorem neverMoreRestored_singleton (hr : o.restores = false) : NeverMoreRestored [o] := by
  have hconcat : NeverMoreRestored ([] ++ [o]) :=
    neverMoreRestored_concat.2 ⟨isBalanced_nil.never, by simp [hr]⟩
  exact hconcat

/-- An operator that neither saves nor restores is balanced by itself. -/
theorem isBalanced_singleton (hs : o.saves = false) (hr : o.restores = false) : IsBalanced [o] :=
  ⟨neverMoreRestored_singleton hr, by simp [hs, hr]⟩

theorem IsBalanced.bracketed (ho : opening.saves = true) (hc : closing.restores = true)
    (h : IsBalanced ops) : IsBalanced (opening :: ops ++ [closing]) := by
  have hs := saves_of_restores hc
  have hopened : NeverMoreRestored (opening :: ops) := by
    intro n _
    cases n with
    | zero => simp
    | succ n =>
      have hops := h.never.take n
      simp only [List.take_succ_cons, List.countP_cons, ho, if_true]
      split <;> omega
  have hr := restores_of_saves ho
  have htotal : (opening :: ops ++ [closing]).countP restores
      = (opening :: ops ++ [closing]).countP saves := by
    simp [ho, hc, hs, hr, h.total]
  exact ⟨neverMoreRestored_concat.2 ⟨hopened, htotal.le⟩, htotal⟩

/-! ## Enclosed operators -/

/-- What follows some operators restores nothing that they saved, if in no part
of it are more restored than saved. -/
theorem not_isPair_of_never (h : NeverMoreRestored ops') {i j : Nat} (hi : i < ops.length)
    (hj : ops.length ≤ j) : ¬IsPair (ops ++ ops') i j := by
  rintro ⟨-, hcloses, hbetween⟩
  obtain ⟨m, rfl⟩ := Nat.exists_eq_add_of_le hj
  rw [List.getElem?_append_right hj, Nat.add_sub_cancel_left, Option.any_eq_true] at hcloses
  obtain ⟨closing, hclosing, hrestores⟩ := hcloses
  have hsplit : ((ops ++ ops').take (ops.length + m)).drop (i + 1)
      = ops.drop (i + 1) ++ ops'.take m := by
    rw [List.take_length_add_append, List.drop_append_of_le_length hi]
  rw [hsplit] at hbetween
  -- No more are restored than saved in the rest of `ops`, and fewer in what stands before `closing`.
  have hbefore := hbetween.never.take (ops.drop (i + 1)).length
  have hafter := h.take (m + 1)
  have htotal := hbetween.total
  rw [List.take_left] at hbefore
  rw [List.take_add_one, hclosing] at hafter
  simp [hrestores, saves_of_restores hrestores] at hafter htotal
  omega

/-- What follows operators encloses none of them if it restores nothing that they
saved. -/
theorem isEnclosed_append (h : ∀ i < ops.length, ∀ j, ops.length ≤ j → ¬IsPair (ops ++ ops') i j)
    {k : Nat} (hk : k < ops.length) : IsEnclosed (ops ++ ops') k ↔ IsEnclosed ops k := by
  have hpair {i j : Nat} (hi : i < ops.length) (hj : j < ops.length) :
      IsPair (ops ++ ops') i j ↔ IsPair ops i j := by
    constructor
    · rintro ⟨hopens, hcloses, hbetween⟩
      rw [List.getElem?_append_left hi] at hopens
      rw [List.getElem?_append_left hj] at hcloses
      rw [List.take_append_of_le_length hj.le] at hbetween
      exact ⟨hopens, hcloses, hbetween⟩
    · rintro ⟨hopens, hcloses, hbetween⟩
      rw [← List.getElem?_append_left hi] at hopens
      rw [← List.getElem?_append_left hj] at hcloses
      rw [← List.take_append_of_le_length hj.le] at hbetween
      exact ⟨hopens, hcloses, hbetween⟩
  constructor
  · rintro ⟨i, hik, j, -, hkj, hij⟩
    have hi := hik.trans hk
    have hj : j < ops.length := by
      by_contra hj
      exact h i hi j (not_lt.1 hj) hij
    exact ⟨i, hik, j, hj, hkj, (hpair hi hj).1 hij⟩
  · rintro ⟨i, hik, j, hj, hkj, hij⟩
    refine ⟨i, hik, j, ?_, hkj, (hpair (hik.trans hk) hj).2 hij⟩
    rw [List.length_append]
    exact Nat.lt_add_right _ hj

end

/-! ## Changes in force -/

section
variable [Reading α] {ops inner : List (Spelled α)} {o opening closing : Spelled α}

/-- The map by which an operator changes the one in force, if its arguments make
one. -/
def change? (o : Spelled α) : Option (Affine α) :=
  match Operator.ofValue? o.opcode with
  | some .transform => (Affine.ofArguments o.args).toOption
  | _ => none

/-- The maps by which operators change the one in force, in order, but for those
that are enclosed. -/
def inForce (ops : List (Spelled α)) : List (Affine α) :=
  ops.zipIdx.filterMap fun (o, k) => if IsEnclosed ops k then none else o.change?

theorem change?_of_saves (h : o.saves = true) : o.change? = none := by
  have hop : Operator.ofValue? o.opcode = some .save := beq_iff_eq.1 h
  rw [change?, hop]

theorem change?_of_restores (h : o.restores = true) : o.change? = none := by
  have hop : Operator.ofValue? o.opcode = some .restore := beq_iff_eq.1 h
  rw [change?, hop]

theorem inForce_append {ops' : List (Spelled α)}
    (h : ∀ i < ops.length, ∀ j, ops.length ≤ j → ¬IsPair (ops ++ ops') i j) :
    inForce (ops ++ ops') = inForce ops ++ (ops'.zipIdx ops.length).filterMap
      fun (o, k) => if IsEnclosed (ops ++ ops') k then none else o.change? := by
  rw [inForce, List.zipIdx_append, List.filterMap_append, Nat.zero_add]
  congr 1
  refine List.filterMap_congr fun (o, k) hmem => ?_
  have hk : k < ops.length := by simpa using (List.mem_zipIdx hmem).2.1
  simp only [isEnclosed_append h hk]

/-- An operator that restores nothing saved adds its change, if it makes one. -/
theorem inForce_concat (h : ∀ i < ops.length, ∀ j, ops.length ≤ j → ¬IsPair (ops ++ [o]) i j) :
    inForce (ops ++ [o]) = inForce ops ++ o.change?.toList := by
  have hlast : ¬IsEnclosed (ops ++ [o]) ops.length := by
    rintro ⟨i, -, j, hj, hlt, -⟩
    rw [List.length_append] at hj
    exact absurd hlt (not_lt.2 (Nat.le_of_lt_succ hj))
  rw [inForce_append h, List.zipIdx_singleton, List.filterMap_cons]
  simp only [if_neg hlast]
  cases o.change? <;> rfl

/-- Operators between saving and restoring add nothing. -/
theorem inForce_bracketed (ho : opening.saves = true) (hc : closing.restores = true)
    (h : IsBalanced inner) : inForce (ops ++ (opening :: inner ++ [closing])) = inForce ops := by
  have hbracketed := h.bracketed ho hc
  rw [inForce_append fun i hi j hj => not_isPair_of_never hbracketed.never hi hj]
  refine List.append_right_eq_self.2 (List.filterMap_eq_nil_iff.2 fun (o, k) hmem => ?_)
  obtain ⟨m, rfl⟩ := Nat.exists_eq_add_of_le (List.mem_zipIdx hmem).1
  have hm := (List.mk_mem_zipIdx_iff_le_and_getElem?_sub.1 hmem).2
  rw [Nat.add_sub_cancel_left] at hm
  rw [ite_eq_left_iff]
  intro hfree
  cases m with
  | zero =>
    obtain rfl : opening = o := Option.some.inj hm
    exact change?_of_saves ho
  | succ m =>
    rw [List.cons_append, List.getElem?_cons_succ] at hm
    rcases Nat.lt_trichotomy m inner.length with hlt | rfl | hgt
    · -- The operators at the ends are a pair around it.
      refine absurd ⟨ops.length, by omega, ops.length + (inner.length + 1), by simp, by omega, ?_⟩ hfree
      refine ⟨?_, ?_, ?_⟩
      · simp [ho]
      · simp [hc]
      · simpa [List.take_length_add_append] using h
    · obtain rfl : closing = o := by simpa using hm
      exact change?_of_restores hc
    · rw [List.getElem?_eq_none (by rw [List.length_append]; exact hgt)] at hm
      cases hm

end
end Spelled

/-! ## Processing -/

section
variable [Zero α] [Add α] [Mul α] [Reading α] {ops : List (Spelled α)} {o : Spelled α}

namespace Canvas

/-- Processes operators one after another, those after a stopped one as well. -/
def processEach (s : Canvas α) (ops : List (Spelled α)) : Canvas α :=
  ops.foldl (fun s o => (s.process o.opcode o.args).1) s

@[simp] theorem processEach_nil (s : Canvas α) : s.processEach [] = s := rfl

@[simp] theorem processEach_cons (s : Canvas α) (o : Spelled α) (ops : List (Spelled α)) :
    s.processEach (o :: ops) = (s.process o.opcode o.args).1.processEach ops := rfl

@[simp] theorem processEach_append (s : Canvas α) (ops ops' : List (Spelled α)) :
    s.processEach (ops ++ ops') = (s.processEach ops).processEach ops' := List.foldl_append

/-- Whatever is processed, the canvas changes by actions. -/
theorem exists_processed (s : Canvas α) (ops : List (Spelled α)) :
    ∃ as, s.processEach ops = s.after as := by
  induction ops generalizing s with
  | nil => exact ⟨[], rfl⟩
  | cons o ops ih =>
    have hprocess : ∃ as, (s.process o.opcode o.args).1 = s.after as := by
      rw [process]
      cases Operator.ofValue? o.opcode with
      | none => exact ⟨[], rfl⟩
      | some op => exact ⟨_, congrArg Prod.fst (apply_eq_outcome s o.args op)⟩
    obtain ⟨as, has⟩ := hprocess
    obtain ⟨bs, hbs⟩ := ih (s.process o.opcode o.args).1
    exact ⟨as ++ bs, by rw [processEach_cons, hbs, has, after_append]⟩

/-! ### What is done to the maps -/

theorem process_of_saves (h : o.saves = true) (s : Canvas α) :
    (s.process o.opcode o.args).1 = { s with saved := s.ctm :: s.saved } := by
  have hop : Operator.ofValue? o.opcode = some .save := beq_iff_eq.1 h
  rw [process, hop]
  rfl

theorem process_of_restores (h : o.restores = true) (s : Canvas α) :
    (s.process o.opcode o.args).1
      = { s with ctm := (s.ctm.restore s.saved).1, saved := (s.ctm.restore s.saved).2 } := by
  have hop : Operator.ofValue? o.opcode = some .restore := beq_iff_eq.1 h
  rw [process, hop]
  rfl

/-- Any other operator leaves what is saved, and changes the map in force by its
change, if it makes one. -/
theorem maps_of_neither (hs : o.saves = false) (hr : o.restores = false) (s : Canvas α) :
    (s.process o.opcode o.args).1.ctm = o.change?.toList.foldl Affine.comp s.ctm ∧
    (s.process o.opcode o.args).1.saved = s.saved := by
  rw [process, Spelled.change?]
  cases hop : Operator.ofValue? o.opcode with
  | none => exact ⟨rfl, rfl⟩
  | some op =>
    cases op with
    | save => simp [Spelled.saves, hop] at hs
    | restore => simp [Spelled.restores, hop] at hr
    | transform =>
      simp only [apply]
      cases Affine.ofArguments o.args <;> exact ⟨rfl, rfl⟩
    | path op =>
      have hkeeps := keeps_foldl_emit (untilFailure (op.attempts s.ctm s.pen o.args)).1 s
      exact ⟨hkeeps.ctm, hkeeps.saved⟩
    | compound =>
      obtain ⟨cs, hcs⟩ := exists_emitted_drawCompound s o.args
      have hkeeps := keeps_foldl_emit cs s
      rw [← hcs] at hkeeps
      exact ⟨hkeeps.ctm, hkeeps.saved⟩
    | paint p closes =>
      simp only [apply, paint_ctm, paint_saved]
      split <;> exact ⟨rfl, rfl⟩

/-- By its change an operator changes the map in force. -/
theorem ctm_of_change? {t : Affine α} (h : o.change? = some t) (s : Canvas α) :
    (s.process o.opcode o.args).1.ctm = s.ctm.comp t := by
  have hs : o.saves = false := by
    by_contra hs
    rw [Spelled.change?_of_saves (Bool.eq_true_of_not_eq_false hs)] at h
    cases h
  have hr : o.restores = false := by
    by_contra hr
    rw [Spelled.change?_of_restores (Bool.eq_true_of_not_eq_false hr)] at h
    cases h
  rw [(maps_of_neither hs hr s).1, h]
  rfl

/-- An operator makes a change exactly if it changes the map and is not stopped. -/
theorem isSome_change?_iff (s : Canvas α) (o : Spelled α) : o.change?.isSome = true ↔
    Operator.ofValue? o.opcode = some .transform ∧ (s.process o.opcode o.args).2 = none := by
  rw [process, Spelled.change?]
  cases Operator.ofValue? o.opcode with
  | none => simp
  | some op =>
    cases op with
    | transform =>
      simp only [apply]
      cases Affine.ofArguments o.args <;> simp [Except.toOption]
    | save | restore | path | compound | paint => simp

/-! ### Brackets -/

/-- Operators that never restore more than they save only add to what is saved. -/
theorem exists_pushed (h : Spelled.NeverMoreRestored ops) (s : Canvas α) :
    ∃ pushed, (s.processEach ops).saved = pushed ++ s.saved ∧
      pushed.length + ops.countP Spelled.restores = ops.countP Spelled.saves := by
  induction ops using List.reverseRecOn with
  | nil => exact ⟨[], rfl, rfl⟩
  | append_singleton ops o ih =>
    obtain ⟨hops, htotal⟩ := Spelled.neverMoreRestored_concat.1 h
    obtain ⟨pushed, hpushed, hlength⟩ := ih hops
    rw [processEach_append, processEach_cons, processEach_nil]
    simp only [List.countP_append, List.countP_singleton] at htotal ⊢
    cases hs : o.saves with
    | true =>
      rw [process_of_saves hs, Spelled.restores_of_saves hs]
      exact ⟨_ :: pushed, by rw [hpushed, List.cons_append], by simp; omega⟩
    | false =>
      cases hr : o.restores with
      | true =>
        rw [process_of_restores hr, hpushed]
        rw [hs, hr] at htotal
        cases pushed with
        | nil => simp at hlength htotal; omega
        | cons t pushed => exact ⟨pushed, rfl, by simp at hlength ⊢; omega⟩
      | false => exact ⟨pushed, by rw [(maps_of_neither hs hr _).2, hpushed], by simpa using hlength⟩

theorem saved_of_isBalanced (h : Spelled.IsBalanced ops) (s : Canvas α) :
    (s.processEach ops).saved = s.saved := by
  obtain ⟨pushed, hpushed, hlength⟩ := exists_pushed h.never s
  have hnil : pushed = [] := List.length_eq_zero_iff.1 (by have := h.total; omega)
  rw [hpushed, hnil, List.nil_append]

/-- **Saving and restoring** around balanced operators leaves the map in force and
what is saved. -/
theorem maps_of_bracketed {opening closing : Spelled α} (ho : opening.saves = true)
    (hc : closing.restores = true) (h : Spelled.IsBalanced ops) (s : Canvas α) :
    (s.processEach (opening :: ops ++ [closing])).ctm = s.ctm ∧
    (s.processEach (opening :: ops ++ [closing])).saved = s.saved := by
  have hsaved := saved_of_isBalanced h { s with saved := s.ctm :: s.saved }
  rw [List.cons_append, processEach_cons, process_of_saves ho, processEach_append, processEach_cons,
    processEach_nil, process_of_restores hc, hsaved]
  exact ⟨rfl, rfl⟩

/-- With nothing saved, an operator restores nothing that those before it saved. -/
theorem not_isPair_of_saved_nil {s : Canvas α} (h : (s.processEach ops).saved = []) {i j : Nat}
    (hi : i < ops.length) (hj : ops.length ≤ j) : ¬Spelled.IsPair (ops ++ [o]) i j := by
  rintro ⟨hopens, hcloses, hbetween⟩
  obtain rfl : j = ops.length := by
    by_contra hne
    rw [List.getElem?_eq_none (by rw [List.length_append]; simp; omega)] at hcloses
    cases hcloses
  rw [List.take_left] at hbetween
  rw [List.getElem?_append_left hi, List.getElem?_eq_getElem hi] at hopens
  have hsplit : ops = ops.take i ++ ops[i] :: ops.drop (i + 1) := by
    rw [← List.drop_eq_getElem_cons hi, List.take_append_drop]
  rw [hsplit, processEach_append, processEach_cons, process_of_saves hopens,
    saved_of_isBalanced hbetween] at h
  cases h

variable [One α]

/-- If anything is saved, then an operator saved it after which the others are
balanced. -/
theorem exists_opening (ops : List (Spelled α)) : ((empty : Canvas α).processEach ops).saved = [] ∨
    ∃ before opening inner, ops = before ++ opening :: inner ∧ opening.saves = true ∧
      Spelled.IsBalanced inner := by
  rcases List.eq_nil_or_concat' ops with rfl | ⟨ops, o, rfl⟩
  · exact .inl rfl
  cases hs : o.saves with
  | true => exact .inr ⟨ops, o, [], rfl, hs, Spelled.isBalanced_nil⟩
  | false =>
    rw [processEach_append, processEach_cons, processEach_nil]
    cases hr : o.restores with
    | false =>
      rw [(maps_of_neither hs hr _).2]
      refine (exists_opening ops).imp_right ?_
      rintro ⟨before, opening, inner, rfl, ho, hinner⟩
      exact ⟨before, opening, inner ++ [o], by simp, ho,
        hinner.append (Spelled.isBalanced_singleton hs hr)⟩
    | true =>
      rw [process_of_restores hr]
      rcases exists_opening ops with hnil | ⟨before, opening, inner, rfl, ho, hinner⟩
      · exact .inl (by rw [hnil]; rfl)
      · -- The operator restores what `opening` saved, so what is saved is what was before it.
        have hbefore : (empty.processEach (before ++ opening :: inner) : Canvas α).saved
            = (empty.processEach before).ctm :: (empty.processEach before).saved := by
          rw [processEach_append, processEach_cons, process_of_saves ho]
          exact saved_of_isBalanced hinner _
        rw [hbefore]
        refine (exists_opening before).imp_right ?_
        rintro ⟨before, outer, inner', rfl, houter, hinner'⟩
        exact ⟨before, outer, inner' ++ (opening :: inner ++ [o]), by simp, houter,
          hinner'.append (hinner.bracketed ho hr)⟩
termination_by ops.length
decreasing_by all_goals subst_vars; simp

/-- The map in force is made of the changes in force. -/
theorem ctm_processEach (ops : List (Spelled α)) :
    ((empty : Canvas α).processEach ops).ctm = (Spelled.inForce ops).foldl Affine.comp 1 := by
  rcases List.eq_nil_or_concat' ops with rfl | ⟨ops, o, rfl⟩
  · rfl
  cases hr : o.restores with
  | false =>
    have hnever := Spelled.neverMoreRestored_singleton hr
    rw [Spelled.inForce_concat fun i hi j hj => Spelled.not_isPair_of_never hnever hi hj,
      List.foldl_append, ← ctm_processEach ops, processEach_append, processEach_cons, processEach_nil]
    cases hs : o.saves with
    | true => rw [process_of_saves hs, Spelled.change?_of_saves hs, Option.toList_none, List.foldl_nil]
    | false => exact (maps_of_neither hs hr _).1
  | true =>
    rcases exists_opening ops with hnil | ⟨before, opening, inner, rfl, ho, hinner⟩
    · rw [Spelled.inForce_concat fun i hi j hj => not_isPair_of_saved_nil hnil hi hj,
        Spelled.change?_of_restores hr, Option.toList_none, List.append_nil, ← ctm_processEach ops,
        processEach_append, processEach_cons, processEach_nil, process_of_restores hr, hnil]
      rfl
    · rw [List.append_assoc, Spelled.inForce_bracketed ho hr hinner, ← ctm_processEach before,
        processEach_append, (maps_of_bracketed ho hr hinner _).1]
termination_by ops.length
decreasing_by all_goals subst_vars; simp; try omega

/-- **Saving and restoring bracket the map in force.** On every canvas, saving it
and restoring after balanced operators, some of which may be stopped, leaves it
and all that was saved; the paths are only added to, and the commands drawn stay.
Any operators leave in force, on an empty canvas, the composition in order of the
maps of those operators that change it, are not stopped and are not enclosed. -/
theorem saved_and_restored :
    (∀ (s : Canvas α) (opening closing : Spelled α) (ops : List (Spelled α)),
      opening.saves = true → closing.restores = true → Spelled.IsBalanced ops →
        let t := s.processEach (opening :: ops ++ [closing])
        t.ctm = s.ctm ∧ t.saved = s.saved ∧ s.paths.toList <+: t.paths.toList ∧ s.drawn <+: t.drawn) ∧
    (∀ (s : Canvas α) (o : Spelled α),
      (o.change?.isSome = true ↔
        Operator.ofValue? o.opcode = some .transform ∧ (s.process o.opcode o.args).2 = none) ∧
      ∀ t, o.change? = some t → (s.process o.opcode o.args).1.ctm = s.ctm.comp t) ∧
    (∀ ops : List (Spelled α),
      ((empty : Canvas α).processEach ops).ctm = (Spelled.inForce ops).foldl Affine.comp 1) := by
  refine ⟨fun s opening closing ops ho hc hops => ?_,
    fun s o => ⟨isSome_change?_iff s o, fun t ht => ctm_of_change? ht s⟩, ctm_processEach⟩
  obtain ⟨hctm, hsaved⟩ := maps_of_bracketed ho hc hops s
  obtain ⟨as, has⟩ := exists_processed s (opening :: ops ++ [closing])
  refine ⟨hctm, hsaved, ?_, ?_⟩
  · obtain ⟨new, hnew, -, -⟩ := exists_paths_after as (rfl : s.current = s.current)
    rw [has, hnew, Array.toList_append]
    exact List.prefix_append _ _
  · rw [has, drawn_after]
    exact List.prefix_append _ _

end Canvas
end
end

/-! ### Brackets in brackets -/

/-- Scaling by a whole number. -/
def Spelled.scaling (n : Int) : Spelled Float :=
  ⟨.text "cm", .list [.int n, .int 0, .int 0, .int n, .int 0, .int 0]⟩

/-- Balanced operators, among them a transform and a line that are stopped. -/
def Spelled.nested : List (Spelled Float) :=
  [scaling 3, ⟨.text "q", .null⟩, scaling 5, ⟨.text "cm", .list []⟩, ⟨.text "Q", .null⟩,
    ⟨.text "l", .list [.int 1]⟩, ⟨.text "m", .list [.int 1, .int 1]⟩]

/-- With a restore before them that has nothing to restore, and a save after them
that nothing restores. -/
theorem Canvas.saved_and_restored_nested :
    Spelled.IsBalanced Spelled.nested ∧
    (empty.processEach (⟨.text "q", .null⟩ :: Spelled.nested ++ [⟨.text "Q", .null⟩]) : Canvas Float).ctm
      = (empty : Canvas Float).ctm ∧
    (empty.processEach (⟨.text "Q", .null⟩ :: Spelled.scaling 2 ::
      (Spelled.nested ++ [⟨.text "q", .null⟩, Spelled.scaling 7])) : Canvas Float).ctm
      = [⟨2, 0, 0, 2, 0, 0⟩, ⟨3, 0, 0, 3, 0, 0⟩, ⟨7, 0, 0, 7, 0, 0⟩].foldl Affine.comp 1 := by
  obtain ⟨hbracketed, -, hcomposed⟩ := saved_and_restored (α := Float)
  have hbalanced : Spelled.IsBalanced Spelled.nested := by decide
  obtain ⟨hctm, -⟩ :=
    hbracketed empty ⟨.text "q", .null⟩ ⟨.text "Q", .null⟩ Spelled.nested rfl rfl hbalanced
  refine ⟨hbalanced, hctm, ?_⟩
  rw [hcomposed]
  rfl

end PlotDigitizer
