/-
What an operator that is stopped leaves.

An operator is stopped before it does anything, unless it draws several
commands: a rectangle and a compound operator keep those they have drawn. So a
stopped operator adds to the open path at most (`exists_emitted_of_stopped`), and
one that looks at no argument is not stopped at all. A canvas can be called again
afterwards, and a whole stream begins on it as on an empty one
(`replay_eq_callAll`).
-/
import PlotDigitizer.Proofs.Drawing.Compound

namespace PlotDigitizer

/-- An operator as it is spelled, with its arguments. -/
structure Spelled (α : Type) where
  opcode : Value α
  args : Value α

/-- The operator in a stream. -/
def Spelled.item {α : Type} (o : Spelled α) : Value α := .list [o.opcode, o.args]

/-- The operator as a call. -/
def Spelled.call {α : Type} (o : Spelled α) : Canvas.Call α := .process o.opcode o.args

/-- Whether an operator looks at its arguments. -/
def Operator.looks : Operator → Bool
  | .save | .restore | .path .close | .paint _ _ => false
  | .transform | .path _ | .compound => true

/-- Whether an operator may draw more than one command. -/
def Operator.drawsSeveral : Operator → Bool
  | .path .rectangle | .compound => true
  | _ => false

theorem current_foldl_emit {α : Type} (cs : List (Command α)) (s : Canvas α) :
    (cs.foldl .emit s).current.toList = s.current.toList ++ cs := by
  induction cs generalizing s with
  | nil => simp
  | cons c cs ih =>
    rw [List.foldl_cons, ih (s.emit c)]
    simp

section
variable {α : Type} [Zero α] [Add α] [Mul α] [Reading α]

/-! ## Operators that are stopped -/

/-- Any other operator than a rectangle draws one command or none. -/
theorem PathOperator.exists_attempt {op : PathOperator} (h : op ≠ .rectangle) (ctm : Affine α)
    (pen : Option (Point α)) (args : Value α) : ∃ x, op.attempts ctm pen args = [x] := by
  cases op with
  | rectangle => exact absurd rfl h
  | move | line | curve | curveFromPen | curveToEnd | close => exact ⟨_, rfl⟩

theorem draw_of_stopped {s t : Canvas α} {op : PathOperator} {args : Value α} {e : DrawError}
    (h : s.draw op args = (t, some e)) :
    ∃ cs : List (Command α), t = cs.foldl .emit s ∧ (op ≠ .rectangle → cs = []) := by
  obtain ⟨rfl, he⟩ := Prod.mk.inj h
  refine ⟨_, rfl, fun hop => ?_⟩
  obtain ⟨x, hx⟩ := PathOperator.exists_attempt hop s.ctm s.pen args
  rw [hx] at he ⊢
  cases x with
  | error e => rfl
  | ok c => cases he

/-- **A stopped operator** has drawn some commands and done nothing else. It has
drawn none unless it is one that may draw several. -/
theorem exists_emitted_of_stopped {s t : Canvas α} {opcode args : Value α} {e : DrawError}
    (h : s.process opcode args = (t, some e)) :
    ∃ cs : List (Command α), t = cs.foldl .emit s ∧
      ((Operator.ofValue? opcode).any Operator.drawsSeveral = false → cs = []) := by
  rw [Canvas.process] at h
  cases hop : Operator.ofValue? opcode with
  | none => simp [hop] at h
  | some op =>
    simp only [hop] at h
    cases op with
    | save | restore | paint => cases h
    | transform =>
      simp only [Canvas.apply] at h
      split at h
      · obtain ⟨rfl, -⟩ := Prod.mk.inj h
        exact ⟨[], rfl, fun _ => rfl⟩
      · cases h
    | path op =>
      obtain ⟨cs, hcs, hnone⟩ := draw_of_stopped h
      refine ⟨cs, hcs, fun hone => hnone ?_⟩
      rintro rfl
      cases hone
    | compound =>
      obtain ⟨cs, hcs⟩ := exists_emitted_drawCompound s args
      have ht : (s.drawCompound args).1 = t := congrArg Prod.fst h
      exact ⟨cs, ht.symm.trans hcs, fun hone => by cases hone⟩

/-! ## Operators that are not -/

theorem apply_of_not_looks {op : Operator} (h : op.looks = false) (s : Canvas α) (args : Value α) :
    (s.apply args op).2 = none := by
  cases op with
  | save | restore | paint => rfl
  | path op =>
    cases op with
    | close => rfl
    | move | line | curve | curveFromPen | curveToEnd | rectangle => cases h
  | transform | compound => cases h

/-- Without arguments, an operator that looks at them is stopped. -/
theorem apply_null_of_looks {op : Operator} (h : op.looks = true) (s : Canvas α) :
    (s.apply .null op).2 ≠ none := by
  cases op with
  | save | restore | paint => cases h
  | path op =>
    cases op with
    | close => cases h
    | move | line | curve | curveFromPen | curveToEnd | rectangle => exact Option.some_ne_none _
  | transform | compound => exact Option.some_ne_none _

/-- An operator is never stopped exactly if it looks at no argument. -/
theorem never_stopped_iff {opcode : Value α} (s : Canvas α) :
    (∀ args, (s.process opcode args).2 = none) ↔
      (Operator.ofValue? opcode).any Operator.looks = false := by
  simp only [Canvas.process]
  cases Operator.ofValue? opcode with
  | none => simp
  | some op =>
    simp only [Option.any_some]
    constructor
    · intro h
      rw [Bool.eq_false_iff]
      exact fun hlooks => apply_null_of_looks hlooks s (h .null)
    · exact fun h args => apply_of_not_looks h s args

/-! ## Streams after calls -/

namespace Canvas
variable [One α]

/-- Calls one after another, up to one that is stopped. -/
def callAll : List (Call α) → Canvas α → Outcome α
  | [], s => (s, none)
  | c :: cs, s =>
    match s.call c with
    | (t, some e) => (t, some e)
    | (t, none) => callAll cs t

theorem callAll_process (ops : List (Spelled α)) (s : Canvas α) :
    callAll (ops.map Spelled.call ++ [.finish]) s = match processAll (ops.map Spelled.item) s with
      | (t, some e) => (t, some e)
      | (t, none) => (t.finish, none) := by
  induction ops generalizing s with
  | nil => rfl
  | cons o ops ih =>
    have hitem : o.item.unpack.bind Value.two = .ok (o.opcode, o.args) := rfl
    simp only [List.map_cons, List.cons_append, callAll, processAll, hitem, Spelled.call, call]
    rcases s.process o.opcode o.args with ⟨t, _ | e⟩
    · exact ih t
    · rfl

/-- To replay a stream is to reset the canvas, to process the operators and to
finish. -/
theorem replay_eq_callAll (ops : List (Spelled α)) (s : Canvas α) :
    s.call (.replay (.list (ops.map Spelled.item)))
      = callAll (.reset :: (ops.map Spelled.call ++ [.finish])) s :=
  (callAll_process ops .empty).symm

/-- **A stopped operator damages nothing but the open path.** It leaves the map in
force, the saved ones and the paths, and the open path begins with the commands
it had; if it is neither a rectangle nor a compound operator, it leaves the whole
canvas. An operator is never stopped exactly if it looks at no argument, as
saving, restoring, closing, every paint and whatever shapes no path do not. Whatever
was called before, a stream is replayed as on an empty canvas, which is to reset,
to process its operators and to finish. -/
theorem process_stopped :
    (∀ (s t : Canvas α) (opcode args : Value α) (e : DrawError),
      s.process opcode args = (t, some e) →
        t.ctm = s.ctm ∧ t.saved = s.saved ∧ t.paths = s.paths ∧
        s.current.toList <+: t.current.toList ∧
        (Operator.ofValue? opcode ≠ some (.path .rectangle) →
          Operator.ofValue? opcode ≠ some .compound → t = s)) ∧
    (∀ (s : Canvas α) (opcode : Value α),
      (∀ args, (s.process opcode args).2 = none) ↔
        (Operator.ofValue? opcode).any Operator.looks = false) ∧
    (∀ (s : Canvas α) (stream : Value α), s.call (.replay stream) = empty.call (.replay stream)) ∧
    (∀ (s : Canvas α) (ops : List (Spelled α)),
      s.call (.replay (.list (ops.map Spelled.item)))
        = callAll (.reset :: (ops.map Spelled.call ++ [.finish])) s) := by
  refine ⟨fun s t opcode args e h => ?_, fun s opcode => never_stopped_iff s, fun s stream => rfl,
    fun s ops => replay_eq_callAll ops s⟩
  obtain ⟨cs, rfl, hnone⟩ := exists_emitted_of_stopped h
  have hkeeps := keeps_foldl_emit cs s
  refine ⟨hkeeps.ctm, hkeeps.saved, hkeeps.paths, ?_, fun hrectangle hcompound => ?_⟩
  · rw [current_foldl_emit]
    exact List.prefix_append _ _
  · have hone : (Operator.ofValue? opcode).any Operator.drawsSeveral = false := by
      cases hop : Operator.ofValue? opcode with
      | none => rfl
      | some op =>
        rw [hop] at hrectangle hcompound
        rw [Option.any_some, Bool.eq_false_iff]
        unfold Operator.drawsSeveral
        split <;> simp_all
    rw [hnone hone]
    rfl

end Canvas
end

/-! ### A rectangle that is stopped -/

namespace Canvas

/-- A canvas with a path open. -/
def opened : Canvas Float := (empty.emit (.move ⟨5, 5⟩)).emit (.line ⟨6, 6⟩)

/-- A rectangle whose height is no number, and a line to half a point. -/
theorem process_stopped_opened :
    opened.process (.text "re") (.list [.int 1, .int 2, .int 3, .text "4"])
      = ((opened.emit (.move ⟨1, 2⟩)).emit (.line ⟨4, 2⟩), some (.notAddable .int .text)) ∧
    (opened.process (.text "re") (.list [.int 1, .int 2, .int 3, .text "4"])).1.paths = opened.paths ∧
    opened.process (.text "l") (.list [.int 1]) = (opened, some (.tooFew 2 1)) := by
  obtain ⟨hkeeps, -, -, -⟩ := process_stopped (α := Float)
  have hrectangle : opened.process (.text "re") (.list [.int 1, .int 2, .int 3, .text "4"])
      = ((opened.emit (.move ⟨1, 2⟩)).emit (.line ⟨4, 2⟩), some (.notAddable .int .text)) := rfl
  obtain ⟨-, -, hpaths, -, -⟩ := hkeeps opened _ _ _ _ hrectangle
  obtain ⟨t, ht⟩ : ∃ t, opened.process (.text "l") (.list [.int 1]) = (t, some (.tooFew 2 1)) :=
    ⟨_, rfl⟩
  obtain ⟨-, -, -, -, hwhole⟩ := hkeeps opened _ _ _ _ ht
  have hline : t = opened := hwhole (by decide) (by decide)
  exact ⟨hrectangle, by rw [hrectangle]; exact hpaths, by rw [ht, hline]⟩

end Canvas
end PlotDigitizer
