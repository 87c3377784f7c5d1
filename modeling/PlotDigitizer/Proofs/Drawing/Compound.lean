/-
A compound operator is its path operators, one by one.

The coordinates of a compound operator are those of its path operators, in
order: each takes as many as its arity is, and what is no path operator takes
none (`Value.shares`). Drawing with the compound operator is to draw with each
of them and its own coordinates, as if the stream had them in its place, up to
the first that is stopped; and an operator is stopped exactly if its coordinates
do not fit it (`PathOperator.Fits`), wherever it is drawn. `Canvas.process_compound`
says it of every canvas.
-/
import Mathlib.Data.List.SplitLengths
import PlotDigitizer.Number.Double
import PlotDigitizer.Proofs.Drawing.Refinement

namespace PlotDigitizer

variable {α : Type}

/-! ## Shares -/

/-- A path operator of a compound one, as it is spelled, with its share of the
coordinates. -/
structure Share (α : Type) where
  spelling : Value α
  op : PathOperator
  cut : List (Value α)

/-- The operator of a stream that a share is. -/
def Share.item (q : Share α) : Value α := .list [q.spelling, .list q.cut]

namespace Value

/-- The path operators among some values, as they are spelled and read. -/
def pathOperators (vs : List (Value α)) : List (Value α × PathOperator) :=
  vs.filterMap fun v => (PathOperator.ofValue? v).map (v, ·)

/-- The path operators with the coordinates cut by their arities. -/
def shares (vs coordinates : List (Value α)) : List (Share α) :=
  List.zipWith (fun q cut => ⟨q.1, q.2, cut⟩) (pathOperators vs)
    (((pathOperators vs).map (·.2.arity)).splitLengths coordinates)

/-- What is no path operator takes no coordinates. -/
theorem shares_of_none {v : Value α} (h : PathOperator.ofValue? v = none) (vs coordinates : List (Value α)) :
    shares (v :: vs) coordinates = shares vs coordinates := by
  simp [shares, pathOperators, h]

theorem shares_of_some {v : Value α} {op : PathOperator} (h : PathOperator.ofValue? v = some op)
    (vs coordinates : List (Value α)) : shares (v :: vs) coordinates
      = ⟨v, op, coordinates.take op.arity⟩ :: shares vs (coordinates.drop op.arity) := by
  simp [shares, pathOperators, h]

theorem two_of_lt {vs : List (Value α)} (h : vs.length < 2) :
    two vs = .error (.tooFew 2 vs.length) := by
  unfold two
  split
  · simp at h
  · rw [DrawError.miscounted, if_pos h]

theorem four_of_lt {vs : List (Value α)} (h : vs.length < 4) :
    four vs = .error (.tooFew 4 vs.length) := by
  unfold four
  split
  · simp at h
  · rw [DrawError.miscounted, if_pos h]

theorem six_of_lt {vs : List (Value α)} (h : vs.length < 6) :
    six vs = .error (.tooFew 6 vs.length) := by
  unfold six
  split
  · simp at h
  · rw [DrawError.miscounted, if_pos h]

end Value

/-- A path operator is read as one also in a stream. -/
theorem Operator.ofValue?_path {v : Value α} {op : PathOperator} (h : PathOperator.ofValue? v = some op) :
    Operator.ofValue? v = some (.path op) := by
  obtain ⟨o, ho, hop⟩ := Option.bind_eq_some_iff.1 h
  rw [Operator.ofValue?, ho, Option.bind_some, Operator.ofOpcode?]
  split <;> simp_all [PathOperator.ofOpcode?]

theorem Value.spec_of_mem_shares {vs coordinates : List (Value α)} {q : Share α}
    (h : q ∈ Value.shares vs coordinates) :
    PathOperator.ofValue? q.spelling = some q.op ∧ q.cut.length ≤ q.op.arity := by
  induction vs generalizing coordinates with
  | nil => cases h
  | cons v vs ih =>
    cases hv : PathOperator.ofValue? v with
    | none =>
      rw [shares_of_none hv] at h
      exact ih h
    | some op =>
      rw [shares_of_some hv] at h
      rcases List.mem_cons.1 h with rfl | h
      · exact ⟨hv, List.length_take_le _ _⟩
      · exact ih h

/-! ## What drawing keeps -/

namespace Canvas

/-- The maps and the paths of one canvas are those of another. -/
structure Keeps (s t : Canvas α) : Prop where
  ctm : t.ctm = s.ctm
  saved : t.saved = s.saved
  paths : t.paths = s.paths

theorem Keeps.refl (s : Canvas α) : s.Keeps s := ⟨rfl, rfl, rfl⟩

theorem Keeps.trans {s t u : Canvas α} (h : s.Keeps t) (h' : t.Keeps u) : s.Keeps u :=
  ⟨h'.ctm.trans h.ctm, h'.saved.trans h.saved, h'.paths.trans h.paths⟩

end Canvas

theorem keeps_foldl_emit (cs : List (Command α)) (s : Canvas α) : s.Keeps (cs.foldl .emit s) := by
  induction cs generalizing s with
  | nil => exact .refl s
  | cons c cs ih =>
    have hemit : s.Keeps (s.emit c) := ⟨rfl, rfl, rfl⟩
    exact hemit.trans (ih (s.emit c))

section
variable [Reading α] [Add α]

/-! ## Coordinates that fit -/

/-- The values that an operator makes points of: its coordinates, but the
opposite corner of a rectangle in place of its sides. -/
def PathOperator.factors : PathOperator → List (Value α) → Except DrawError (List (Value α))
  | .rectangle, [x, y, width, height] => do return [x, y, ← x.plus width, ← y.plus height]
  | _, cut => .ok cut

/-- There are as many coordinates as the operator takes, and all that it makes
points of are numbers. -/
structure PathOperator.Fits (op : PathOperator) (cut : List (Value α)) : Prop where
  length : cut.length = op.arity
  factors : ∃ vs, op.factors cut = .ok vs ∧ ∀ v ∈ vs, ∃ x : α, v.factor = .ok x

variable [Mul α]

theorem located_of_numbers (t : Affine α) {x y : Value α} (hx : ∃ u : α, x.factor = .ok u)
    (hy : ∃ v : α, y.factor = .ok v) : ∃ p, Located t x y p := by
  obtain ⟨u, hu⟩ := hx
  obtain ⟨v, hv⟩ := hy
  exact ⟨_, u, v, hu, hv, rfl⟩

variable [Zero α]

theorem PathOperator.fits_of_emits {op : PathOperator} {t : Affine α} {pen : Option (Point α)}
    {cut : List (Value α)} {cs : List (Command α)} (hlength : cut.length ≤ op.arity)
    (h : op.Emits t pen (.list cut) cs) : op.Fits cut := by
  cases h with
  | move ha hp | line ha hp =>
    obtain rfl := Except.ok.inj ha
    obtain ⟨u, v, hu, hv, -⟩ := hp
    exact ⟨rfl, _, rfl, by simp [hu, hv]⟩
  | curve ha h₁ h₂ hp =>
    obtain rfl := Except.ok.inj ha
    obtain ⟨u₁, v₁, hu₁, hv₁, -⟩ := h₁
    obtain ⟨u₂, v₂, hu₂, hv₂, -⟩ := h₂
    obtain ⟨u, v, hu, hv, -⟩ := hp
    exact ⟨rfl, _, rfl, by simp [hu₁, hv₁, hu₂, hv₂, hu, hv]⟩
  | curveFromPen ha h₁ hp | curveToEnd ha h₁ hp =>
    obtain rfl := Except.ok.inj ha
    obtain ⟨u₁, v₁, hu₁, hv₁, -⟩ := h₁
    obtain ⟨u, v, hu, hv, -⟩ := hp
    exact ⟨rfl, _, rfl, by simp [hu₁, hv₁, hu, hv]⟩
  | close =>
    obtain rfl : cut = [] := List.length_eq_zero_iff.1 (Nat.le_zero.1 hlength)
    exact ⟨rfl, _, rfl, by simp⟩
  | rectangle ha hr ht h₁ _ h₃ _ =>
    obtain rfl := Except.ok.inj ha
    obtain ⟨u₁, v₁, hu₁, hv₁, -⟩ := h₁
    obtain ⟨u, v, hu, hv, -⟩ := h₃
    exact ⟨rfl, _, by simp only [factors, hr, ht, ok_bind]; rfl, by simp [hu₁, hv₁, hu, hv]⟩

theorem PathOperator.Fits.exists_emits {op : PathOperator} {cut : List (Value α)} (h : op.Fits cut)
    (t : Affine α) (pen : Option (Point α)) : ∃ cs, op.Emits t pen (.list cut) cs := by
  obtain ⟨hlength, vs, hvs, hnumbers⟩ := h
  cases op with
  | move =>
    match cut, hlength with
    | [x, y], _ =>
      obtain rfl := Except.ok.inj hvs
      obtain ⟨hx, hy, -⟩ := by simpa only [List.forall_mem_cons] using hnumbers
      obtain ⟨p, hp⟩ := located_of_numbers t hx hy
      exact ⟨_, .move rfl hp⟩
  | line =>
    match cut, hlength with
    | [x, y], _ =>
      obtain rfl := Except.ok.inj hvs
      obtain ⟨hx, hy, -⟩ := by simpa only [List.forall_mem_cons] using hnumbers
      obtain ⟨p, hp⟩ := located_of_numbers t hx hy
      exact ⟨_, .line rfl hp⟩
  | curve =>
    match cut, hlength with
    | [x₁, y₁, x₂, y₂, x₃, y₃], _ =>
      obtain rfl := Except.ok.inj hvs
      obtain ⟨hx₁, hy₁, hx₂, hy₂, hx₃, hy₃, -⟩ := by simpa only [List.forall_mem_cons] using hnumbers
      obtain ⟨c₁, hc₁⟩ := located_of_numbers t hx₁ hy₁
      obtain ⟨c₂, hc₂⟩ := located_of_numbers t hx₂ hy₂
      obtain ⟨p, hp⟩ := located_of_numbers t hx₃ hy₃
      exact ⟨_, .curve rfl hc₁ hc₂ hp⟩
  | curveFromPen =>
    match cut, hlength with
    | [x₂, y₂, x₃, y₃], _ =>
      obtain rfl := Except.ok.inj hvs
      obtain ⟨hx₂, hy₂, hx₃, hy₃, -⟩ := by simpa only [List.forall_mem_cons] using hnumbers
      obtain ⟨c₂, hc₂⟩ := located_of_numbers t hx₂ hy₂
      obtain ⟨p, hp⟩ := located_of_numbers t hx₃ hy₃
      exact ⟨_, .curveFromPen rfl hc₂ hp⟩
  | curveToEnd =>
    match cut, hlength with
    | [x₁, y₁, x₃, y₃], _ =>
      obtain rfl := Except.ok.inj hvs
      obtain ⟨hx₁, hy₁, hx₃, hy₃, -⟩ := by simpa only [List.forall_mem_cons] using hnumbers
      obtain ⟨c₁, hc₁⟩ := located_of_numbers t hx₁ hy₁
      obtain ⟨p, hp⟩ := located_of_numbers t hx₃ hy₃
      exact ⟨_, .curveToEnd rfl hc₁ hp⟩
  | close => exact ⟨_, .close⟩
  | rectangle =>
    match cut, hlength with
    | [x, y, width, height], _ =>
      obtain ⟨right, hright, hvs⟩ := bind_eq_ok.1 hvs
      obtain ⟨top, htop, hvs⟩ := bind_eq_ok.1 hvs
      obtain rfl := pure_eq_ok.1 hvs
      obtain ⟨hx, hy, hr, ht, -⟩ := by simpa only [List.forall_mem_cons] using hnumbers
      obtain ⟨p₁, h₁⟩ := located_of_numbers t hx hy
      obtain ⟨p₂, h₂⟩ := located_of_numbers t hr hy
      obtain ⟨p₃, h₃⟩ := located_of_numbers t hr ht
      obtain ⟨p₄, h₄⟩ := located_of_numbers t hx ht
      exact ⟨_, .rectangle rfl hright htop h₁ h₂ h₃ h₄⟩

/-- Too few coordinates stop an operator before anything else does. -/
theorem PathOperator.attempts_of_lt {op : PathOperator} {cut : List (Value α)}
    (h : cut.length < op.arity) (t : Affine α) (pen : Option (Point α)) :
    op.attempts t pen (.list cut) = [.error (.tooFew op.arity cut.length)] := by
  have hall : (Value.list cut).arguments = .ok cut := rfl
  cases op with
  | move | line => simp [attempts, hall, Value.two_of_lt h, arity, error_bind]
  | curve => simp [attempts, hall, Value.six_of_lt h, arity, error_bind]
  | curveFromPen | curveToEnd => simp [attempts, hall, Value.four_of_lt h, arity, error_bind]
  | close => simp [arity] at h
  | rectangle =>
    have hfour : (Except.ok cut).bind Value.four = .error (.tooFew 4 cut.length) := Value.four_of_lt h
    simp [attempts, hall, hfour, arity]

end

section
variable [Zero α] [Add α] [Mul α] [Reading α]

/-! ## One by one -/

/-- A share in a stream is drawn. -/
theorem process_share {q : Share α} (h : PathOperator.ofValue? q.spelling = some q.op) (s : Canvas α) :
    s.process q.spelling (.list q.cut) = s.draw q.op (.list q.cut) := by
  rw [Canvas.process, Operator.ofValue?_path h]
  rfl

theorem processAll_item {q : Share α} (h : PathOperator.ofValue? q.spelling = some q.op)
    (items : List (Value α)) (s : Canvas α) :
    Canvas.processAll (q.item :: items) s = match s.draw q.op (.list q.cut) with
      | (s, some e) => (s, some e)
      | (s, none) => Canvas.processAll items s := by
  have hitem : q.item.unpack.bind Value.two = .ok (q.spelling, .list q.cut) := rfl
  have hprocess := process_share h s
  obtain ⟨t, e, hdraw⟩ : ∃ t e, s.draw q.op (.list q.cut) = (t, e) := ⟨_, _, rfl⟩
  rw [hdraw] at hprocess ⊢
  cases e <;> simp only [Canvas.processAll, hitem, hprocess]

theorem drawEach_eq_processAll (coordinates vs : List (Value α)) (position : Nat) (s : Canvas α) :
    Canvas.drawEach (.list coordinates) vs position s
      = Canvas.processAll ((Value.shares vs (coordinates.drop position)).map Share.item) s := by
  induction vs generalizing position s with
  | nil => rfl
  | cons v vs ih =>
    rw [Canvas.drawEach]
    cases hv : PathOperator.ofValue? v with
    | none =>
      rw [Value.shares_of_none hv]
      exact ih position s
    | some op =>
      rw [Value.shares_of_some hv, List.map_cons, processAll_item hv, List.drop_drop]
      simp only [Value.slice]
      rcases s.draw op _ with ⟨t, _ | e⟩
      · exact ih _ t
      · rfl

/-- Drawing with path operators does nothing but to draw commands, also where one
is stopped. -/
theorem exists_emitted_drawEach (coordinates : Value α) (vs : List (Value α)) (position : Nat)
    (s : Canvas α) :
    ∃ cs : List (Command α), (Canvas.drawEach coordinates vs position s).1 = cs.foldl .emit s := by
  induction vs generalizing position s with
  | nil => exact ⟨[], rfl⟩
  | cons v vs ih =>
    rw [Canvas.drawEach]
    cases PathOperator.ofValue? v with
    | none => exact ih position s
    | some op =>
      dsimp only
      cases coordinates.slice position op.arity with
      | error e => exact ⟨[], rfl⟩
      | ok cut =>
        obtain ⟨cs, hcs⟩ : ∃ cs : List (Command α), (s.draw op cut).1 = cs.foldl .emit s := ⟨_, rfl⟩
        obtain ⟨t, e, ht⟩ : ∃ t e, s.draw op cut = (t, e) := ⟨_, _, rfl⟩
        rw [ht] at hcs
        dsimp only
        rw [ht]
        cases e with
        | some e => exact ⟨cs, hcs⟩
        | none =>
          obtain ⟨ds, hds⟩ := ih (position + op.arity) t
          exact ⟨cs ++ ds, by rw [List.foldl_append, ← hcs]; exact hds⟩

/-- Nor does a compound operator. -/
theorem exists_emitted_drawCompound (s : Canvas α) (args : Value α) :
    ∃ cs : List (Command α), (s.drawCompound args).1 = cs.foldl .emit s := by
  simp only [Canvas.drawCompound]
  split
  · exact ⟨[], rfl⟩
  · exact exists_emitted_drawEach _ _ _ s

theorem keeps_drawEach (coordinates : Value α) (vs : List (Value α)) (position : Nat) (s : Canvas α) :
    s.Keeps (Canvas.drawEach coordinates vs position s).1 := by
  obtain ⟨cs, hcs⟩ := exists_emitted_drawEach coordinates vs position s
  rw [hcs]
  exact keeps_foldl_emit cs s

/-- A path operator is not stopped exactly if it has commands to draw. -/
theorem draw_eq_none_iff (s : Canvas α) (op : PathOperator) (args : Value α) :
    (s.draw op args).2 = none ↔ ∃ cs, op.Emits s.ctm s.pen args cs := by
  constructor
  · intro h
    exact ⟨_, PathOperator.emits_of_attempts (untilFailure_eq_none.1 (Prod.ext rfl h))⟩
  · rintro ⟨cs, hcs⟩
    rw [Canvas.draw, untilFailure_eq_none.2 hcs.attempts_eq]

/-- **A compound operator is its path operators, one by one.** However it is
spelled and whatever canvas it finds: it does what its path operators do in a
stream, each with the coordinates that are cut off for it, with the same failure
at the first that is stopped. It leaves the map in force, the saved ones and the
paths as they are. A path operator is stopped, on any canvas, exactly if the
coordinates cut off for it do not fit it; if they are too few, for that. -/
theorem Canvas.process_compound {opcode : Value α} (h : Operator.ofValue? opcode = some .compound)
    (s : Canvas α) (vs coordinates more : List (Value α)) :
    let after := s.process opcode (.list (.list vs :: .list coordinates :: more))
    after = Canvas.processAll ((Value.shares vs coordinates).map Share.item) s ∧
    (after.1.ctm = s.ctm ∧ after.1.saved = s.saved ∧ after.1.paths = s.paths) ∧
    ∀ q ∈ Value.shares vs coordinates, ∀ t : Canvas α,
      ((t.process q.spelling (.list q.cut)).2 = none ↔ q.op.Fits q.cut) ∧
      (q.cut.length < q.op.arity →
        t.process q.spelling (.list q.cut) = (t, some (.tooFew q.op.arity q.cut.length))) := by
  have hafter : s.process opcode (.list (.list vs :: .list coordinates :: more))
      = Canvas.drawEach (.list coordinates) vs 0 s := by
    rw [Canvas.process, h]
    rfl
  have hkeeps := keeps_drawEach (.list coordinates) vs 0 s
  rw [hafter]
  refine ⟨?_, ⟨hkeeps.ctm, hkeeps.saved, hkeeps.paths⟩, fun q hq t => ?_⟩
  · rw [drawEach_eq_processAll, List.drop_zero]
  · obtain ⟨hop, hlength⟩ := Value.spec_of_mem_shares hq
    rw [process_share hop]
    refine ⟨?_, fun hlt => ?_⟩
    · rw [draw_eq_none_iff]
      constructor
      · rintro ⟨cs, hcs⟩
        exact PathOperator.fits_of_emits hlength hcs
      · intro hfits
        exact hfits.exists_emits t.ctm t.pen
    · rw [Canvas.draw, PathOperator.attempts_of_lt hlt]
      rfl

end

/-! ### A compound operator that is stopped -/

/-- Path operators in several spellings, among them a compound operator, a paint,
a truth value and a number that spells nothing. -/
def mixedOperators : List (Value Float) :=
  [.int 91, .text "moveTo", .bool true, .text "S", .int 14, .int 999, .text "re", .text "LINE_TO"]

def truncated : List (Value Float) := [.int 1, .real 2, .int 3, .int 4, .int 5, .null, .int 7]

theorem Canvas.process_compound_mixed :
    Operator.ofValue? (.text "constructPath" : Value Float) = some .compound ∧
    (empty : Canvas Float).process (.text "constructPath") (.list [.list mixedOperators, .list truncated])
      = processAll [.list [.text "moveTo", .list [.int 1, .real 2]], .list [.int 14, .list [.int 3, .int 4]],
          .list [.text "re", .list [.int 5, .null, .int 7]], .list [.text "LINE_TO", .list []]] empty ∧
    (empty : Canvas Float).process (.text "constructPath") (.list [.list mixedOperators, .list truncated])
      = (((empty : Canvas Float).emit (.move ⟨1, 2⟩)).emit (.line ⟨3, 4⟩), some (.tooFew 4 3)) := by
  have hop : Operator.ofValue? (.text "constructPath" : Value Float) = some .compound := rfl
  have hshares : Value.shares mixedOperators truncated
      = [⟨.text "moveTo", .move, [.int 1, .real 2]⟩, ⟨.int 14, .line, [.int 3, .int 4]⟩,
         ⟨.text "re", .rectangle, [.int 5, .null, .int 7]⟩, ⟨.text "LINE_TO", .line, []⟩] := rfl
  obtain ⟨heq, -, -⟩ := process_compound hop empty mixedOperators truncated []
  rw [hshares] at heq
  exact ⟨hop, heq, heq.trans rfl⟩

end PlotDigitizer
