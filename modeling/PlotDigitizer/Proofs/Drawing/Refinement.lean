/-
The canvas does what the marks tell.

A log determines the canvas it is a log of (`Log.canvas`). Each operation of
the canvas succeeds exactly where the relation of `Drawing.Log` for it has a
rule, and leads to the canvas of the log that the rule leads to
(`draw_canvas_iff`, `apply_canvas_iff`, `processAll_canvas_iff`). So the paths
of a drawing are those that its marks are divided into, no more and no fewer.
-/
import Mathlib.Data.List.Induction
import PlotDigitizer.Proofs.Drawing.Log
import PlotDigitizer.Proofs.Success

namespace PlotDigitizer

variable {α : Type}

/-! ## Dividing marks one by one -/

/-- The paths finished so far and the open commands, after one more mark. -/
def Mark.divide (d : List (Path α) × List (Command α)) : Mark α → List (Path α) × List (Command α)
  | command c => (d.1, d.2 ++ [c])
  | paint p => if d.2.isEmpty then d else (d.1 ++ [⟨d.2, p⟩], [])

/-- The paths that marks finish, and the commands they leave open. -/
def Mark.division (ms : List (Mark α)) : List (Path α) × List (Command α) :=
  ms.foldl divide ([], [])

/-- All paths of a division: open commands are one of unknown paint. -/
def allPaths (d : List (Path α) × List (Command α)) : List (Path α) :=
  if d.2.isEmpty then d.1 else d.1 ++ [⟨d.2, .unknown⟩]

theorem Mark.division_append (ms : List (Mark α)) (m : Mark α) :
    division (ms ++ [m]) = divide (division ms) m := by
  simp [division]

theorem Mark.division_snd (ms : List (Mark α)) : (division ms).2 = unpainted ms := by
  induction ms using List.reverseRecOn with
  | nil => rfl
  | append_singleton ms m ih =>
    rw [division_append]
    cases m with
    | command c => simp [divide, ih]
    | paint p =>
      simp only [divide]
      split
      · rename_i h; simpa using h
      · simp

theorem foldl_divide_commands (qs : List (Path α)) (cs ds : List (Command α)) :
    (ds.map Mark.command).foldl Mark.divide (qs, cs) = (qs, cs ++ ds) := by
  induction ds generalizing cs with
  | nil => simp
  | cons d ds ih => simp [Mark.divide, ih]

theorem Divided.allPaths_foldl {ms : List (Mark α)} {paths : List (Path α)} (h : Divided ms paths) :
    ∀ qs, allPaths (ms.foldl Mark.divide (qs, [])) = qs ++ paths := by
  induction h with
  | nil => intro qs; simp [allPaths]
  | idle _ ih => intro qs; simpa [Mark.divide] using ih qs
  | painted hcs _ ih =>
    intro qs
    rw [List.foldl_append, foldl_divide_commands]
    simp [Mark.divide, hcs, ih]
  | unpainted hcs =>
    intro qs
    rw [foldl_divide_commands]
    simp [allPaths, hcs]

theorem divided_foldl (ms : List (Mark α)) : ∀ qs cs, ∃ paths,
    allPaths (ms.foldl Mark.divide (qs, cs)) = qs ++ paths ∧ Divided (cs.map .command ++ ms) paths := by
  induction ms with
  | nil =>
    intro qs cs
    by_cases h : cs = []
    · subst h; exact ⟨[], by simp [allPaths], .nil⟩
    · exact ⟨[⟨cs, .unknown⟩], by simp [allPaths, h], by simpa using Divided.unpainted h⟩
  | cons m ms ih =>
    intro qs cs
    cases m with
    | command c =>
      obtain ⟨paths, h, hd⟩ := ih qs (cs ++ [c])
      exact ⟨paths, h, by simpa using hd⟩
    | paint p =>
      by_cases hcs : cs = []
      · subst hcs
        obtain ⟨paths, h, hd⟩ := ih qs []
        exact ⟨paths, h, .idle hd⟩
      · obtain ⟨paths, h, hd⟩ := ih (qs ++ [⟨cs, p⟩]) []
        refine ⟨⟨cs, p⟩ :: paths, ?_, .painted hcs hd⟩
        simpa [Mark.divide, hcs] using h

/-- Marks are divided in one way. -/
theorem divided_iff {ms : List (Mark α)} {paths : List (Path α)} :
    Divided ms paths ↔ allPaths (Mark.division ms) = paths := by
  constructor
  · intro h
    have := h.allPaths_foldl []
    rwa [List.nil_append] at this
  · intro h
    subst h
    obtain ⟨paths, h, hd⟩ := divided_foldl ms [] []
    simp only [List.nil_append] at h
    rw [Mark.division, h]
    exact hd

/-! ## The canvas of a log -/

namespace Log

/-- The canvas on which a log's marks are. -/
def canvas (l : Log α) : Canvas α where
  ctm := l.ctm
  saved := l.saved
  current := (Mark.unpainted l.marks).toArray
  paths := (Mark.division l.marks).1.toArray
  pen := l.pen.point
  start := l.pen.start

theorem draw_nil (l : Log α) : l.draw [] = l := by simp [draw]

theorem draw_draw (l : Log α) (cs ds : List (Command α)) : (l.draw cs).draw ds = l.draw (cs ++ ds) := by
  simp [draw]

theorem pen_draw (l : Log α) (cs : List (Command α)) :
    (l.draw cs).pen = Pen.after (Mark.commands l.marks ++ cs) := by
  simp [draw, pen]

theorem emit_canvas (l : Log α) (c : Command α) : l.canvas.emit c = (l.draw [c]).canvas := by
  have hpen : (l.draw [c]).pen = l.pen.follow c := by
    rw [pen_draw, Pen.after_append]; rfl
  simp only [canvas, Canvas.emit, hpen]
  congr 1
  · simp [draw]
  · simp [draw, Mark.division_append, Mark.divide]
  · cases c <;> rfl
  · cases c <;> rfl

theorem emits_canvas (l : Log α) (cs : List (Command α)) :
    cs.foldl .emit l.canvas = (l.draw cs).canvas := by
  induction cs generalizing l with
  | nil => rw [draw_nil]; rfl
  | cons c cs ih => rw [List.foldl_cons, emit_canvas, ih, draw_draw]; rfl

theorem paint_canvas (l : Log α) (p : Paint) : l.canvas.paint p = (l.paint p).canvas := by
  have hd := Mark.division_append l.marks (.paint p)
  have hu := Mark.division_snd l.marks
  have hp : (l.paint p).pen = l.pen := by simp [paint, pen, Mark.commands_paint]
  simp only [canvas, Canvas.paint, hp]
  simp only [paint, hd, Mark.divide, hu, Mark.unpainted_append_paint]
  by_cases h : Mark.unpainted l.marks = []
  · simp [h]
  · simp [h]

end Log

/-! ## Path operators -/

theorem untilFailure_eq_none {ε β : Type} {xs : List (Except ε β)} {bs : List β} :
    untilFailure xs = (bs, none) ↔ xs = bs.map .ok := by
  induction xs generalizing bs with
  | nil => cases bs <;> simp [untilFailure]
  | cons x xs ih =>
    cases x with
    | error e => cases bs <;> simp [untilFailure]
    | ok b =>
      obtain ⟨cs, e, h⟩ : ∃ cs e, untilFailure xs = (cs, e) := ⟨_, _, rfl⟩
      cases bs with
      | nil => simp [untilFailure, h]
      | cons c bs =>
        simp only [untilFailure, h, Prod.mk.injEq, List.cons.injEq, List.map_cons, Except.ok.injEq,
          ← ih, and_assoc]

theorem singleton_eq_map_ok {ε β : Type} {x : Except ε β} {bs : List β} :
    [x] = bs.map .ok ↔ ∃ b, x = .ok b ∧ bs = [b] := by
  rcases bs with _ | ⟨b, _ | ⟨c, bs⟩⟩ <;> simp

theorem Value.two_eq_ok {vs : List (Value α)} {x y : Value α} :
    two vs = .ok (x, y) ↔ vs = [x, y] := by
  unfold two; split <;> simp_all

theorem Value.four_eq_ok {vs : List (Value α)} {x₁ y₁ x₂ y₂ : Value α} :
    four vs = .ok (x₁, y₁, x₂, y₂) ↔ vs = [x₁, y₁, x₂, y₂] := by
  unfold four; split <;> simp_all

theorem Value.six_eq_ok {vs : List (Value α)} {x₁ y₁ x₂ y₂ x₃ y₃ : Value α} :
    six vs = .ok (x₁, y₁, x₂, y₂, x₃, y₃) ↔ vs = [x₁, y₁, x₂, y₂, x₃, y₃] := by
  unfold six; split <;> simp_all

section
variable [Reading α]

theorem Affine.ofArguments_eq_ok {args : Value α} {t : Affine α} :
    Affine.ofArguments args = .ok t ↔ ∃ a b c d e f, args.arguments = .ok [a, b, c, d, e, f] ∧
      a.factor = .ok t.a ∧ b.factor = .ok t.b ∧ c.factor = .ok t.c ∧ d.factor = .ok t.d ∧
      e.factor = .ok t.e ∧ f.factor = .ok t.f := by
  simp only [Affine.ofArguments, bind_eq_ok, pure_eq_ok]
  constructor
  · intro hex
    obtain ⟨vs, hvs, ⟨a, b, c, d, e, f⟩, h6, _, ha, _, hb, _, hc, _, hd, _, he, _, hf, rfl⟩ := hex
    rw [Value.six_eq_ok] at h6
    exact ⟨a, b, c, d, e, f, h6 ▸ hvs, ha, hb, hc, hd, he, hf⟩
  · intro h
    obtain ⟨a, b, c, d, e, f, hvs, ha, hb, hc, hd, he, hf⟩ := h
    exact ⟨_, hvs, (a, b, c, d, e, f), rfl, _, ha, _, hb, _, hc, _, hd, _, he, _, hf, rfl⟩

variable [Add α] [Mul α]

theorem Affine.locate_eq_ok {t : Affine α} {x y : Value α} {p : Point α} :
    t.locate x y = .ok p ↔ Located t x y p := by
  simp only [Affine.locate, bind_eq_ok, pure_eq_ok, Located]
  constructor
  · intro h
    obtain ⟨u, hu, v, hv, rfl⟩ := h
    exact ⟨u, v, hu, hv, rfl⟩
  · intro h
    obtain ⟨u, v, hu, hv, rfl⟩ := h
    exact ⟨u, hu, v, hv, rfl⟩

variable [Zero α]

namespace PathOperator

/-- The corners of a rectangle add up the same both times they are reached. -/
theorem emits_of_rectangle {t : Affine α} {pen : Option (Point α)} {args : Value α}
    {cs : List (Command α)} (h : attempts t pen args .rectangle = cs.map .ok) :
    Emits t pen args .rectangle cs := by
  simp only [attempts] at h
  split at h
  · simp [singleton_eq_map_ok] at h
  · rename_i x y width height ha
    rw [except_bind_eq_ok] at ha
    obtain ⟨vs, ha, h4⟩ := ha
    rw [Value.four_eq_ok] at h4
    rcases cs with _ | ⟨c₁, _ | ⟨c₂, _ | ⟨c₃, _ | ⟨c₄, _ | ⟨c₅, _ | ⟨c₆, cs⟩⟩⟩⟩⟩⟩ <;>
      simp only [List.map_cons, List.map_nil, List.cons.injEq, bind_eq_ok, pure_eq_ok,
        Except.ok.injEq, reduceCtorEq, and_false, and_true] at h
    obtain ⟨⟨p₁, h₁, rfl⟩, ⟨right, hr, p₂, h₂, rfl⟩, ⟨right', hr', top, ht, p₃, h₃, rfl⟩,
      ⟨top', ht', p₄, h₄, rfl⟩, rfl⟩ := h
    obtain rfl : right = right' := by simpa [hr] using hr'
    obtain rfl : top = top' := by simpa [ht] using ht'
    exact .rectangle (h4 ▸ ha) hr ht (Affine.locate_eq_ok.1 h₁) (Affine.locate_eq_ok.1 h₂)
      (Affine.locate_eq_ok.1 h₃) (Affine.locate_eq_ok.1 h₄)

theorem emits_of_attempts {t : Affine α} {pen : Option (Point α)} {args : Value α}
    {op : PathOperator} {cs : List (Command α)} (h : op.attempts t pen args = cs.map .ok) :
    op.Emits t pen args cs := by
  cases op with
  | move =>
    simp only [attempts, singleton_eq_map_ok, bind_eq_ok, pure_eq_ok] at h
    obtain ⟨_, ⟨vs, ha, ⟨x, y⟩, h2, p, hp, rfl⟩, rfl⟩ := h
    rw [Value.two_eq_ok] at h2
    exact .move (h2 ▸ ha) (Affine.locate_eq_ok.1 hp)
  | line =>
    simp only [attempts, singleton_eq_map_ok, bind_eq_ok, pure_eq_ok] at h
    obtain ⟨_, ⟨vs, ha, ⟨x, y⟩, h2, p, hp, rfl⟩, rfl⟩ := h
    rw [Value.two_eq_ok] at h2
    exact .line (h2 ▸ ha) (Affine.locate_eq_ok.1 hp)
  | curve =>
    simp only [attempts, singleton_eq_map_ok, bind_eq_ok, pure_eq_ok] at h
    obtain ⟨_, ⟨vs, ha, ⟨x₁, y₁, x₂, y₂, x₃, y₃⟩, h6, c₁, h₁, c₂, h₂, p, hp, rfl⟩, rfl⟩ := h
    rw [Value.six_eq_ok] at h6
    exact .curve (h6 ▸ ha) (Affine.locate_eq_ok.1 h₁) (Affine.locate_eq_ok.1 h₂)
      (Affine.locate_eq_ok.1 hp)
  | curveFromPen =>
    simp only [attempts, singleton_eq_map_ok, bind_eq_ok, pure_eq_ok] at h
    obtain ⟨_, ⟨vs, ha, ⟨x₂, y₂, x₃, y₃⟩, h4, c₂, h₂, p, hp, rfl⟩, rfl⟩ := h
    rw [Value.four_eq_ok] at h4
    exact .curveFromPen (h4 ▸ ha) (Affine.locate_eq_ok.1 h₂) (Affine.locate_eq_ok.1 hp)
  | curveToEnd =>
    simp only [attempts, singleton_eq_map_ok, bind_eq_ok, pure_eq_ok] at h
    obtain ⟨_, ⟨vs, ha, ⟨x₁, y₁, x₃, y₃⟩, h4, c₁, h₁, p, hp, rfl⟩, rfl⟩ := h
    rw [Value.four_eq_ok] at h4
    exact .curveToEnd (h4 ▸ ha) (Affine.locate_eq_ok.1 h₁) (Affine.locate_eq_ok.1 hp)
  | close =>
    simp only [attempts, singleton_eq_map_ok, Except.ok.injEq] at h
    obtain ⟨_, rfl, rfl⟩ := h
    exact .close
  | rectangle => exact emits_of_rectangle h

theorem Emits.attempts_eq {t : Affine α} {pen : Option (Point α)} {args : Value α}
    {op : PathOperator} {cs : List (Command α)} (h : op.Emits t pen args cs) :
    op.attempts t pen args = cs.map .ok := by
  cases h with
  | move ha hp => simp [attempts, ha, Value.two, Affine.locate_eq_ok.2 hp, pure, Except.pure]
  | line ha hp => simp [attempts, ha, Value.two, Affine.locate_eq_ok.2 hp, pure, Except.pure]
  | curve ha h₁ h₂ hp =>
    simp [attempts, ha, Value.six, Affine.locate_eq_ok.2 h₁, Affine.locate_eq_ok.2 h₂,
      Affine.locate_eq_ok.2 hp, pure, Except.pure]
  | curveFromPen ha h₂ hp =>
    simp [attempts, ha, Value.four, Affine.locate_eq_ok.2 h₂, Affine.locate_eq_ok.2 hp, pure,
      Except.pure]
  | curveToEnd ha h₁ hp =>
    simp [attempts, ha, Value.four, Affine.locate_eq_ok.2 h₁, Affine.locate_eq_ok.2 hp, pure,
      Except.pure]
  | close => rfl
  | rectangle ha hr ht h₁ h₂ h₃ h₄ =>
    simp [attempts, ha, Except.bind, Value.four, hr, ht, Affine.locate_eq_ok.2 h₁,
      Affine.locate_eq_ok.2 h₂, Affine.locate_eq_ok.2 h₃, Affine.locate_eq_ok.2 h₄, pure,
      Except.pure]

end PathOperator

/-- Drawing succeeds with the commands that the operator emits. -/
theorem draw_canvas_iff {l : Log α} {op : PathOperator} {args : Value α} {s : Canvas α} :
    l.canvas.draw op args = (s, none) ↔
      ∃ cs, op.Emits l.ctm l.pen.point args cs ∧ (l.draw cs).canvas = s := by
  simp only [Canvas.draw, Prod.mk.injEq]
  constructor
  · intro h
    obtain ⟨hs, he⟩ := h
    have hu := untilFailure_eq_none.1 (Prod.ext rfl he)
    exact ⟨_, PathOperator.emits_of_attempts hu, by rw [← Log.emits_canvas]; exact hs⟩
  · intro h
    obtain ⟨cs, hcs, rfl⟩ := h
    have hu : untilFailure (op.attempts l.canvas.ctm l.canvas.pen args) = (cs, none) :=
      untilFailure_eq_none.2 hcs.attempts_eq
    rw [hu]
    exact ⟨Log.emits_canvas l cs, rfl⟩

/-- The path operators of a compound one draw one after another. -/
theorem drawEach_canvas_iff {coordinates : Value α} {vs : List (Value α)} {position : Nat}
    {l : Log α} {s : Canvas α} :
    Canvas.drawEach coordinates vs position l.canvas = (s, none) ↔
      ∃ cs, EmitsEach l.ctm coordinates (Mark.commands l.marks) position vs cs ∧
        (l.draw cs).canvas = s := by
  induction vs generalizing position l with
  | nil =>
    simp only [Canvas.drawEach, Prod.mk.injEq, and_true]
    constructor
    · intro h
      subst h
      exact ⟨[], .nil, by rw [Log.draw_nil]⟩
    · intro h
      obtain ⟨_, ⟨⟩, rfl⟩ := h
      rw [Log.draw_nil]
  | cons v vs ih =>
    simp only [Canvas.drawEach]
    cases hv : PathOperator.ofValue? v with
    | none =>
      simp only [ih]
      constructor
      · intro hex
        obtain ⟨cs, h, hs⟩ := hex
        exact ⟨cs, .skip hv h, hs⟩
      · intro hex
        obtain ⟨cs, h, hs⟩ := hex
        cases h with
        | skip _ h => exact ⟨cs, h, hs⟩
        | draw hv' => simp [hv] at hv'
    | some op =>
      have after (cs : List (Command α)) :
          Mark.commands (l.draw cs).marks = Mark.commands l.marks ++ cs := by simp [Log.draw]
      constructor
      · intro h
        simp only at h
        split at h
        · simp at h
        · rename_i cut hcut
          split at h
          · simp at h
          · rename_i s' hd
            obtain ⟨cs, hcs, rfl⟩ := draw_canvas_iff.1 hd
            obtain ⟨ds, hds, rfl⟩ := ih.1 h
            rw [after] at hds
            exact ⟨cs ++ ds, .draw hv hcut hcs hds, by rw [Log.draw_draw]⟩
      · intro hex
        obtain ⟨_, h, rfl⟩ := hex
        cases h with
        | skip hv' => simp [hv] at hv'
        | draw hv' hcut hcs hds =>
          obtain rfl : op = _ := by simpa [hv] using hv'
          rename_i cs ds
          have hd := draw_canvas_iff.2 ⟨cs, hcs, rfl⟩
          simp only [hcut, hd]
          exact ih.2 ⟨ds, by rw [after]; exact hds, by rw [Log.draw_draw]⟩

/-! ## Operators and streams -/

theorem drawCompound_canvas_iff {l : Log α} {args : Value α} {s : Canvas α} :
    l.canvas.drawCompound args = (s, none) ↔ ∃ m, Operator.Logs args l .compound m ∧ m.canvas = s := by
  simp only [Canvas.drawCompound]
  constructor
  · intro h
    split at h
    · simp at h
    · rename_i vs coordinates hparts
      simp only [bind_eq_ok, pure_eq_ok, Prod.mk.injEq] at hparts
      obtain ⟨operators, h₀, coordinates, h₁, vs, hvs, rfl, rfl⟩ := hparts
      obtain ⟨cs, hcs, rfl⟩ := drawEach_canvas_iff.1 h
      exact ⟨_, .compound h₀ h₁ hvs hcs, rfl⟩
  · intro hex
    obtain ⟨m, h, rfl⟩ := hex
    cases h with
    | compound h₀ h₁ hvs hcs =>
      simp only [h₀, h₁, hvs, ok_bind, pure, Except.pure]
      exact drawEach_canvas_iff.2 ⟨_, hcs, rfl⟩

/-- An operator succeeds where it logs something, and leads there. -/
theorem apply_canvas_iff {l : Log α} {op : Operator} {args : Value α} {s : Canvas α} :
    l.canvas.apply args op = (s, none) ↔ ∃ m, op.Logs args l m ∧ m.canvas = s := by
  cases op with
  | save =>
    simp only [Canvas.apply, Prod.mk.injEq, and_true]
    constructor
    · intro h
      subst h
      exact ⟨_, .save, rfl⟩
    · intro h
      obtain ⟨_, ⟨⟩, rfl⟩ := h
      rfl
  | restore =>
    simp only [Canvas.apply, Prod.mk.injEq, and_true]
    constructor
    · intro h
      subst h
      cases hs : l.saved with
      | nil => exact ⟨l, .restoreNone hs, by simp [Log.canvas, Affine.restore, hs]⟩
      | cons t rest => exact ⟨_, .restore hs, by simp [Log.canvas, Log.pen, Affine.restore, hs]⟩
    · intro hex
      obtain ⟨_, h, rfl⟩ := hex
      cases h with
      | restore hs => simp [Log.canvas, Log.pen, Affine.restore, hs]
      | restoreNone hs => simp [Log.canvas, Affine.restore, hs]
  | transform =>
    simp only [Canvas.apply]
    constructor
    · intro h
      split at h
      · simp at h
      · rename_i t ht
        obtain ⟨a, b, c, d, e, f, hvs, ha, hb, hc, hd, he, hf⟩ := Affine.ofArguments_eq_ok.1 ht
        exact ⟨_, .transform hvs ha hb hc hd he hf, (Prod.mk.inj h).1⟩
    · intro hex
      obtain ⟨_, h, rfl⟩ := hex
      cases h with
      | @transform _ _ _ _ _ _ a b c d e f hvs ha hb hc hd he hf =>
        have ht := Affine.ofArguments_eq_ok (t := ⟨a, b, c, d, e, f⟩).2
          ⟨_, _, _, _, _, _, hvs, ha, hb, hc, hd, he, hf⟩
        rw [ht]
        rfl
  | path op =>
    simp only [Canvas.apply, draw_canvas_iff]
    constructor
    · intro hex
      obtain ⟨cs, h, hs⟩ := hex
      exact ⟨_, .path h, hs⟩
    · intro hex
      obtain ⟨_, h, hs⟩ := hex
      cases h with
      | path h => exact ⟨_, h, hs⟩
  | compound => exact drawCompound_canvas_iff
  | paint p closes =>
    have hopen : l.canvas.current.isEmpty = true ↔ Mark.unpainted l.marks = [] := by
      simp [Log.canvas]
    simp only [Canvas.apply, Prod.mk.injEq, and_true]
    cases closes with
    | false =>
      simp only [Bool.false_eq_true, false_and, if_false, Log.paint_canvas]
      constructor
      · intro h
        subst h
        exact ⟨_, .paint, rfl⟩
      · intro h
        obtain ⟨_, ⟨⟩, rfl⟩ := h
        rfl
    | true =>
      simp only [hopen, true_and]
      by_cases hu : Mark.unpainted l.marks = []
      · simp only [hu, not_true_eq_false, if_false, Log.paint_canvas]
        constructor
        · intro h
          subst h
          exact ⟨_, .paintNone hu, rfl⟩
        · intro hex
          obtain ⟨_, h, rfl⟩ := hex
          cases h with
          | paintClosed h => exact absurd hu h
          | paintNone => rfl
      · simp only [hu, not_false_eq_true, if_true, Log.emit_canvas, Log.paint_canvas]
        constructor
        · intro h
          subst h
          exact ⟨_, .paintClosed hu, rfl⟩
        · intro hex
          obtain ⟨_, h, rfl⟩ := hex
          cases h with
          | paintClosed => rfl
          | paintNone h => exact absurd h hu

/-- A stream is processed to its end where its operators tell something. -/
theorem processAll_canvas_iff {items : List (Value α)} {l : Log α} {s : Canvas α} :
    Canvas.processAll items l.canvas = (s, none) ↔ ∃ m, Tells items l m ∧ m.canvas = s := by
  induction items generalizing l with
  | nil =>
    simp only [Canvas.processAll, Prod.mk.injEq, and_true]
    constructor
    · intro h
      subst h
      exact ⟨l, .nil, rfl⟩
    · intro h
      obtain ⟨_, ⟨⟩, rfl⟩ := h
      rfl
  | cons item items ih =>
    simp only [Canvas.processAll]
    constructor
    · intro h
      split at h
      · simp at h
      · rename_i opcode args hitem
        simp only [Canvas.process] at h
        split at h
        · simp at h
        · rename_i s' hp
          split at hp
          · rename_i hop
            simp only [Prod.mk.injEq, and_true] at hp
            obtain ⟨m, hm, hs⟩ := ih.1 (hp ▸ h)
            exact ⟨m, .skip hitem hop hm, hs⟩
          · rename_i op hop
            obtain ⟨k, hk, rfl⟩ := apply_canvas_iff.1 hp
            obtain ⟨m, hm, hs⟩ := ih.1 h
            exact ⟨m, .step hitem hop hk hm, hs⟩
    · intro hex
      obtain ⟨m, h, rfl⟩ := hex
      cases h with
      | skip hitem hop hm =>
        simp only [hitem, Canvas.process, hop]
        exact ih.2 ⟨m, hm, rfl⟩
      | step hitem hop hk hm =>
        have hs := apply_canvas_iff.2 ⟨_, hk, rfl⟩
        simp only [hitem, Canvas.process, hop, hs]
        exact ih.2 ⟨m, hm, rfl⟩

variable [One α]

/-- A drawing's paths are those that its marks are divided into. -/
theorem extractPaths_eq_ok {stream : Value α} {paths : List (Path α)} :
    extractPaths stream = .ok paths ↔ ∃ marks, stream.Draws marks ∧ Divided marks paths := by
  have hempty : (Canvas.empty : Canvas α) = (Log.empty : Log α).canvas := rfl
  have hfinish (m : Log α) : m.canvas.finish.paths.toList = allPaths (Mark.division m.marks) := by
    rw [Canvas.finish, Log.paint_canvas]
    simp only [Log.canvas, Log.paint, Mark.division_append, Mark.divide, allPaths]
    split <;> rfl
  simp only [extractPaths, Canvas.replay, Value.Draws]
  constructor
  · intro h
    cases hi : stream.iterate with
    | error e => simp [hi] at h
    | ok items =>
      obtain ⟨s, e, hp⟩ : ∃ s e, Canvas.processAll items (Canvas.empty : Canvas α) = (s, e) :=
        ⟨_, _, rfl⟩
      cases e with
      | some e => simp [hi, hp] at h
      | none =>
        obtain ⟨m, hm, rfl⟩ := processAll_canvas_iff.1 (hempty ▸ hp)
        simp only [hi, hp, Except.ok.injEq, hfinish] at h
        exact ⟨m.marks, ⟨items, m, rfl, hm, rfl⟩, divided_iff.2 h⟩
  · intro h
    obtain ⟨_, ⟨items, m, hi, hm, rfl⟩, hd⟩ := h
    have hp := processAll_canvas_iff.2 ⟨m, hm, rfl⟩
    simp only [hi, hempty, hp, Except.ok.injEq, hfinish]
    exact divided_iff.1 hd

end
end PlotDigitizer
