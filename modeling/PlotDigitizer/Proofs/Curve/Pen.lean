/-
The pen of a drawing, and the pen of an assembly.

The canvas keeps the pen through a whole drawing, from one path to the next;
an assembly keeps its own through one path, from where it starts anew. In a
path that begins with a move both are at the same point after every command,
and closing takes both back to the last move (`pens_agree`).
-/
import Mathlib.Data.List.Induction
import PlotDigitizer.Proofs.Curve.Assembled
import PlotDigitizer.Proofs.Drawing.Trace

namespace PlotDigitizer

section
variable {α : Type}

theorem eq_take_append_cons {l : List α} {n : Nat} {a : α} (h : l[n]? = some a) :
    l = l.take n ++ a :: l.drop (n + 1) := by
  obtain ⟨hn, rfl⟩ := List.getElem?_eq_some_iff.1 h
  rw [← List.drop_eq_getElem_cons hn, List.take_append_drop]

/-- Where the last sub-path of some commands begins. -/
def lastMove? (cs : List (Command α)) : Option (Point α) :=
  cs.reverse.findSome? fun c => match c with
    | .move p => some p
    | _ => none

theorem lastMove?_append (cs : List (Command α)) (c : Command α) :
    lastMove? (cs ++ [c]) = match c with
      | .move p => some p
      | _ => lastMove? cs := by
  cases c <;> simp [lastMove?]

theorem Pen.start_after (cs : List (Command α)) : (Pen.after cs).start = lastMove? cs := by
  induction cs using List.reverseRecOn with
  | nil => rfl
  | append_singleton cs c ih =>
    rw [lastMove?_append, ← ih, Pen.after_append]
    cases c <;> rfl

/-- Commands that begin with a move take any pen to the same place. -/
theorem foldl_follow_take {cs : List (Command α)} {q : Point α} (h : cs.head? = some (.move q))
    (k : Nat) (p : Pen α) : (cs.take (k + 1)).foldl Pen.follow p = Pen.after (cs.take (k + 1)) := by
  refine foldl_follow_of_move (r := q) ?_ p {}
  obtain ⟨cs, rfl⟩ := List.head?_eq_some_iff.1 h
  simp

theorem exists_lastMove {cs : List (Command α)} {q : Point α} (h : cs.head? = some (.move q)) (k : Nat) :
    ∃ p, lastMove? (cs.take (k + 1)) = some p := by
  obtain ⟨cs, rfl⟩ := List.head?_eq_some_iff.1 h
  refine Option.ne_none_iff_exists'.1 fun hnone => ?_
  have hmove := List.findSome?_eq_none_iff.1 hnone (.move q) (by simp)
  cases hmove

theorem exists_succ_of_ne_move {cs : List (Command α)} {q : Point α} (h : cs.head? = some (.move q))
    {k : Nat} {c : Command α} (hc : cs[k]? = some c) (hne : c ≠ .move q) : ∃ j, k = j + 1 := by
  cases k with
  | zero =>
    rw [List.head?_eq_getElem?, hc] at h
    exact absurd (Option.some.inj h) hne
  | succ j => exact ⟨j, rfl⟩

/-! ## The pen of an assembly -/

namespace Assembly

/-- An assembly whose pen is at a point, and whose curve begins where the
sub-path does. -/
structure Holds (s : Assembly α) (p : Pen α) : Prop where
  point : p.point = some s.pen
  start : p.start = s.points[0]?
  nonempty : 0 < s.points.size

theorem holds_of_move (s : Assembly α) (q : Point α) : (s.flush.add q).Holds ⟨some q, some q⟩ := by
  refine ⟨rfl, ?_, ?_⟩ <;> simp [add, points_flush]

theorem Holds.push {s : Assembly α} {p : Pen α} (h : s.Holds p) (q : Point α) :
    p.start = (s.points.push q)[0]? := by
  rw [h.start, Array.getElem?_push_lt h.nonempty, Array.getElem?_eq_getElem h.nonempty]

theorem Holds.add {s : Assembly α} {p : Pen α} (h : s.Holds p) (q : Point α) :
    (s.add q).Holds ⟨some q, p.start⟩ :=
  ⟨rfl, h.push q, by simp [Assembly.add]⟩

theorem Holds.addNew [BEq α] {s : Assembly α} {p : Pen α} (h : s.Holds p) (q : Point α) :
    (s.addNew q).Holds p := by
  unfold Assembly.addNew
  split
  · exact h
  · exact ⟨h.point, h.push q, by simp⟩

theorem Holds.foldl_addNew [BEq α] {s : Assembly α} {p : Pen α} (h : s.Holds p) (qs : List (Point α)) :
    (qs.foldl Assembly.addNew s).Holds p := by
  induction qs generalizing s with
  | nil => exact h
  | cons q qs ih => exact ih (h.addNew q)

theorem Holds.close [BEq α] {s : Assembly α} {p : Pen α} (h : s.Holds p) :
    s.close.Holds (p.follow .close) := by
  obtain ⟨first, hfirst⟩ : ∃ first, s.points[0]? = some first :=
    ⟨_, Array.getElem?_eq_getElem h.nonempty⟩
  have hstart : p.start = some first := h.start.trans hfirst
  have hpen : p.follow .close = ⟨some first, some first⟩ := by simp [Pen.follow, hstart]
  rw [hpen]
  simp only [Assembly.close, hfirst]
  split
  · exact ⟨rfl, hfirst.symm, h.nonempty⟩
  · exact ⟨rfl, hstart.symm.trans (h.push first), by simp⟩

end Assembly
end

section
variable {α : Type} [BEq α] [Zero α] [One α] [Add α] [Sub α] [Mul α] [Div α] [Neg α]
  [OfNat α 2] [OfNat α 3] [OfNat α 6]
  [LE α] [DecidableLE α] [LT α] [DecidableLT α] [Euclidean α]

/-- Each command moves the pen of an assembly as it moves a pen. -/
theorem Assembly.Holds.follow {f : Flattening α} {s s' : Assembly α} {p : Pen α} (h : s.Holds p)
    (c : Command α) (hs : s.follow f c = .ok s') : s'.Holds (p.follow c) := by
  cases c with
  | move q =>
    obtain rfl := Except.ok.inj hs
    exact s.holds_of_move q
  | line q =>
    obtain rfl := Except.ok.inj hs
    exact h.add q
  | cubic c₁ c₂ q =>
    obtain ⟨polyline, -, rfl⟩ := follow_cubic hs
    have hadded := h.foldl_addNew polyline
    exact ⟨rfl, hadded.start, hadded.nonempty⟩
  | close =>
    obtain rfl := Except.ok.inj hs
    exact h.close

theorem Assembly.Holds.foldlM {f : Flattening α} {s s' : Assembly α} {p : Pen α} (h : s.Holds p)
    {cs : List (Command α)} (hs : cs.foldlM (Assembly.follow f) s = .ok s') :
    s'.Holds (cs.foldl Pen.follow p) := by
  induction cs generalizing s p with
  | nil =>
    obtain rfl := Except.ok.inj hs
    exact h
  | cons c cs ih =>
    rw [List.foldlM_cons] at hs
    obtain ⟨t, ht, hs⟩ := bind_eq_ok.1 hs
    exact ih (h.follow c ht) hs

/-- A path as far as its first commands, assembled. -/
def Path.assembled (f : Flattening α) (p : Path α) (k : Nat) : Except FlattenError (Assembly α) :=
  (p.commands.take k).foldlM (Assembly.follow f) { pen := .origin }

/-- The whole path, assembled, gives its polylines. -/
theorem Path.polylines_eq_assembled (f : Flattening α) (p : Path α) :
    p.polylines f = do
      let a ← p.assembled f p.commands.length
      return a.flush.curves.toList := by
  rw [Path.assembled, List.take_length]
  rfl

theorem Path.exists_assembled {f : Flattening α} (h : f.IsSound) (p : Path α) (k : Nat) :
    ∃ a, p.assembled f k = .ok a :=
  exists_foldlM (Assembly.exists_follow h) (p.commands.take k) { pen := .origin }

theorem Path.holds_assembled {f : Flattening α} {p : Path α} {q : Point α}
    (h : p.commands.head? = some (.move q)) {k : Nat} {a : Assembly α}
    (ha : p.assembled f (k + 1) = .ok a) : a.Holds (Pen.after (p.commands.take (k + 1))) := by
  obtain ⟨cs, hcs⟩ := List.head?_eq_some_iff.1 h
  rw [Path.assembled, hcs, List.take_succ_cons, List.foldlM_cons] at ha
  rw [hcs, List.take_succ_cons]
  exact (Assembly.holds_of_move _ q).foldlM ha

end

/-! ## The pen of a canvas -/

section
variable {α : Type} [Zero α] [One α] [Add α] [Mul α] [Reading α]
  {stream : Value α} {items : List (Value α)} {paths : List (Path α)}

/-- The commands of the paths of a stream are those that its actions draw. -/
theorem commands_extractPaths (hi : stream.iterate = .ok items) (h : extractPaths stream = .ok paths) :
    paths.flatMap (·.commands) = Action.commands (Canvas.trace items .empty).1 := by
  have hdrawn := Canvas.drawn_after .empty (Canvas.trace items .empty).1
  simp only [extractPaths, Canvas.replay, hi, processAll_eq_outcome, Trace.outcome] at h
  cases he : (Canvas.trace items .empty).2 with
  | some e => simp [he] at h
  | none =>
    simp only [he, Except.ok.injEq] at h
    rw [← h, ← List.nil_append (Action.commands _)]
    refine Eq.trans ?_ hdrawn
    rw [← Canvas.drawn_paint _ .unknown, Canvas.drawn, Canvas.paint_current]
    simp [Canvas.finish]

/-- On the canvas `s` a stream draws, by the operator `op`, the command `c` that
stands at the position `k` of the path at the position `i`: before it are drawn the
commands of the paths before, and those before it in its own path. -/
def DrawnOn (items : List (Value α)) (paths : List (Path α)) (i k : Nat) (op : PathOperator)
    (c : Command α) (s : Canvas α) : Prop :=
  ∃ path before rest, paths[i]? = some path ∧
    (Canvas.trace items .empty).1 = before ++ .emit op c :: rest ∧
    Action.commands before = (paths.take i).flatMap (·.commands) ++ path.commands.take k ∧
    s = Canvas.empty.after before

variable {i k : Nat} {path : Path α} {op : PathOperator} {c : Command α} {s : Canvas α}

theorem exists_drawnOn (hi : stream.iterate = .ok items) (h : extractPaths stream = .ok paths)
    (hpath : paths[i]? = some path) (hc : path.commands[k]? = some c) :
    ∃ op s, DrawnOn items paths i k op c s := by
  have hall : Action.commands (Canvas.trace items .empty).1
      = ((paths.take i).flatMap (·.commands) ++ path.commands.take k)
        ++ c :: (path.commands.drop (k + 1) ++ (paths.drop (i + 1)).flatMap (·.commands)) := by
    rw [← commands_extractPaths hi h]
    conv =>
      lhs
      rw [eq_take_append_cons hpath, List.flatMap_append, List.flatMap_cons, eq_take_append_cons hc]
    simp
  obtain ⟨before, rest, hsplit, hbefore, hrest⟩ := List.filterMap_eq_append_iff.1 hall
  -- Between the two commands there may be actions that draw none.
  obtain ⟨idle, a, rest, rfl, hidle, ha, -⟩ := List.filterMap_eq_cons_iff.1 hrest
  cases a with
  | emit op d =>
    obtain rfl : d = c := Option.some.inj ha
    refine ⟨op, _, path, before ++ idle, rest, hpath, by rw [hsplit, List.append_assoc], ?_, rfl⟩
    rw [Action.commands, List.filterMap_append, hbefore, List.filterMap_eq_nil_iff.2 hidle,
      List.append_nil]
  | save | restore | change | paint => cases ha

namespace DrawnOn

/-- The pen that finds a command has drawn those before it, in the paths before
and in its own. -/
theorem hand_eq (h : DrawnOn items paths i k op c s) (hpath : paths[i]? = some path) :
    s.hand = (path.commands.take k).foldl Pen.follow
      (Pen.after ((paths.take i).flatMap (·.commands))) := by
  obtain ⟨path', before, rest, hpath', -, hbefore, rfl⟩ := h
  obtain rfl : path' = path := Option.some.inj (hpath'.symm.trans hpath)
  rw [Canvas.hand_after, hbefore, List.foldl_append]
  rfl

/-- After a command of a path that begins with a move, the pen has drawn nothing
but that path. -/
theorem hand_emit (h : DrawnOn items paths i k op c s) (hpath : paths[i]? = some path)
    (hc : path.commands[k]? = some c) {q : Point α} (hq : path.commands.head? = some (.move q)) :
    (s.emit c).hand = Pen.after (path.commands.take (k + 1)) := by
  have htake : path.commands.take (k + 1) = path.commands.take k ++ [c] := by
    rw [List.take_add_one, hc]
    rfl
  rw [← foldl_follow_take hq k (Pen.after ((paths.take i).flatMap (·.commands))), htake,
    Canvas.hand_emit, h.hand_eq hpath, List.foldl_append]
  rfl

/-- So has the pen that finds a later command than the first. -/
theorem hand_succ (h : DrawnOn items paths i (k + 1) op c s) (hpath : paths[i]? = some path)
    {q : Point α} (hq : path.commands.head? = some (.move q)) :
    s.hand = Pen.after (path.commands.take (k + 1)) := by
  rw [h.hand_eq hpath, foldl_follow_take hq]

/-- A curve from the pen begins with a control point where the pen is. -/
theorem fromPen (h : DrawnOn items paths i k .curveFromPen c s) :
    ∃ c₂ p, c = .cubic (s.pen.getD .origin) c₂ p := by
  obtain ⟨_, before, rest, _, htrace, _, rfl⟩ := h
  exact throughout_iff.1 (lawful_fromPen.trace items .empty) before _ rest htrace c rfl

end DrawnOn

end

section
variable {α : Type} [BEq α] [Zero α] [One α] [Add α] [Sub α] [Mul α] [Div α] [Neg α]
  [OfNat α 2] [OfNat α 3] [OfNat α 6]
  [LE α] [DecidableLE α] [LT α] [DecidableLT α] [Euclidean α] [Reading α]

/-- **The pens agree.** In a path that begins with a move, the pen of the canvas
is after each command where the pen of the assembly is, and the sub-path of the
one begins where the curve of the other does. So a cubic is flattened from the
point where the pen of the canvas is, which is its own first control point if it
is a curve from the pen; and closing takes both pens back to the last move. -/
theorem pens_agree {stream : Value α} {items : List (Value α)} {paths : List (Path α)}
    (hi : stream.iterate = .ok items) (h : extractPaths stream = .ok paths) {i k : Nat} {path : Path α}
    {c : Command α} (hpath : paths[i]? = some path) (hmove : ∃ q, path.commands.head? = some (.move q))
    (hc : path.commands[k]? = some c) :
    (∃ op s, DrawnOn items paths i k op c s) ∧
    (∀ f : Flattening α, f.IsSound → ∃ a, path.assembled f (k + 1) = .ok a) ∧
    ∀ op s, DrawnOn items paths i k op c s →
      (∀ f a, path.assembled f (k + 1) = .ok a →
        (s.emit c).pen = some a.pen ∧ (s.emit c).start = a.points[0]?) ∧
      (∀ c₁ c₂ p, c = .cubic c₁ c₂ p → ∀ f b, path.assembled f k = .ok b →
        s.pen = some b.pen ∧ (op = .curveFromPen → c₁ = b.pen)) ∧
      (c = .close → ∃ q, lastMove? (path.commands.take k) = some q ∧ (s.emit c).hand = ⟨some q, some q⟩ ∧
        ∀ f a, path.assembled f (k + 1) = .ok a → a.pen = q ∧ a.points[0]? = some q) := by
  obtain ⟨q, hq⟩ := hmove
  refine ⟨exists_drawnOn hi h hpath hc, fun f hf => path.exists_assembled hf (k + 1), fun op s hs => ?_⟩
  have hagree : ∀ f a, path.assembled f (k + 1) = .ok a →
      (s.emit c).pen = some a.pen ∧ (s.emit c).start = a.points[0]? := by
    intro f a ha
    have hholds := Path.holds_assembled hq ha
    rw [← hs.hand_emit hpath hc hq] at hholds
    exact ⟨hholds.point, hholds.start⟩
  refine ⟨hagree, ?_, ?_⟩
  · rintro c₁ c₂ p rfl f b hb
    obtain ⟨j, rfl⟩ := exists_succ_of_ne_move hq hc (by simp)
    have hholds := Path.holds_assembled hq hb
    rw [← hs.hand_succ hpath hq] at hholds
    have hpen : s.pen = some b.pen := hholds.point
    refine ⟨hpen, ?_⟩
    rintro rfl
    obtain ⟨_, _, hcubic⟩ := hs.fromPen
    rw [hpen] at hcubic
    exact (Command.cubic.inj hcubic).1
  · rintro rfl
    obtain ⟨j, rfl⟩ := exists_succ_of_ne_move hq hc (by simp)
    obtain ⟨r, hr⟩ := exists_lastMove hq j
    have hhand : (s.emit .close).hand = ⟨some r, some r⟩ := by
      rw [Canvas.hand_emit, hs.hand_succ hpath hq, Pen.follow, Pen.start_after, hr]
      rfl
    refine ⟨r, hr, hhand, fun f a ha => ?_⟩
    obtain ⟨hpen, hstart⟩ := hagree f a ha
    have hpen' : (s.emit .close).pen = some r := congrArg Pen.point hhand
    have hstart' : (s.emit .close).start = some r := congrArg Pen.start hhand
    exact ⟨Option.some.inj (hpen.symm.trans hpen'), hstart.symm.trans hstart'⟩

end

/-! ### A curve after closing -/

/-- A point, and a path that goes on after closing with a curve from the pen. -/
def reopened : List (Value Float) := [
  .numbered "m" [9, 9], .numbered "S" [], .numbered "m" [1, 2], .numbered "l" [3, 4],
  .numbered "h" [], .numbered "v" [5, 6, 7, 8], .numbered "s" []]

def reopenedPath : Path Float where
  commands := [.move ⟨1, 2⟩, .line ⟨3, 4⟩, .close, .cubic ⟨1, 2⟩ ⟨5, 6⟩ ⟨7, 8⟩, .close]
  paint := .stroke

theorem pens_agree_reopened :
    (Value.list reopened).iterate = .ok reopened ∧
    extractPaths (.list reopened) = .ok [⟨[.move ⟨9, 9⟩], .stroke⟩, reopenedPath] ∧
    reopenedPath.commands.head? = some (.move ⟨1, 2⟩) ∧
    reopenedPath.commands[3]? = some (.cubic ⟨1, 2⟩ ⟨5, 6⟩ ⟨7, 8⟩) ∧
    ∃ op s, DrawnOn reopened [⟨[.move ⟨9, 9⟩], .stroke⟩, reopenedPath] 1 3 op
        (.cubic ⟨1, 2⟩ ⟨5, 6⟩ ⟨7, 8⟩) s ∧
      (∀ f b, reopenedPath.assembled f 3 = .ok b → s.pen = some b.pen) ∧
      ∃ a, reopenedPath.assembled .default 4 = .ok a ∧
        (s.emit (.cubic ⟨1, 2⟩ ⟨5, 6⟩ ⟨7, 8⟩)).pen = some a.pen := by
  have hpaths : extractPaths (.list reopened) = .ok [⟨[.move ⟨9, 9⟩], .stroke⟩, reopenedPath] := rfl
  obtain ⟨⟨op, s, hs⟩, hassembled, hagree⟩ := pens_agree (i := 1) (k := 3) rfl hpaths rfl ⟨_, rfl⟩ rfl
  obtain ⟨hafter, hcubic, -⟩ := hagree op s hs
  obtain ⟨a, ha⟩ := hassembled .default Flattening.isSound_default
  exact ⟨rfl, hpaths, rfl, rfl, op, s, hs, fun f b hb => (hcubic _ _ _ rfl f b hb).1, a, ha,
    (hafter .default a ha).1⟩

end PlotDigitizer
