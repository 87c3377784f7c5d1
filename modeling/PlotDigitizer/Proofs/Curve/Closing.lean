/-
Closing closes, and does so once.

A curve whose run ends by closing ends where it begins (`Path.IsTraced.ends`).
Closing again, right after, changes nothing (`Assembly.close_close`), so paths that
differ in that are assembled alike (`assemble_reclosed`). The ways to close an open
path and to paint it leave paths that differ in no more; `closing_closes_once` is
what comes of it for a whole drawing.
-/
import PlotDigitizer.Proofs.Curve.Vertices
import PlotDigitizer.Proofs.Drawing.Painted
import PlotDigitizer.Proofs.Extraction

namespace PlotDigitizer

variable {α : Type}

/-! ## Closing again -/

/-- The second commands are the first, with more closings right after some. -/
inductive Command.Reclosed : List (Command α) → List (Command α) → Prop
  | nil : Reclosed [] []
  | cons (c : Command α) {cs ds : List (Command α)} : Reclosed cs ds → Reclosed (c :: cs) (c :: ds)
  | again {cs ds : List (Command α)} : Reclosed (.close :: cs) ds → Reclosed (.close :: cs) (.close :: ds)

theorem Command.Reclosed.refl (cs : List (Command α)) : Reclosed cs cs := by
  induction cs with
  | nil => exact .nil
  | cons c cs ih => exact .cons c ih

theorem Command.Reclosed.prepend {cs ds : List (Command α)} (h : Reclosed cs ds)
    (before : List (Command α)) : Reclosed (before ++ cs) (before ++ ds) := by
  induction before with
  | nil => exact h
  | cons c before ih => exact .cons c ih

theorem Command.reclosed_replicate (n : Nat) :
    Reclosed [.close] (List.replicate (n + 1) (.close : Command α)) := by
  induction n with
  | zero => exact .refl _
  | succ n ih => exact .again ih

/-- The second path is the first, with more closings right after some. -/
structure Path.Reclosed (p q : Path α) : Prop where
  paint : q.paint = p.paint
  commands : Command.Reclosed p.commands q.commands

section
variable [BEq α]

namespace Assembly
variable {s : Assembly α} {first : Point α}

/-- A curve that is back is closed by moving the pen. -/
theorem close_of_isBack (hfirst : s.points[0]? = some first) (hback : s.isBack first = true) :
    s.close = { s with pen := first } := by
  simp [close, hfirst, hback]

/-- Closing leads back to the first point. -/
theorem close_spec (hfirst : s.points[0]? = some first) :
    s.close.points[0]? = some first ∧ s.close.pen = first ∧ s.close.isBack first = true := by
  cases hback : s.isBack first with
  | true =>
    rw [close_of_isBack hfirst hback]
    exact ⟨hfirst, rfl, hback⟩
  | false =>
    have hclose : s.close = { s with points := s.points.push first, pen := first, returned := true } := by
      simp [close, hfirst, hback]
    have hsize : 0 < s.points.size := (Array.getElem?_eq_some_iff.1 hfirst).1
    rw [hclose]
    refine ⟨?_, rfl, rfl⟩
    rw [← hfirst, Array.getElem?_push_lt hsize, Array.getElem?_eq_getElem hsize]

/-- To close again changes nothing. -/
theorem close_close (s : Assembly α) : s.close.close = s.close := by
  cases hfirst : s.points[0]? with
  | none =>
    have hclose : s.close = s := by simp [close, hfirst]
    rw [hclose, hclose]
  | some first =>
    obtain ⟨hfirst', hpen, hback⟩ := close_spec hfirst
    rw [close_of_isBack hfirst' hback, ← hpen]

end Assembly

/-- A curve that ends where it begins is closed exactly if it has three points
or more. -/
theorem Curve.isClosed_iff {c : Curve α} {first last : Point α} (hfirst : c.points.head? = some first)
    (hlast : c.points.getLast? = some last) (heq : (first == last) = true) :
    c.isClosed = true ↔ 3 ≤ c.points.length := by
  simp [isClosed, hfirst, hlast, heq, Nat.lt_iff_add_one_le]

variable [Zero α] [One α] [Add α] [Sub α] [Mul α] [Div α] [Neg α]
  [OfNat α 2] [OfNat α 3] [OfNat α 6]
  [LE α] [DecidableLE α] [LT α] [DecidableLT α] [Euclidean α]
  {f : Flattening α}

theorem Command.Reclosed.foldlM_eq {cs ds : List (Command α)} (h : Reclosed cs ds) (s : Assembly α) :
    ds.foldlM (Assembly.follow f) s = cs.foldlM (Assembly.follow f) s := by
  induction h generalizing s with
  | nil => rfl
  | cons c _ ih =>
    rw [List.foldlM_cons, List.foldlM_cons]
    cases s.follow f c with
    | error e => rfl
    | ok t => exact ih t
  | @again cs ds _ ih =>
    have hclose (t : Assembly α) : t.follow f .close = .ok t.close := rfl
    rw [List.foldlM_cons, hclose, ok_bind, ih, List.foldlM_cons, hclose, ok_bind, Assembly.close_close,
      List.foldlM_cons, hclose, ok_bind]

theorem Path.Reclosed.curves_eq {p q : Path α} (h : p.Reclosed q) (i : Nat) :
    q.curves f i = p.curves f i := by
  rw [curves, polylines, h.commands.foldlM_eq, h.paint, curves, polylines]

/-- Paths that differ in closing again are assembled alike. -/
theorem assemble_reclosed {ps qs : List (Path α)} (h : List.Forall₂ Path.Reclosed ps qs) :
    assemble f qs = assemble f ps := by
  have hcurves (k : Nat) : (qs.zipIdx k).mapM (fun q => q.1.curves f q.2)
      = (ps.zipIdx k).mapM (fun q => q.1.curves f q.2) := by
    induction h generalizing k with
    | nil => rfl
    | cons hpq _ ih =>
      rw [List.zipIdx_cons, List.zipIdx_cons, List.mapM_cons, List.mapM_cons, ih, hpq.curves_eq]
  unfold assemble
  congr 1
  exact hcurves 0

/-! ## Curves that are closed -/

/-- A curve whose run ends by closing ends where it begins. -/
theorem Path.IsTraced.ends [PartialEquivBEq α] {run : Path α} {ps : List (Point α)}
    {a : Nat → Assembly α} (h : run.IsTraced f ps a) (hdrawn : run.isDrawn = true)
    (hclose : run.commands.getLast? = some .close) :
    ∃ first last, ps.head? = some first ∧ ps.getLast? = some last ∧ (first == last) = true := by
  obtain ⟨cs, hcs⟩ := List.getLast?_eq_some_iff.1 hclose
  have hpos : 0 < (a cs.length).points.size := by
    refine h.size_pos cs.length ?_
    rw [isDrawn, hcs, List.any_append] at hdrawn
    rw [hcs, List.take_left]
    simpa [Command.stop?] using hdrawn
  obtain ⟨hstep, -⟩ := h.step cs.length .close (by rw [hcs, List.getElem?_concat_length])
  have hlast : (a cs.length).close = a (cs.length + 1) := Except.ok.inj hstep
  have hwhole : (a cs.length).close.points.toList = ps := by
    rw [hlast]
    exact h.whole _ (by simp [hcs])
  rcases (h.proper cs.length).close_cases with
    ⟨hempty, -⟩ | ⟨first, last, hfirst, hlast, ⟨heq, hclosed⟩ | ⟨-, hclosed⟩⟩
  · simp [hempty] at hpos
  · rw [hclosed] at hwhole
    refine ⟨first, last, ?_, ?_, BEq.symm heq⟩
    · rw [← hwhole, List.head?_eq_getElem?, Array.getElem?_toList, hfirst]
    · rw [← hwhole, Array.getLast?_toList, hlast]
  · rw [hclosed] at hwhole
    refine ⟨first, first, ?_, ?_, (h.proper cs.length).first first hfirst⟩
    · rw [← hwhole, Array.toList_push, List.head?_append, List.head?_eq_getElem?, Array.getElem?_toList,
        hfirst, Option.some_or]
    · rw [← hwhole, Array.toList_push, List.getLast?_concat]

end

/-! ## Closing and painting -/

section
variable [BEq α] [Zero α] [One α] [Add α] [Sub α] [Mul α] [Div α] [Neg α]
  [OfNat α 2] [OfNat α 3] [OfNat α 6]
  [LE α] [DecidableLE α] [LT α] [DecidableLT α] [Euclidean α] [Reading α]

/-- However the path is closed and painted, the paths are assembled like those of
which it is closed once. -/
theorem exists_assembled_once {s : Canvas α} {before after mid : List (Value α)} {ds : List (Command α)}
    {p q : Paint} (hs : Canvas.processAll before .empty = (s, none)) (hopen : s.current ≠ #[])
    (hmid : Canvas.ClosesAndPaints p mid) (hnone : (Canvas.processAll after (s.ended ds q)).2 = none) :
    ∃ paths, extractPaths (.list (before ++ mid ++ after)) = .ok paths ∧
      ∀ f : Flattening α, assemble f paths = assemble f (s.paths.toList ++
        ⟨s.current.toList ++ [.close], p⟩ :: (s.ended [.close] p).added after) := by
  obtain ⟨n, hn⟩ := hmid.exists_ended hopen after
  refine ⟨_, Canvas.extractPaths_ended hs hopen hn hnone, fun f => assemble_reclosed ?_⟩
  have hadded : (s.ended (List.replicate (n + 1) .close) p).added after = (s.ended [.close] p).added after := by
    refine Canvas.added_of_hand_eq (s.sameMaps_ended _ _ p p) ?_ ?_ after
    · rw [Canvas.ended, Canvas.ended, Canvas.paint_current, Canvas.paint_current]
    · rw [Canvas.hand_ended, Canvas.hand_ended, Canvas.follow_close_replicate]
      rfl
  have hrefl (ps : List (Path α)) : List.Forall₂ Path.Reclosed ps ps :=
    List.forall₂_same.2 fun p _ => ⟨rfl, .refl p.commands⟩
  rw [hadded]
  exact List.rel_append (hrefl _)
    (.cons ⟨rfl, (Command.reclosed_replicate n).prepend s.current.toList⟩ (hrefl _))

end

/-- A curve of a run closes if the run does: it ends where it begins, and is closed
exactly if it has three points or more. -/
structure Path.Closes (f : Flattening Float) (run : Path Float) (c : Curve Float) : Prop where
  own : run.polylines f = .ok [c.points]
  ends : run.commands.getLast? = some .close →
    ∃ first last, c.points.head? = some first ∧ c.points.getLast? = some last ∧ (first == last) = true
  isClosed : run.commands.getLast? = some .close → (c.isClosed = true ↔ 3 ≤ c.points.length)

theorem Path.forall₂_closes {p : Path Float} (hp : ∀ c ∈ p.commands, ∀ q, c.stop? = some q → q == q)
    {f : Flattening Float} {i : Nat} {curves : List (Curve Float)} (h : p.curves f i = .ok curves) :
    List.Forall₂ (Path.Closes f) (p.runs.filter Path.isDrawn) curves := by
  obtain ⟨pss, hpss, h⟩ := bind_eq_ok.1 h
  obtain rfl := pure_eq_ok.1 h
  have horigin : (Point.origin : Point Float) == .origin := by decide +kernel
  have hruns := (List.forall₂_and_left _ _).2
    ⟨fun run (hrun : run ∈ p.runs.filter Path.isDrawn) => List.mem_filter.1 hrun,
      Path.polylines_runs hpss⟩
  rw [List.forall₂_map_right_iff]
  refine hruns.imp fun {run ps} ⟨⟨hrun, hdrawn⟩, hps⟩ => ?_
  obtain ⟨a, ha⟩ := Path.exists_isTraced horigin (Path.not_moves_of_mem_runs hrun)
    (fun c hc => hp c (Path.mem_commands_of_mem_runs hrun hc)) hps
  refine ⟨hps, ha.ends hdrawn, fun hclose => ?_⟩
  obtain ⟨first, last, hfirst, hlast, heq⟩ := ha.ends hdrawn hclose
  exact Curve.isClosed_iff hfirst hlast heq

/-- **Closing closes, and does so once.** Let each point in which a command of a path
ends equal itself. Then every curve closes whose run ends by closing. Closing
again, right after, changes no curve of a path. So where a paint finds a path
open, in a stream that is not stopped, all ways to close it and to paint it leave
the same curves, by whatever settings, and the same extraction of the page. -/
theorem closing_closes_once :
    (∀ (p : Path Float) (f : Flattening Float) (i : Nat) (curves : List (Curve Float)),
      (∀ c ∈ p.commands, ∀ q, c.stop? = some q → q == q) → p.curves f i = .ok curves →
        List.Forall₂ (Path.Closes f) (p.runs.filter Path.isDrawn) curves) ∧
    (∀ p q : Path Float, p.Reclosed q → ∀ f i, q.curves f i = p.curves f i) ∧
    (∀ (stream : Value Float) (before after : List (Value Float)),
      Canvas.PaintsBetween stream before after →
        ∀ (paint : Paint) (mid mid' : List (Value Float)),
          Canvas.ClosesAndPaints paint mid → Canvas.ClosesAndPaints paint mid' →
            (∃ paths paths', extractPaths (.list (before ++ mid ++ after)) = .ok paths ∧
              extractPaths (.list (before ++ mid' ++ after)) = .ok paths' ∧
              ∀ f, assemble f paths = assemble f paths') ∧
            ∀ number f, extractCurves ⟨.list (before ++ mid ++ after), number, f⟩
              = extractCurves ⟨.list (before ++ mid' ++ after), number, f⟩) := by
  refine ⟨fun p f i curves hp h => Path.forall₂_closes hp h, fun p q h f i => h.curves_eq i,
    fun stream before after h paint mid mid' hmid hmid' => ?_⟩
  obtain ⟨s, hs, hopen, ds, q, hnone⟩ := h.exists_rest
  obtain ⟨paths, hpaths, hassemble⟩ := exists_assembled_once hs hopen hmid hnone
  obtain ⟨paths', hpaths', hassemble'⟩ := exists_assembled_once hs hopen hmid' hnone
  have halike (f : Flattening Float) : assemble f paths = assemble f paths' :=
    (hassemble f).trans (hassemble' f).symm
  exact ⟨⟨paths, paths', hpaths, hpaths', halike⟩, fun number f =>
    extractCurves_congr hpaths' hpaths (halike f)⟩

/-! ### A triangle -/

def Path.triangle : Path Float where
  commands := [.move ⟨0, 0⟩, .line ⟨4, 0⟩, .line ⟨4, 3⟩, .close]
  paint := .stroke

/-- The sides of the triangle but the last. -/
def Canvas.triangle : List (Value Float) :=
  [.numbered "m" [0, 0], .numbered "l" [4, 0], .numbered "l" [4, 3]]

/-- A curve from where the pen is left. -/
def Canvas.onward : List (Value Float) := [.numbered "v" [1, 1, 2, 2], .numbered "S" []]

theorem closing_closes_once_triangle :
    (∃ c, Path.triangle.curves .default 0 = .ok [c] ∧ c.isClosed = true) ∧
    Canvas.PaintsBetween (.list (Canvas.triangle ++ [.numbered "S" []] ++ Canvas.onward))
      Canvas.triangle Canvas.onward ∧
    extractCurves ⟨.list (Canvas.triangle ++ [.numbered "h" [], .numbered "s" []] ++ Canvas.onward), 0,
        .default⟩
      = extractCurves ⟨.list (Canvas.triangle ++ [.numbered "s" []] ++ Canvas.onward), 0, .default⟩ := by
  obtain ⟨hcloses, -, honce⟩ := closing_closes_once
  have hall : (Path.triangle.commands.all fun c => c.stop?.all fun q => q == q) = true := by
    decide +kernel
  have hstops : ∀ c ∈ Path.triangle.commands, ∀ q, c.stop? = some q → q == q := by
    intro c hc q hq
    have hself := List.all_eq_true.1 hall c hc
    rwa [hq] at hself
  have hcurves : Path.triangle.curves .default 0
      = .ok [{ points := [⟨0, 0⟩, ⟨4, 0⟩, ⟨4, 3⟩, ⟨0, 0⟩], paint := .stroke }] := rfl
  have hruns : Path.triangle.runs.filter Path.isDrawn = [Path.triangle] := rfl
  have hclosed := hcloses _ _ _ _ hstops hcurves
  rw [hruns] at hclosed
  obtain ⟨hcloses, -⟩ := List.forall₂_cons.1 hclosed
  have hpaints : Canvas.PaintsBetween (.list (Canvas.triangle ++ [.numbered "S" []] ++ Canvas.onward))
      Canvas.triangle Canvas.onward :=
    ⟨⟨_, rfl, .alone rfl⟩, ⟨_, rfl⟩, by decide +kernel⟩
  obtain ⟨-, hsame⟩ := honce _ _ _ hpaints .stroke [.numbered "h" [], .numbered "s" []] [.numbered "s" []]
    (.both rfl rfl) (.atOnce rfl)
  exact ⟨⟨_, hcurves, (hcloses.isClosed rfl).2 (by decide)⟩, hpaints, hsame 0 .default⟩

end PlotDigitizer
