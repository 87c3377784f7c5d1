/-
The vertices of a curve.

A run of commands is assembled in as many steps as it has commands, each of
which adds to the curve (`Path.IsTraced`). So the points at which the commands
end are in the curve, in the order of the commands (`Path.Keeps`): what is
removed of a cubic's polyline equals the point before it, and never is the end
of a line. `Path.keeps_vertices` says so of every curve of a path, and that the
pen is at the last point at all times.
-/
import PlotDigitizer.Proofs.Curve.Growth
import PlotDigitizer.Proofs.Curve.Pen
import PlotDigitizer.Proofs.Number.Order

namespace PlotDigitizer

variable {α : Type} [BEq α] [Zero α] [One α] [Add α] [Sub α] [Mul α] [Div α] [Neg α]
  [OfNat α 2] [OfNat α 3] [OfNat α 6]
  [LE α] [DecidableLE α] [LT α] [DecidableLT α] [Euclidean α]

namespace Path

/-! ## Vertices and their places -/

/-- The point of the curve `ps` at which the command at a place in its run ends:
a point of the command's own, or, by closing, the first of the curve, if there
is one by then. -/
def vertex? (run : Path α) (ps : List (Point α)) (k : Nat) : Option (Point α) :=
  run.commands[k]?.bind fun c =>
    c.stop?.or (if (run.commands.take k).any (·.stop?.isSome) then ps.head? else none)

/-- The place of the last point that the curve has after the command at a place
in its run. -/
def place (f : Flattening α) (run : Path α) (k : Nat) : Nat :=
  match run.assembled f (k + 1) with
  | .ok a => a.points.size - 1
  | .error _ => 0

/-- The curve of a run keeps its vertices. -/
structure Keeps (f : Flattening α) (run : Path α) (ps : List (Point α)) : Prop where
  /-- Every vertex is in the curve. -/
  vertex : ∀ k v, run.vertex? ps k = some v → ∃ q, ps[run.place f k]? = some q ∧ (q == v) = true
  /-- They are in the order of their commands. Two are at one place only if they
  equal each other and the later one is the end of a cubic or of closing. -/
  order : ∀ j k u v, j < k → run.vertex? ps j = some u → run.vertex? ps k = some v →
    run.place f j < run.place f k ∨
      run.place f j = run.place f k ∧ (u == v) = true ∧
        ∃ c, run.commands[k]? = some c ∧ c.mayShare = true
  /-- Two points in a row equal each other exactly where a line repeats the last
  point there was. -/
  repeats : ∀ i q r, ps[i]? = some q → ps[i + 1]? = some r →
    ((q == r) = true ↔
      ∃ k p, run.commands[k]? = some (.line p) ∧ run.place f k = i + 1 ∧ (q == p) = true)
  /-- A cubic adds its polyline, less the points that equal the one before. -/
  cubic : ∀ k c₁ c₂ p, run.commands[k]? = some (.cubic c₁ c₂ p) → ∃ a polyline added,
    run.assembled f k = .ok a ∧ (Cubic.mk a.pen c₁ c₂ p).flatten f = .ok polyline ∧
    ps.take (run.place f k + 1) = a.points.toList ++ added ∧
    a.points.back?.toList ++ added = withoutRepeats (a.points.back?.toList ++ polyline)

/-! ## The steps of a run -/

/-- The states `a` through which a run is assembled into the curve `ps`. -/
structure IsTraced (f : Flattening α) (run : Path α) (ps : List (Point α)) (a : Nat → Assembly α) :
    Prop where
  assembled : ∀ k, run.assembled f k = .ok (a k)
  step : ∀ k c, run.commands[k]? = some c →
    (a k).follow f c = .ok (a (k + 1)) ∧ (c.moves = true → (a k).points = #[])
  rest : ∀ k, run.commands[k]? = none → a (k + 1) = a k
  proper : ∀ k, (a k).IsProper
  size_pos : ∀ k, (run.commands.take k).any (·.stop?.isSome) = true → 0 < (a k).points.size
  whole : ∀ k, run.commands.length ≤ k → (a k).points.toList = ps

variable {f : Flattening α} {run : Path α} {ps : List (Point α)} {a : Nat → Assembly α}

theorem assembled_add_one {k : Nat} {c : Command α} (hc : run.commands[k]? = some c) {s s' : Assembly α}
    (hs : run.assembled f k = .ok s) (hs' : run.assembled f (k + 1) = .ok s') :
    s.follow f c = .ok s' := by
  rw [Path.assembled, List.take_add_one, hc, Option.toList_some, List.foldlM_append, ← Path.assembled, hs,
    ok_bind, List.foldlM_cons] at hs'
  obtain ⟨t, ht, hs'⟩ := bind_eq_ok.1 hs'
  rw [ht, pure_eq_ok.1 hs']

/-- What is assembled of a whole path is assembled step by step. -/
theorem exists_assembled_of_polylines {p : Path α} {pss : List (List (Point α))}
    (h : p.polylines f = .ok pss) (k : Nat) : ∃ s, p.assembled f k = .ok s := by
  obtain ⟨s, hs, -⟩ := bind_eq_ok.1 h
  rw [← List.take_append_drop k p.commands, List.foldlM_append] at hs
  obtain ⟨t, ht, -⟩ := bind_eq_ok.1 hs
  exact ⟨t, ht⟩

theorem isProper_assembled [PartialEquivBEq α] (h0 : (Point.origin : Point α) == .origin)
    {p : Path α} (hp : ∀ c ∈ p.commands, ∀ q, c.stop? = some q → q == q) {k : Nat} {s : Assembly α}
    (hs : p.assembled f k = .ok s) : s.IsProper :=
  (Assembly.isProper_start h0).foldlM (fun c hc => hp c (List.mem_of_mem_take hc)) hs

/-- A run ends no curve. -/
theorem curves_of_foldlM (hrun : ∀ c ∈ run.commands.tail, c.moves = false) {s : Assembly α}
    (hs : run.commands.foldlM (Assembly.follow f) { pen := .origin } = .ok s) : s.curves = #[] := by
  cases hcs : run.commands with
  | nil =>
    rw [hcs] at hs
    exact pure_eq_ok.1 hs ▸ rfl
  | cons c cs =>
    rw [hcs] at hrun hs
    rw [List.foldlM_cons] at hs
    obtain ⟨t, ht, hs⟩ := bind_eq_ok.1 hs
    rw [Assembly.curves_foldlM hrun hs]
    rcases Assembly.follow_cases ht with ⟨-, hcurves, -⟩ | ⟨-, -, hcurves, -⟩ | ⟨-, -, hcurves, -⟩
    · exact hcurves
    · exact hcurves
    · exact hcurves

theorem exists_isTraced [PartialEquivBEq α] (h0 : (Point.origin : Point α) == .origin)
    (hrun : ∀ c ∈ run.commands.tail, c.moves = false)
    (hstops : ∀ c ∈ run.commands, ∀ q, c.stop? = some q → q == q)
    (h : run.polylines f = .ok [ps]) : ∃ a, run.IsTraced f ps a := by
  choose a ha using exists_assembled_of_polylines h
  have hstart : a 0 = { pen := .origin } := (Except.ok.inj (ha 0)).symm
  refine ⟨a, ha, fun k c hc => ⟨assembled_add_one hc (ha k) (ha (k + 1)), fun hmoves => ?_⟩, fun k hk => ?_,
    fun k => isProper_assembled h0 hstops (ha k), fun k hany => ?_, fun k hk => ?_⟩
  · cases k with
    | zero => rw [hstart]
    | succ k =>
      have hmem : c ∈ run.commands.tail := List.mem_of_getElem? (List.getElem?_tail.trans hc)
      rw [hrun c hmem] at hmoves
      cases hmoves
  · have hsame : run.assembled f (k + 1) = run.assembled f k := by
      rw [Path.assembled, List.take_add_one, hk, Option.toList_none, List.append_nil, Path.assembled]
    rw [ha, ha] at hsame
    exact Except.ok.inj hsame
  · have hempty := Assembly.isEmpty_foldlM (ha k)
    rw [hany] at hempty
    simpa [Array.size_pos_iff] using hempty
  · have hfold : run.commands.foldlM (Assembly.follow f) { pen := .origin } = .ok (a k) := by
      rw [← List.take_of_length_le hk]
      exact ha k
    have hcurves := curves_of_foldlM hrun hfold
    rw [polylines, hfold, ok_bind, pure_eq_ok] at h
    cases hempty : (a k).points.isEmpty with
    | true => simp [Assembly.flush, hempty, hcurves] at h
    | false =>
      rw [Assembly.curves_flush _ hempty, hcurves] at h
      exact List.singleton_inj.1 h

/-- What is crossed between two times is crossed in one step. -/
theorem exists_crossing {g : Nat → Nat} {i n : Nat} (h0 : g 0 ≤ i) (hn : i < g n) :
    ∃ k < n, g k ≤ i ∧ i < g (k + 1) := by
  induction n with
  | zero => omega
  | succ n ih =>
    rcases Nat.lt_or_ge i (g n) with hlt | hge
    · obtain ⟨k, hk, hcross⟩ := ih hlt
      exact ⟨k, Nat.lt_succ_of_lt hk, hcross⟩
    · exact ⟨n, Nat.lt_succ_self n, hge, hn⟩

namespace IsTraced

theorem exists_added (h : run.IsTraced f ps a) (k : Nat) :
    ∃ added, (a (k + 1)).points.toList = (a k).points.toList ++ added := by
  cases hc : run.commands[k]? with
  | none => exact ⟨[], by rw [h.rest k hc, List.append_nil]⟩
  | some c =>
    obtain ⟨hstep, hmove⟩ := h.step k c hc
    obtain ⟨added, hadded⟩ := (h.proper k).exists_adds hstep hmove
    exact ⟨added, hadded.points⟩

/-- The curve only grows. -/
theorem isPrefix (h : run.IsTraced f ps a) {j k : Nat} (hjk : j ≤ k) :
    (a j).points.toList <+: (a k).points.toList := by
  induction hjk with
  | refl => exact List.prefix_rfl
  | step _ ih =>
    obtain ⟨added, hadded⟩ := h.exists_added _
    exact ih.trans ⟨added, hadded.symm⟩

theorem size_le (h : run.IsTraced f ps a) {j k : Nat} (hjk : j ≤ k) :
    (a j).points.size ≤ (a k).points.size := (h.isPrefix hjk).length_le

theorem isPrefix_whole (h : run.IsTraced f ps a) (k : Nat) : (a k).points.toList <+: ps := by
  have hprefix := h.isPrefix (Nat.le_max_left k run.commands.length)
  rwa [h.whole _ (Nat.le_max_right k run.commands.length)] at hprefix

theorem getElem?_eq (h : run.IsTraced f ps a) {i k : Nat} (hi : i < (a k).points.size) :
    ps[i]? = (a k).points[i]? := by
  obtain ⟨rest, rfl⟩ := h.isPrefix_whole k
  rw [List.getElem?_append_left hi, Array.getElem?_toList]

theorem place_eq (h : run.IsTraced f ps a) (k : Nat) : run.place f k = (a (k + 1)).points.size - 1 := by
  simp only [place, h.assembled]

/-- After the command at a place the pen is at the vertex, and there are points. -/
theorem pen_of_vertex (h : run.IsTraced f ps a) {k : Nat} {v : Point α} (hv : run.vertex? ps k = some v) :
    (a (k + 1)).pen = v ∧ 0 < (a (k + 1)).points.size := by
  obtain ⟨c, hc, hv⟩ := Option.bind_eq_some_iff.1 hv
  obtain ⟨hstep, -⟩ := h.step k c hc
  cases hstop : c.stop? with
  | some p =>
    obtain rfl : p = v := by simpa [hstop] using hv
    refine ⟨Assembly.pen_follow hstep hstop, h.size_pos (k + 1) ?_⟩
    simp [List.take_add_one, hc, hstop]
  | none =>
    obtain ⟨hany, hhead⟩ : (run.commands.take k).any (·.stop?.isSome) = true ∧ ps.head? = some v := by
      rwa [hstop, Option.none_or, Option.ite_none_right_eq_some] at hv
    have hpos := h.size_pos k hany
    refine ⟨?_, hpos.trans_le (h.size_le (Nat.le_add_right k 1))⟩
    have hfirst : (a k).points[0]? = some v := by
      rw [← h.getElem?_eq hpos, ← List.head?_eq_getElem?, hhead]
    cases c with
    | move | line | cubic => cases hstop
    | close =>
      have hclose : (a k).close = a (k + 1) := Except.ok.inj hstep
      rw [← hclose]
      simp only [Assembly.close, hfirst]
      split
      · rfl
      · rfl

theorem getElem?_place (h : run.IsTraced f ps a) {k : Nat} (hpos : 0 < (a (k + 1)).points.size) :
    ps[run.place f k]? = (a (k + 1)).points.back? := by
  rw [h.place_eq, h.getElem?_eq (Nat.sub_one_lt_of_lt hpos), Array.back?_eq_getElem?]

/-- What adds no point of its own is a cubic or closing. -/
theorem mayShare_of_size_le (h : run.IsTraced f ps a) {k : Nat} {c : Command α}
    (hc : run.commands[k]? = some c) (hsize : (a (k + 1)).points.size ≤ (a k).points.size) :
    c.mayShare = true := by
  obtain ⟨hstep, hmove⟩ := h.step k c hc
  obtain ⟨added, hadded⟩ := (h.proper k).exists_adds hstep hmove
  cases hshare : c.mayShare with
  | true => rfl
  | false =>
    have hone := hadded.size_eq hshare
    omega

/-- Each point is added by some command. -/
theorem exists_step (h : run.IsTraced f ps a) {i : Nat} (hi : i < ps.length) :
    ∃ k c, run.commands[k]? = some c ∧ (a k).points.size ≤ i ∧ i < (a (k + 1)).points.size := by
  have hstart : (a 0).points.size ≤ i := by
    have h0 : a 0 = { pen := .origin } := (Except.ok.inj (h.assembled 0)).symm
    simp [h0]
  have hend : i < (a run.commands.length).points.size := by
    rwa [← Array.length_toList, h.whole _ (Nat.le_refl _)]
  obtain ⟨k, hk, hle, hlt⟩ := exists_crossing (g := fun k => (a k).points.size) hstart hend
  exact ⟨k, _, List.getElem?_eq_getElem hk, hle, hlt⟩

/-- A cubic adds its polyline from the pen on. -/
theorem cubic (h : run.IsTraced f ps a) {k : Nat} {c₁ c₂ p : Point α}
    (hc : run.commands[k]? = some (.cubic c₁ c₂ p)) : ∃ polyline added,
      (Cubic.mk (a k).pen c₁ c₂ p).flatten f = .ok polyline ∧
      ps.take (run.place f k + 1) = (a k).points.toList ++ added ∧
      (a k).points.back?.toList ++ added = withoutRepeats ((a k).points.back?.toList ++ polyline) := by
  obtain ⟨polyline, hpolyline, hstep⟩ := Assembly.follow_cubic (h.step k _ hc).1
  obtain ⟨added, hadded, hnew⟩ := (a k).exists_foldl_addNew polyline
  have hpoints : (a (k + 1)).points.toList = (a k).points.toList ++ added := by rw [hstep, hadded]
  have hpos : 0 < (a (k + 1)).points.size := by
    refine (h.pen_of_vertex (k := k) (v := p) ?_).2
    simp [vertex?, hc, Command.stop?]
  refine ⟨polyline, added, hpolyline, ?_, hnew⟩
  rw [h.place_eq, Nat.sub_add_cancel hpos, ← hpoints, ← Array.length_toList]
  exact (List.prefix_iff_eq_take.1 (h.isPrefix_whole (k + 1))).symm

variable [PartialEquivBEq α]

theorem exists_vertex (h : run.IsTraced f ps a) {k : Nat} {v : Point α} (hv : run.vertex? ps k = some v) :
    ∃ q, ps[run.place f k]? = some q ∧ (q == v) = true := by
  obtain ⟨hpen, hpos⟩ := h.pen_of_vertex hv
  have hlast : (a (k + 1)).points.back? = some _ :=
    Array.back?_eq_getElem?.trans (Array.getElem?_eq_getElem (Nat.sub_one_lt_of_lt hpos))
  refine ⟨_, (h.getElem?_place hpos).trans hlast, BEq.symm ?_⟩
  rw [← hpen]
  exact (h.proper (k + 1)).last _ hlast

theorem order (h : run.IsTraced f ps a) {j k : Nat} {u v : Point α} (hjk : j < k)
    (hu : run.vertex? ps j = some u) (hv : run.vertex? ps k = some v) :
    run.place f j < run.place f k ∨
      run.place f j = run.place f k ∧ (u == v) = true ∧
        ∃ c, run.commands[k]? = some c ∧ c.mayShare = true := by
  obtain ⟨-, hpos⟩ := h.pen_of_vertex hu
  have hj : (a (j + 1)).points.size ≤ (a k).points.size := h.size_le hjk
  have hk : (a k).points.size ≤ (a (k + 1)).points.size := h.size_le (Nat.le_add_right k 1)
  rcases Nat.lt_or_ge (run.place f j) (run.place f k) with hlt | hge
  · exact .inl hlt
  · have hsize : (a (k + 1)).points.size ≤ (a (j + 1)).points.size := by
      rw [h.place_eq, h.place_eq] at hge
      omega
    have hplace : run.place f j = run.place f k := by
      rw [h.place_eq, h.place_eq]
      omega
    obtain ⟨q, hq, hqu⟩ := h.exists_vertex hu
    obtain ⟨r, hr, hrv⟩ := h.exists_vertex hv
    obtain rfl : q = r := Option.some.inj (hq.symm.trans (hplace ▸ hr))
    obtain ⟨c, hc, -⟩ := Option.bind_eq_some_iff.1 hv
    exact .inr ⟨hplace, BEq.trans (BEq.symm hqu) hrv, c, hc, h.mayShare_of_size_le hc (hsize.trans hj)⟩

theorem repeats (h : run.IsTraced f ps a) {i : Nat} {q r : Point α} (hq : ps[i]? = some q)
    (hr : ps[i + 1]? = some r) :
    (q == r) = true ↔
      ∃ k p, run.commands[k]? = some (.line p) ∧ run.place f k = i + 1 ∧ (q == p) = true := by
  constructor
  · intro heq
    obtain ⟨k, c, hc, hle, hlt⟩ := h.exists_step (List.getElem?_eq_some_iff.1 hr).1
    obtain ⟨hstep, hmove⟩ := h.step k c hc
    obtain ⟨added, hadded⟩ := (h.proper k).exists_adds hstep hmove
    rw [h.getElem?_eq (Nat.lt_of_succ_lt hlt)] at hq
    rw [h.getElem?_eq hlt] at hr
    obtain ⟨rfl, hsize⟩ := hadded.line_of_repeats hle hq hr heq
    have hone := hadded.size_eq rfl
    refine ⟨k, r, hc, ?_, heq⟩
    rw [h.place_eq]
    omega
  · rintro ⟨k, p, hc, hplace, heq⟩
    obtain ⟨r', hr', heq'⟩ := h.exists_vertex (k := k) (v := p) (by simp [vertex?, hc, Command.stop?])
    obtain rfl : r = r' := Option.some.inj (hr.symm.trans (hplace ▸ hr'))
    exact BEq.trans heq (BEq.symm heq')

theorem keeps (h : run.IsTraced f ps a) : run.Keeps f ps where
  vertex _ _ hv := h.exists_vertex hv
  order _ _ _ _ hjk hu hv := h.order hjk hu hv
  repeats _ _ _ hq hr := h.repeats hq hr
  cubic k _ _ _ hc := by
    obtain ⟨polyline, added, hcubic⟩ := h.cubic hc
    exact ⟨a k, polyline, added, h.assembled k, hcubic⟩

end IsTraced

end Path

/-! ## The curves of a path -/

/-- **Curves keep their vertices.** Let each point in which a command of a path ends
equal itself. Then, however far the path is assembled, the pen is at the last
point of the curve that is being assembled; and the curves of the path are those
of its runs that have a point, in order, and each keeps the vertices of its
run. -/
theorem Path.keeps_vertices {p : Path Float} (hp : ∀ c ∈ p.commands, ∀ q, c.stop? = some q → q == q)
    {f : Flattening Float} {i : Nat} {curves : List (Curve Float)} (h : p.curves f i = .ok curves) :
    (∀ k, ∃ a, p.assembled f k = .ok a ∧ ∀ q, a.points.back? = some q → a.pen == q) ∧
    List.Forall₂ (fun run c => Path.polylines f run = .ok [c.points] ∧ run.Keeps f c.points)
      (p.runs.filter Path.isDrawn) curves := by
  obtain ⟨pss, hpss, h⟩ := bind_eq_ok.1 h
  obtain rfl := pure_eq_ok.1 h
  have horigin : (Point.origin : Point Float) == .origin := by decide +kernel
  constructor
  · intro k
    obtain ⟨a, ha⟩ := Path.exists_assembled_of_polylines hpss k
    exact ⟨a, ha, (Path.isProper_assembled horigin hp ha).last⟩
  · have hruns := (List.forall₂_and_left _ _).2
      ⟨fun run (hrun : run ∈ p.runs.filter Path.isDrawn) => List.mem_of_mem_filter hrun,
        Path.polylines_runs hpss⟩
    rw [List.forall₂_map_right_iff]
    refine hruns.imp fun {run ps} ⟨hrun, hps⟩ => ⟨hps, ?_⟩
    obtain ⟨a, ha⟩ := Path.exists_isTraced horigin (Path.not_moves_of_mem_runs hrun)
      (fun c hc => hp c (Path.mem_commands_of_mem_runs hrun hc)) hps
    exact ha.keeps

/-- A path that draws before it moves: a line, a cubic that stays where it is,
closing twice, and the line again; then a cubic that returns to where it starts,
also as it is closed. -/
def Path.retraced : Path Float where
  commands := [.close, .line ⟨1, 2⟩, .cubic ⟨1, 2⟩ ⟨1, 2⟩ ⟨1, 2⟩, .close, .close, .line ⟨1, 2⟩,
    .move ⟨3, 0⟩, .cubic ⟨9, 4⟩ ⟨9, -4⟩ ⟨3, 0⟩, .close]
  paint := .fill

theorem Path.keeps_vertices_retraced :
    (∀ c ∈ Path.retraced.commands, ∀ q, c.stop? = some q → q == q) ∧
    ∃ run run' c c', Path.retraced.runs.filter Path.isDrawn = [run, run'] ∧
      Path.retraced.curves .default 0 = .ok [c, c'] ∧
      run.Keeps .default c.points ∧ run'.Keeps .default c'.points := by
  have hall : (Path.retraced.commands.all fun c => c.stop?.all fun q => q == q) = true := by decide +kernel
  have hstops : ∀ c ∈ Path.retraced.commands, ∀ q, c.stop? = some q → q == q := by
    intro c hc q hq
    have hself := List.all_eq_true.1 hall c hc
    rwa [hq] at hself
  obtain ⟨curves, hcurves⟩ := Path.exists_curves Flattening.isSound_default Path.retraced 0
  obtain ⟨-, hkeeps⟩ := Path.keeps_vertices hstops hcurves
  have hruns : Path.retraced.runs.filter Path.isDrawn
      = [⟨Path.retraced.commands.take 6, .fill⟩, ⟨Path.retraced.commands.drop 6, .fill⟩] := rfl
  rw [hruns] at hkeeps
  obtain ⟨c, _, hc, hrest, rfl⟩ := List.forall₂_cons_left_iff.1 hkeeps
  obtain ⟨c', _, hc', hnone, rfl⟩ := List.forall₂_cons_left_iff.1 hrest
  obtain rfl := List.forall₂_nil_left_iff.1 hnone
  exact ⟨hstops, _, _, c, c', hruns, hcurves, hc.2, hc'.2⟩

end PlotDigitizer
