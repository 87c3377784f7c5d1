/-
The curves of a path, run by run.

The commands of a path fall into runs: those before the first move, and those
from each move up to the next. A move leaves nothing of what was assembled
before but the curves that are ended, and nothing after it asks for those
(`Assembly.follow_on`). So each run is assembled as a path of its own, into one
curve if there is a point in it, and the curves of the path are those of its
runs, in order (`Path.polylines_runs`).
-/
import PlotDigitizer.Proofs.Curve.Numbering

namespace PlotDigitizer

variable {α : Type}

/-! ## Runs -/

namespace Command

/-- The commands before the first move, and those from each move up to the
next. -/
def runs : List (Command α) → List (Command α) × List (List (Command α))
  | [] => ([], [])
  | c :: cs =>
    let (lead, rest) := runs cs
    if c.moves then ([], (c :: lead) :: rest) else (c :: lead, rest)

theorem runs_of_moves {c : Command α} (h : c.moves = true) (cs : List (Command α)) :
    runs (c :: cs) = ([], (c :: (runs cs).1) :: (runs cs).2) := by
  simp [runs, h]

theorem runs_of_not_moves {c : Command α} (h : c.moves = false) (cs : List (Command α)) :
    runs (c :: cs) = (c :: (runs cs).1, (runs cs).2) := by
  simp [runs, h]

/-- The runs are the commands, cut up. -/
theorem flatten_runs (cs : List (Command α)) : (runs cs).1 ++ (runs cs).2.flatten = cs := by
  induction cs with
  | nil => rfl
  | cons c cs ih =>
    cases h : c.moves with
    | true => rw [runs_of_moves h, List.nil_append, List.flatten_cons, List.cons_append, ih]
    | false => rw [runs_of_not_moves h, List.cons_append, ih]

/-- There is no move in what comes before the first. -/
theorem not_moves_lead (cs : List (Command α)) : ∀ c ∈ (runs cs).1, c.moves = false := by
  induction cs with
  | nil => simp [runs]
  | cons c cs ih =>
    cases h : c.moves with
    | true => simp [runs_of_moves h]
    | false => simpa [runs_of_not_moves h, h] using ih

/-- Each of the other runs is a move and commands that are none. -/
theorem exists_of_mem_runs {cs run : List (Command α)} (h : run ∈ (runs cs).2) :
    ∃ c rest, run = c :: rest ∧ c.moves = true ∧ ∀ d ∈ rest, d.moves = false := by
  induction cs with
  | nil => simp [runs] at h
  | cons c cs ih =>
    cases hc : c.moves with
    | true =>
      rw [runs_of_moves hc] at h
      rcases List.mem_cons.1 h with rfl | h
      · exact ⟨c, _, rfl, hc, not_moves_lead cs⟩
      · exact ih h
    | false =>
      rw [runs_of_not_moves hc] at h
      exact ih h

/-- A command that ends in a point of its own moves or draws. -/
theorem isSome_stop? (c : Command α) : c.stop?.isSome = (c.moves || c.draws) := by
  cases c <;> rfl

end Command

namespace Path

def runs (p : Path α) : List (Path α) :=
  ((Command.runs p.commands).1 :: (Command.runs p.commands).2).map fun commands => { p with commands }

/-- Whether there is a point in the path. -/
def isDrawn (p : Path α) : Bool := p.commands.any (·.stop?.isSome)

theorem mem_commands_of_mem_runs {p run : Path α} (h : run ∈ p.runs) {c : Command α}
    (hc : c ∈ run.commands) : c ∈ p.commands := by
  obtain ⟨cs, hcs, rfl⟩ := List.mem_map.1 h
  rw [← Command.flatten_runs p.commands]
  rcases List.mem_cons.1 hcs with rfl | hcs
  · exact List.mem_append_left _ hc
  · exact List.mem_append_right _ (List.mem_flatten_of_mem hcs hc)

/-- In a run only the first command may be a move. -/
theorem not_moves_of_mem_runs {p run : Path α} (h : run ∈ p.runs) :
    ∀ c ∈ run.commands.tail, c.moves = false := by
  obtain ⟨cs, hcs, rfl⟩ := List.mem_map.1 h
  rcases List.mem_cons.1 hcs with rfl | hcs
  · exact fun c hc => Command.not_moves_lead p.commands c (List.mem_of_mem_tail hc)
  · obtain ⟨c, rest, rfl, -, hrest⟩ := Command.exists_of_mem_runs hcs
    exact hrest

end Path

/-! ## Assembling on top of other curves -/

namespace Assembly

/-- The assembly with other curves before its own. -/
def on (s : Assembly α) (curves : Array (List (Point α))) : Assembly α :=
  { s with curves := curves ++ s.curves }

variable (s : Assembly α) (curves : Array (List (Point α)))

theorem flush_on : (s.on curves).flush = s.flush.on curves := by
  unfold flush on
  split <;> simp [*]

/-- A move starts as if nothing was before it, but for the curves that are
ended. -/
theorem flush_add (q : Point α) :
    s.flush.add q = ({ points := #[q], pen := q } : Assembly α).on s.flush.curves := by
  simp [add, on, points_flush]

theorem curves_flush (h : s.points.isEmpty = false) :
    s.flush.curves.toList = s.curves.toList ++ [s.points.toList] := by
  simp [flush, h]

variable [BEq α]

theorem addNew_on (p : Point α) : (s.on curves).addNew p = (s.addNew p).on curves := by
  unfold addNew on
  split <;> rfl

theorem foldl_addNew_on (ps : List (Point α)) :
    ps.foldl addNew (s.on curves) = (ps.foldl addNew s).on curves := by
  induction ps generalizing s with
  | nil => rfl
  | cons p ps ih => rw [List.foldl_cons, List.foldl_cons, addNew_on, ih]

theorem close_on : (s.on curves).close = s.close.on curves := by
  have hfirst : (s.on curves).points[0]? = s.points[0]? := rfl
  have hback (first : Point α) : (s.on curves).isBack first = s.isBack first := rfl
  simp only [close, hfirst, hback]
  cases s.points[0]? with
  | none => rfl
  | some first => cases hb : s.isBack first <;> simp [on, hb]

variable [Zero α] [One α] [Add α] [Sub α] [Mul α] [Div α] [Neg α]
  [OfNat α 2] [OfNat α 3] [OfNat α 6]
  [LE α] [DecidableLE α] [LT α] [DecidableLT α] [Euclidean α]
  (f : Flattening α)

/-- No command looks at the curves that are ended. -/
theorem follow_on (c : Command α) :
    (s.on curves).follow f c = (s.follow f c).map (·.on curves) := by
  cases c with
  | move p =>
    show Except.ok ((s.on curves).flush.add p) = _
    rw [flush_on]
    rfl
  | line p => rfl
  | cubic c₁ c₂ p =>
    have hpen : (s.on curves).pen = s.pen := rfl
    simp only [follow, hpen]
    cases (Cubic.mk s.pen c₁ c₂ p).flatten f with
    | error e => rfl
    | ok ps =>
      simp only [ok_bind, foldl_addNew_on]
      rfl
  | close =>
    show Except.ok (s.on curves).close = _
    rw [close_on]
    rfl

theorem foldlM_on (cs : List (Command α)) :
    cs.foldlM (follow f) (s.on curves) = (cs.foldlM (follow f) s).map (·.on curves) := by
  induction cs generalizing s with
  | nil => rfl
  | cons c cs ih =>
    rw [List.foldlM_cons, List.foldlM_cons, follow_on]
    cases s.follow f c with
    | error e => rfl
    | ok t => exact ih t

variable {s f} {s' : Assembly α} {cs : List (Command α)}

/-- There are points as soon as a command has one. -/
theorem isEmpty_foldlM (h : cs.foldlM (follow f) s = .ok s') :
    s'.points.isEmpty = (s.points.isEmpty && !cs.any (·.stop?.isSome)) := by
  induction cs generalizing s with
  | nil =>
    obtain rfl := pure_eq_ok.1 h
    simp
  | cons c cs ih =>
    rw [List.foldlM_cons] at h
    obtain ⟨t, ht, h⟩ := bind_eq_ok.1 h
    rw [ih h, List.any_cons, Command.isSome_stop?]
    rcases follow_cases ht with ⟨hm, -, he⟩ | ⟨hm, hd, -, he⟩ | ⟨hm, hd, -, he⟩
    · simp [he, hm]
    · simp [he, hd]
    · simp [he, hm, hd]

theorem curves_foldlM (hcs : ∀ c ∈ cs, c.moves = false) (h : cs.foldlM (follow f) s = .ok s') :
    s'.curves = s.curves := by
  induction cs generalizing s with
  | nil => exact pure_eq_ok.1 h ▸ rfl
  | cons c cs ih =>
    obtain ⟨hc, hcs⟩ := List.forall_mem_cons.1 hcs
    rw [List.foldlM_cons] at h
    obtain ⟨t, ht, h⟩ := bind_eq_ok.1 h
    rw [ih hcs h]
    rcases follow_cases ht with ⟨hm, -, -⟩ | ⟨-, -, hcurves, -⟩ | ⟨-, -, hcurves, -⟩
    · exact absurd hm (by simp [hc])
    · exact hcurves
    · exact hcurves

end Assembly

/-! ## The curves of the runs -/

section
variable [BEq α] [Zero α] [One α] [Add α] [Sub α] [Mul α] [Div α] [Neg α]
  [OfNat α 2] [OfNat α 3] [OfNat α 6]
  [LE α] [DecidableLE α] [LT α] [DecidableLT α] [Euclidean α]
  {f : Flattening α} {s s' : Assembly α} {cs : List (Command α)}

/-- What is drawn from a move on, up to the next, is one curve, also as a path of
its own. -/
theorem Path.polylines_run (paint : Paint) {q : Point α} (hcs : ∀ c ∈ cs, c.moves = false)
    (h : cs.foldlM (Assembly.follow f) (s.flush.add q) = .ok s') :
    Path.polylines f ⟨.move q :: cs, paint⟩ = .ok [s'.points.toList] ∧
      s'.flush.curves.toList = s.flush.curves.toList ++ [s'.points.toList] := by
  rw [Assembly.flush_add, Assembly.foldlM_on] at h
  cases ht : cs.foldlM (Assembly.follow f) { points := #[q], pen := q } with
  | error e => simp [ht, Except.map] at h
  | ok t =>
    obtain rfl : t.on s.flush.curves = s' := by simpa [ht, Except.map] using h
    have hempty : t.points.isEmpty = false := by simp [Assembly.isEmpty_foldlM ht]
    have hcurves : t.curves = #[] := Assembly.curves_foldlM hcs ht
    constructor
    · have hfold : (Command.move q :: cs).foldlM (Assembly.follow f) { pen := .origin } = .ok t := by
        rw [List.foldlM_cons]
        exact ht
      rw [Path.polylines, hfold, ok_bind, Assembly.curves_flush _ hempty, hcurves]
      rfl
    · rw [Assembly.curves_flush (t.on s.flush.curves) hempty]
      simp [Assembly.on, hcurves]

theorem Assembly.foldlM_runs (paint : Paint) (h : cs.foldlM (Assembly.follow f) s = .ok s') :
    ∃ t pss, (Command.runs cs).1.foldlM (Assembly.follow f) s = .ok t ∧
      List.Forall₂ (fun run ps => Path.polylines f ⟨run, paint⟩ = .ok [ps]) (Command.runs cs).2 pss ∧
      s'.flush.curves.toList = t.flush.curves.toList ++ pss := by
  induction cs generalizing s with
  | nil => exact ⟨s', [], h, .nil, (List.append_nil _).symm⟩
  | cons c cs ih =>
    rw [List.foldlM_cons] at h
    obtain ⟨u, hu, h⟩ := bind_eq_ok.1 h
    obtain ⟨t, pss, ht, hpss, hcurves⟩ := ih h
    cases hc : c.moves with
    | false =>
      rw [Command.runs_of_not_moves hc]
      refine ⟨t, pss, ?_, hpss, hcurves⟩
      rw [List.foldlM_cons, hu]
      exact ht
    | true =>
      rw [Command.runs_of_moves hc]
      cases c with
      | line | cubic | close => cases hc
      | move q =>
        obtain rfl := Except.ok.inj hu
        obtain ⟨hrun, hended⟩ := Path.polylines_run paint (Command.not_moves_lead cs) ht
        refine ⟨s, t.points.toList :: pss, rfl, .cons hrun hpss, ?_⟩
        rw [hcurves, hended, List.append_assoc]
        rfl

/-- **A path is its runs.** Its curves are those of the runs that have a point,
each of which is one curve by itself. -/
theorem Path.polylines_runs {p : Path α} {pss : List (List (Point α))} (h : p.polylines f = .ok pss) :
    List.Forall₂ (fun run ps => Path.polylines f run = .ok [ps]) (p.runs.filter Path.isDrawn) pss := by
  obtain ⟨s, hs, h⟩ := bind_eq_ok.1 h
  obtain rfl := pure_eq_ok.1 h
  obtain ⟨t, pss, ht, hpss, hcurves⟩ := Assembly.foldlM_runs p.paint hs
  -- A run that begins with a move has a point.
  have hrest : ((Command.runs p.commands).2.map fun commands => { p with commands }).filter isDrawn
      = (Command.runs p.commands).2.map fun commands => { p with commands } := by
    rw [List.filter_eq_self, List.forall_mem_map]
    intro run hrun
    obtain ⟨c, rest, rfl, hc, -⟩ := Command.exists_of_mem_runs hrun
    simp [isDrawn, Command.isSome_stop?, hc]
  have htail : List.Forall₂ (fun run ps => Path.polylines f run = .ok [ps])
      ((Command.runs p.commands).2.map fun commands => { p with commands }) pss :=
    List.forall₂_map_left_iff.2 hpss
  have hlead : t.curves = #[] := Assembly.curves_foldlM (Command.not_moves_lead _) ht
  rw [hcurves, runs, List.map_cons, List.filter_cons, hrest]
  cases hdrawn : isDrawn { p with commands := (Command.runs p.commands).1 } with
  | false =>
    have hnone : t.flush.curves.toList = [] := by
      rw [isDrawn] at hdrawn
      simp [Assembly.flush, Assembly.isEmpty_foldlM ht, hdrawn, hlead]
    rw [hnone]
    exact htail
  | true =>
    have hempty : t.points.isEmpty = false := by
      rw [isDrawn] at hdrawn
      simp [Assembly.isEmpty_foldlM ht, hdrawn]
    have hone : t.flush.curves.toList = [t.points.toList] := by
      rw [Assembly.curves_flush _ hempty, hlead]
      rfl
    rw [hone]
    refine .cons ?_ htail
    rw [polylines, ht, ok_bind, hone]
    rfl

end
end PlotDigitizer
