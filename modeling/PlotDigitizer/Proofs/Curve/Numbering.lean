/-
Curves and the numbers they go by.

Curves are numbered in the order in which they are made, path after path. So
each path owns a block of them, as many as it has moves and one more if it draws
before it moves (`owners_of_assemble`), each with at least one point
(`points_ne_nil_of_assemble`), and a curve is found by its number exactly if it
is at that place (`find?_of_numbered`). `curves_by_number` says it all of every
drawing that is assembled, and of every session that has taken over a pass.
-/
import Mathlib.Data.List.Forall2
import PlotDigitizer.Proofs.Bezier.Flatten
import PlotDigitizer.Proofs.Extraction
import PlotDigitizer.Session

namespace PlotDigitizer

variable {α : Type}

/-! ## Finding a curve by its place -/

/-- Every curve goes by its place among them. -/
def Numbered (curves : List (Curve α)) : Prop := ∀ (k : Nat) (c : Curve α), curves[k]? = some c → c.index = k

theorem numbered_nil : Numbered ([] : List (Curve α)) := by
  intro k c h
  simp at h

/-- Changes that leave the numbers as they are leave the curves numbered. -/
theorem Numbered.map {curves : List (Curve α)} (h : Numbered curves) {g : Curve α → Curve α}
    (hg : ∀ c, (g c).index = c.index) : Numbered (curves.map g) := by
  intro k c hk
  rw [List.getElem?_map, Option.map_eq_some_iff] at hk
  obtain ⟨d, hd, rfl⟩ := hk
  rw [hg, h k d hd]

/-- Among numbered curves the one of a number is the one at that place, if there
is such a place. -/
theorem Numbered.find? {curves : List (Curve α)} (h : Numbered curves) (i : Int) :
    Curve.find? curves i = if 0 ≤ i then curves[i.toNat]? else none := by
  cases hk : (if 0 ≤ i then curves[i.toNat]? else none) with
  | some c =>
    obtain ⟨hi, hk⟩ := (Option.ite_none_right_eq_some).1 hk
    obtain ⟨hlt, hget⟩ := List.getElem?_eq_some_iff.1 hk
    have hindex := h _ c hk
    rw [Curve.find?, List.find?_eq_some_iff_getElem]
    refine ⟨by simp only [hindex, Int.toNat_of_nonneg hi, beq_self_eq_true], i.toNat, hlt, hget, fun j hj => ?_⟩
    have hother := h j _ (List.getElem?_eq_getElem (Nat.lt_trans hj hlt))
    simp only [hother, Bool.not_eq_true', beq_eq_false_iff_ne, ne_eq]
    omega
  | none =>
    rw [Curve.find?, List.find?_eq_none]
    intro c hc hindex
    obtain ⟨k, hk'⟩ := List.getElem?_of_mem hc
    have hi : (k : Int) = i := (h k c hk').symm.trans (by simpa using hindex)
    subst hi
    simp [hk'] at hk

theorem find?_of_numbered {curves : List (Curve α)} (h : Numbered curves) {k : Nat} {c : Curve α}
    (hk : curves[k]? = some c) : Curve.find? curves k = some c := by
  rw [h.find?, if_pos (Int.natCast_nonneg k), Int.toNat_natCast, hk]

/-- A whole number finds a curve as any value that equals it does. -/
theorem findAt?_int [BEq α] [Reading α] (curves : List (Curve α)) (i : Int) :
    Curve.findAt? curves (.int i) = Curve.find? curves i := by
  rw [Curve.findAt?, Curve.find?]
  congr 1
  funext c
  simp [Value.isWhole, Value.whole?, eq_comm]

/-! ## Assembling a path -/

namespace Command

def moves : Command α → Bool
  | .move _ => true
  | .line _ | .cubic _ _ _ | .close => false

def draws : Command α → Bool
  | .line _ | .cubic _ _ _ => true
  | .move _ | .close => false

end Command

/-- How many curves a path is: one for each move, and one more if it draws before
it moves. -/
def Path.curveCount (p : Path α) : Nat :=
  p.commands.countP Command.moves +
    if (p.commands.takeWhile fun c => !c.moves).any Command.draws then 1 else 0

namespace Assembly

/-- All curves that are ended have points. -/
def IsFilled (s : Assembly α) : Prop := ∀ ps ∈ s.curves.toList, ps ≠ []

/-- How many curves there are, the one that is being assembled included. -/
def begun (s : Assembly α) : Nat := s.curves.size + if s.points.isEmpty then 0 else 1

theorem IsFilled.flush {s : Assembly α} (h : s.IsFilled) : s.flush.IsFilled := by
  unfold Assembly.flush
  split
  · exact h
  · rename_i hne
    intro ps hps
    simp only [Array.toList_push, List.mem_append, List.mem_singleton] at hps
    rcases hps with hps | rfl
    · exact h ps hps
    · simpa using hne

/-- Ending the curve that is being assembled makes it one of the others. -/
theorem size_flush (s : Assembly α) : s.flush.curves.size = s.begun := by
  unfold Assembly.flush begun
  split <;> simp [*]

theorem points_flush (s : Assembly α) : s.flush.points = #[] := by
  unfold flush
  split
  · rename_i h
    exact Array.isEmpty_iff.1 h
  · rfl

theorem isEmpty_add (s : Assembly α) (p : Point α) : (s.add p).points.isEmpty = false := by
  simp [add]

section
variable [BEq α]

theorem curves_addNew (s : Assembly α) (p : Point α) : (s.addNew p).curves = s.curves := by
  unfold addNew
  split <;> rfl

theorem isEmpty_addNew (s : Assembly α) (p : Point α) : (s.addNew p).points.isEmpty = false := by
  unfold addNew
  split
  · rename_i h
    rw [Bool.eq_false_iff, ne_eq, Array.isEmpty_iff]
    -- A point that is repeated is there.
    intro hempty
    simp [hempty] at h
  · simp

theorem curves_foldl_addNew (ps : List (Point α)) (s : Assembly α) :
    (ps.foldl addNew s).curves = s.curves := by
  induction ps generalizing s with
  | nil => rfl
  | cons p ps ih => rw [List.foldl_cons, ih, curves_addNew]

theorem isEmpty_foldl_addNew {ps : List (Point α)} (h : ps ≠ []) (s : Assembly α) :
    (ps.foldl addNew s).points.isEmpty = false := by
  obtain ⟨ps, p, rfl⟩ := List.eq_nil_or_concat' ps |>.resolve_left h
  rw [List.foldl_append, List.foldl_cons, List.foldl_nil, isEmpty_addNew]

theorem curves_close (s : Assembly α) : s.close.curves = s.curves := by
  unfold close
  split
  · rfl
  · split <;> rfl

theorem isEmpty_close (s : Assembly α) : s.close.points.isEmpty = s.points.isEmpty := by
  unfold close
  split
  · rfl
  · rename_i first hfirst
    have hne : s.points.isEmpty = false := by
      rw [Bool.eq_false_iff, ne_eq, Array.isEmpty_iff]
      intro hempty
      simp [hempty] at hfirst
    split
    · rfl
    · simp [hne]

end

section
variable [BEq α] [Zero α] [One α] [Add α] [Sub α] [Mul α] [Div α] [Neg α]
  [OfNat α 2] [OfNat α 3] [OfNat α 6]
  [LE α] [DecidableLE α] [LT α] [DecidableLT α] [Euclidean α]
  {f : Flattening α} {s s' : Assembly α} {c : Command α}

theorem flatten_ne_nil {cubic : Cubic α} {ps : List (Point α)} (h : cubic.flatten f = .ok ps) : ps ≠ [] := by
  obtain ⟨qs, -, rfl⟩ := Cubic.flatten_eq_ok.1 h
  exact List.concat_ne_nil cubic.p3 qs

theorem follow_cubic {c₁ c₂ p : Point α} (h : s.follow f (.cubic c₁ c₂ p) = .ok s') :
    ∃ polyline, (Cubic.mk s.pen c₁ c₂ p).flatten f = .ok polyline ∧
      s' = { polyline.foldl addNew s with pen := p } := by
  obtain ⟨polyline, hpolyline, h⟩ := bind_eq_ok.1 h
  exact ⟨polyline, hpolyline, (pure_eq_ok.1 h).symm⟩

/-- What a command does to an assembly, if it succeeds: a move ends the curve,
and the others keep all that are ended. -/
theorem follow_cases (h : s.follow f c = .ok s') :
    (c.moves = true ∧ s'.curves = s.flush.curves ∧ s'.points.isEmpty = false) ∨
    (c.moves = false ∧ c.draws = true ∧ s'.curves = s.curves ∧ s'.points.isEmpty = false) ∨
    (c.moves = false ∧ c.draws = false ∧ s'.curves = s.curves ∧
      s'.points.isEmpty = s.points.isEmpty) := by
  cases c with
  | move p =>
    obtain rfl := Except.ok.inj h
    exact .inl ⟨rfl, rfl, isEmpty_add _ p⟩
  | line p =>
    obtain rfl := Except.ok.inj h
    exact .inr (.inl ⟨rfl, rfl, rfl, isEmpty_add s p⟩)
  | cubic c₁ c₂ p =>
    obtain ⟨ps, hps, rfl⟩ := follow_cubic h
    exact .inr (.inl ⟨rfl, rfl, curves_foldl_addNew ps s, isEmpty_foldl_addNew (flatten_ne_nil hps) s⟩)
  | close =>
    obtain rfl := Except.ok.inj h
    exact .inr (.inr ⟨rfl, rfl, curves_close s, isEmpty_close s⟩)

theorem IsFilled.follow (hs : s.IsFilled) (h : s.follow f c = .ok s') : s'.IsFilled := by
  rcases follow_cases h with ⟨-, hc, -⟩ | ⟨-, -, hc, -⟩ | ⟨-, -, hc, -⟩
  · rw [IsFilled, hc]
    exact hs.flush
  · rwa [IsFilled, hc]
  · rwa [IsFilled, hc]

/-- A curve is begun by a move, and by what draws while there is none. -/
theorem begun_follow (h : s.follow f c = .ok s') :
    s'.begun = s.begun + if c.moves || (s.points.isEmpty && c.draws) then 1 else 0 := by
  rcases follow_cases h with ⟨hm, hc, he⟩ | ⟨hm, hd, hc, he⟩ | ⟨hm, hd, hc, he⟩
  · rw [begun, hc, size_flush, he, hm]
    rfl
  · rw [begun, begun, hc, he, hm, hd]
    cases s.points.isEmpty <;> rfl
  · rw [begun, begun, hc, he, hm, hd]
    simp

theorem begun_foldlM {cs : List (Command α)} (h : cs.foldlM (Assembly.follow f) s = .ok s') :
    s'.begun = s.begun + (cs.countP Command.moves +
      if s.points.isEmpty && (cs.takeWhile fun c => !c.moves).any Command.draws then 1 else 0) := by
  induction cs generalizing s with
  | nil =>
    obtain rfl := pure_eq_ok.1 h
    simp
  | cons c cs ih =>
    rw [List.foldlM_cons] at h
    obtain ⟨t, ht, h⟩ := bind_eq_ok.1 h
    rw [ih h, begun_follow ht]
    rcases follow_cases ht with ⟨hm, -, he⟩ | ⟨hm, hd, -, he⟩ | ⟨hm, hd, -, he⟩
    · simp [hm, he]
      omega
    · simp [hm, hd, he]
      omega
    · simp [hm, hd, he]

end
end Assembly

/-! ## Assembling all paths -/

/-- Numbering changes nothing else. -/
theorem map_zipIdx_index {β : Type} {g : Curve α → β} (hg : ∀ (c : Curve α) (i : Int), g { c with index := i } = g c)
    (cs : List (Curve α)) :
    (cs.zipIdx.map fun (c, i) => ({ c with index := (i : Int) } : Curve α)).map g = cs.map g := by
  rw [List.map_map]
  calc cs.zipIdx.map (g ∘ fun (c, i) => { c with index := (i : Int) })
      = cs.zipIdx.map (g ∘ Prod.fst) := List.map_congr_left fun q _ => hg q.1 q.2
    _ = cs.map g := by rw [← List.map_map, List.zipIdx_map_fst]

section
variable [BEq α] [Zero α] [One α] [Add α] [Sub α] [Mul α] [Div α] [Neg α]
  [OfNat α 2] [OfNat α 3] [OfNat α 6]
  [LE α] [DecidableLE α] [LT α] [DecidableLT α] [Euclidean α]
  {f : Flattening α}

/-- The curves of a path are as many as it begins, and each has points. -/
theorem Path.polylines_spec {p : Path α} {pss : List (List (Point α))} (h : p.polylines f = .ok pss) :
    pss.length = p.curveCount ∧ ∀ ps ∈ pss, ps ≠ [] := by
  obtain ⟨s, hs, h⟩ := bind_eq_ok.1 h
  obtain rfl := pure_eq_ok.1 h
  constructor
  · rw [Array.length_toList, Assembly.size_flush, Assembly.begun_foldlM hs, Path.curveCount]
    simp [Assembly.begun]
  · have hfilled : s.IsFilled :=
      foldlM_induction (fun _ _ _ ht h => Assembly.IsFilled.follow ht h) hs (by simp [Assembly.IsFilled])
    exact hfilled.flush

theorem Path.curves_spec {p : Path α} {i : Nat} {cs : List (Curve α)} (h : p.curves f i = .ok cs) :
    cs.map (fun c => (c.pathIndex, c.paint)) = List.replicate p.curveCount (i, p.paint) ∧
      ∀ c ∈ cs, c.points ≠ [] := by
  obtain ⟨pss, hpss, h⟩ := bind_eq_ok.1 h
  obtain rfl := pure_eq_ok.1 h
  obtain ⟨hlength, hpoints⟩ := Path.polylines_spec hpss
  constructor
  · rw [← hlength, List.map_map, ← List.map_const']
    rfl
  · simpa using hpoints

theorem Path.forall₂_curves_spec {qs : List (Path α × Nat)} {css : List (List (Curve α))}
    (h : List.Forall₂ (fun q cs => Path.curves f q.1 q.2 = .ok cs) qs css) :
    css.map (List.map fun c => (c.pathIndex, c.paint)) =
        qs.map (fun (p, i) => List.replicate p.curveCount (i, p.paint)) ∧
      ∀ cs ∈ css, ∀ c ∈ cs, c.points ≠ [] := by
  induction h with
  | nil => simp
  | cons hcs _ ih =>
    obtain ⟨howners, hpoints⟩ := Path.curves_spec hcs
    exact ⟨by rw [List.map_cons, List.map_cons, ih.1, howners], List.forall_mem_cons.2 ⟨hpoints, ih.2⟩⟩

variable {paths : List (Path α)} {curves : List (Curve α)}

theorem assemble_eq_ok : assemble f paths = .ok curves ↔
    ∃ css, List.Forall₂ (fun q cs => Path.curves f q.1 q.2 = .ok cs) paths.zipIdx css ∧
      curves = css.flatten.zipIdx.map fun (c, i) => { c with index := i } := by
  rw [assemble, bind_eq_ok]
  refine exists_congr fun css => and_congr mapM_eq_ok ?_
  rw [pure_eq_ok, eq_comm]

theorem numbered_of_assemble (h : assemble f paths = .ok curves) : Numbered curves := by
  obtain ⟨css, -, rfl⟩ := assemble_eq_ok.1 h
  intro k c hk
  simp only [List.getElem?_map, List.getElem?_zipIdx, Option.map_eq_some_iff] at hk
  obtain ⟨_, ⟨d, -, rfl⟩, rfl⟩ := hk
  simp

theorem points_ne_nil_of_assemble (h : assemble f paths = .ok curves) : ∀ c ∈ curves, c.points ≠ [] := by
  obtain ⟨css, hcss, rfl⟩ := assemble_eq_ok.1 h
  intro c hc
  obtain ⟨q, hq, rfl⟩ := List.mem_map.1 hc
  obtain ⟨cs, hcs, hmem⟩ := List.mem_flatten.1 (List.fst_mem_of_mem_zipIdx hq)
  exact (Path.forall₂_curves_spec hcss).2 cs hcs q.1 hmem

/-- **What path each curve is part of.** The curves are those of the first path,
then those of the second, and so on. -/
theorem owners_of_assemble (h : assemble f paths = .ok curves) :
    curves.map (fun c => (c.pathIndex, c.paint)) =
      paths.zipIdx.flatMap fun (p, i) => List.replicate p.curveCount (i, p.paint) := by
  obtain ⟨css, hcss, rfl⟩ := assemble_eq_ok.1 h
  rw [map_zipIdx_index (fun c i => rfl), List.map_flatten, (Path.forall₂_curves_spec hcss).1,
    List.flatMap_def]

end

/-! ## Blocks of curves -/

section
variable (g : Path α → Nat) (paths : List (Path α))

/-- The paths by their positions, each as often as `g` says. -/
def Path.blocks : List (Nat × Paint) :=
  paths.zipIdx.flatMap fun (p, i) => List.replicate (g p) (i, p.paint)

theorem Path.pairwise_blocks : ((Path.blocks g paths).map (·.1)).Pairwise (· ≤ ·) := by
  have hpositions : (paths.zipIdx).Pairwise fun q r => q.2 < r.2 := by
    have h : (List.range' 0 paths.length).Pairwise (· < ·) := List.pairwise_lt_range' 1
    rwa [← List.zipIdx_map_snd, List.pairwise_map] at h
  rw [List.pairwise_map, Path.blocks, List.pairwise_flatMap]
  constructor
  · intro q _
    exact List.pairwise_replicate.2 (.inr (Nat.le_refl _))
  · refine hpositions.imp fun {q r} hlt x hx y hy => ?_
    rw [(List.mem_replicate.1 hx).2, (List.mem_replicate.1 hy).2]
    exact Nat.le_of_lt hlt

variable {g paths}

theorem Path.mem_blocks {q : Nat × Paint} (h : q ∈ Path.blocks g paths) :
    ∃ p, paths[q.1]? = some p ∧ q.2 = p.paint := by
  obtain ⟨⟨p, i⟩, hp, hq⟩ := List.mem_flatMap.1 h
  obtain ⟨-, rfl⟩ := List.mem_replicate.1 hq
  exact ⟨p, List.mem_zipIdx_iff_getElem?.1 hp, rfl⟩

theorem Path.countP_blocks {i : Nat} {p : Path α} (h : paths[i]? = some p) :
    (Path.blocks g paths).countP (·.1 == i) = g p := by
  obtain ⟨hlt, hp⟩ := List.getElem?_eq_some_iff.1 h
  obtain ⟨before, after, rfl, rfl⟩ : ∃ before after, paths = before ++ p :: after ∧ before.length = i :=
    ⟨paths.take i, paths.drop (i + 1), by rw [← hp, List.getElem_cons_drop, List.take_append_drop],
      List.length_take_of_le (Nat.le_of_lt hlt)⟩
  -- No path before or after has this position.
  have hother {l : List (Path α)} {n : Nat} (hl : ∀ q ∈ l.zipIdx n, q.2 ≠ before.length) :
      ((l.zipIdx n).flatMap fun (p, i) => List.replicate (g p) (i, p.paint)).countP
        (·.1 == before.length) = 0 := by
    rw [List.countP_eq_zero]
    intro x hx
    obtain ⟨q, hq, hx⟩ := List.mem_flatMap.1 hx
    rw [(List.mem_replicate.1 hx).2]
    simpa using hl q hq
  have hbefore := hother (l := before) (n := 0) fun q hq => by
    have := List.snd_lt_of_mem_zipIdx hq
    omega
  have hafter := hother (l := after) (n := 0 + before.length + 1) fun q hq => by
    have := List.le_snd_of_mem_zipIdx hq
    omega
  rw [Path.blocks, List.zipIdx_append, List.flatMap_append, List.countP_append, hbefore,
    List.zipIdx_cons, List.flatMap_cons, List.countP_append, hafter]
  simp [List.countP_replicate]

end

/-! ## Curves of drawings and of sessions -/

section
variable [BEq α] [Zero α] [One α] [Add α] [Sub α] [Mul α] [Div α] [Neg α]
  [OfNat α 2] [OfNat α 3] [OfNat α 6]
  [LE α] [DecidableLE α] [LT α] [DecidableLT α] [Euclidean α] [Reading α]

theorem numbered_extractPage (page : Page α) : Numbered (extractPage page).output.curves := by
  cases hp : extractPaths page.operators with
  | error e =>
    rw [extractPage_of_error hp]
    exact numbered_nil
  | ok paths =>
    cases hc : assemble page.flattening paths with
    | error e =>
      rw [extractPage_of_not_assembled hp hc]
      exact numbered_nil
    | ok curves =>
      rw [extractPage_of_ok hp hc]
      exact (numbered_of_assemble hc).map fun c => rfl

/-- **Curves go by their places.** Whenever the paths of a drawing are assembled,
each curve is numbered by its place; the positions of their paths never
decrease, and each curve is painted as its path is; a path begins a curve with
each move, and one more if it draws before it moves; and every curve has points.
So after a pass, whatever session takes it over, a whole number finds the curve
at that place, and nothing if there is no such place. -/
theorem curves_by_number :
    (∀ (f : Flattening α) (paths : List (Path α)) (curves : List (Curve α)),
      assemble f paths = .ok curves →
        (∀ (k : Nat) (c : Curve α), curves[k]? = some c → c.index = k) ∧
        (curves.map (·.pathIndex)).Pairwise (· ≤ ·) ∧
        (∀ c ∈ curves, ∃ p, paths[c.pathIndex]? = some p ∧ c.paint = p.paint) ∧
        (∀ (i : Nat) (p : Path α), paths[i]? = some p →
          curves.countP (·.pathIndex == i) = p.commands.countP Command.moves +
            if (p.commands.takeWhile fun c => !c.moves).any Command.draws then 1 else 0) ∧
        (∀ c ∈ curves, c.points ≠ [])) ∧
    (∀ (page : Page α) (s : Session α) (i : Int),
      let curves := (extractPage page).output.curves
      let found := if 0 ≤ i then curves[i.toNat]? else none
      Curve.findAt? curves (.int i) = found ∧
      (s.extracted page.number (extractPage page)).curve? i = found ∧
      (s.extracted page.number (extractPage page)).curveAt? (.int i) = found) := by
  refine ⟨fun f paths curves h => ?_, fun page s i => ?_⟩
  · have howners : curves.map (fun c => (c.pathIndex, c.paint)) = Path.blocks Path.curveCount paths :=
      owners_of_assemble h
    refine ⟨numbered_of_assemble h, ?_, fun c hc => ?_, fun i p hp => ?_, points_ne_nil_of_assemble h⟩
    · have hpairwise := Path.pairwise_blocks Path.curveCount paths
      rwa [← howners, List.map_map] at hpairwise
    · have hmem : (c.pathIndex, c.paint) ∈ Path.blocks Path.curveCount paths :=
        howners ▸ List.mem_map_of_mem hc
      exact Path.mem_blocks hmem
    · rw [← Path.curveCount, ← Path.countP_blocks (g := Path.curveCount) hp, ← howners, List.countP_map]
      rfl
  · have hfind := (numbered_extractPage page).find? i
    exact ⟨(findAt?_int _ i).trans hfind, hfind, (findAt?_int _ i).trans hfind⟩

end
end PlotDigitizer
