/-
Curves stay inside the outline of their path, in exact arithmetic.

The outline of a path is all that its commands name: where they end, and the
control points of cubics; and the origin, if a cubic is drawn before the pen was
anywhere else. What follows a command only adds points of a cubic, points it
has already, and points of the outline (`Assembly.Within.follow`). So every
curve of the path lies in the least box around the outline, and with it the
curve's own box and whatever is calibrated by it (`Path.within_outline`).
-/
import PlotDigitizer.Calibration.Calibrator
import PlotDigitizer.Proofs.Bezier.Chord
import PlotDigitizer.Proofs.Bezier.Hull
import PlotDigitizer.Proofs.Curve.Assembled

namespace PlotDigitizer

variable {α : Type}

/-! ## What a path names -/

namespace Command

/-- The points that a command names. -/
def corners : Command α → List (Point α)
  | .move p | .line p => [p]
  | .cubic c₁ c₂ p => [c₁, c₂, p]
  | .close => []

/-- Whether a cubic comes before any move or line. -/
def fromOrigin : List (Command α) → Bool
  | [] | .move _ :: _ | .line _ :: _ => false
  | .cubic _ _ _ :: _ => true
  | .close :: cs => fromOrigin cs

end Command

/-- The points that the commands of a path name; with the origin if a cubic
starts there. -/
def Path.outline [Zero α] (p : Path α) : List (Point α) :=
  (if Command.fromOrigin p.commands then [.origin] else []) ++ p.commands.flatMap Command.corners

def Path.box [Zero α] [BEq α] [LT α] [DecidableLT α] (p : Path α) : Box α := .ofPoints p.outline

/-! ## Extents -/

section
variable [LinearOrder α]

/-- The segment from the least corner of a box to the greatest. -/
def Box.diagonal (b : Box α) : Segment α := ⟨b.xmin, b.ymin, b.xmax, b.ymax⟩

theorem Box.Encloses.extent {b b' : Box α} (h : b.Encloses b') (a : Axis) :
    (b.diagonal.extent a).1 ≤ (b'.diagonal.extent a).1 ∧ (b'.diagonal.extent a).2 ≤ (b.diagonal.extent a).2 := by
  cases a with
  | x => exact ⟨h.left, h.right⟩
  | y => exact ⟨h.bottom, h.top⟩

theorem Box.Contains.extent_le {b : Box α} {p : Point α} (h : b.Contains p) (a : Axis) :
    (b.diagonal.extent a).1 ≤ (b.diagonal.extent a).2 := by
  cases a with
  | x => exact h.left.trans h.right
  | y => exact h.bottom.trans h.top

/-- A curve calibrates an axis by the diagonal of its box. -/
theorem setSpan_eq [Zero α] (k : Calibrator α) (a : Axis) {points : List (Point α)} (hne : points ≠ []) :
    k.setSpan a points = .ok (k.setSegment a (Box.ofPoints points).diagonal) := by
  cases points with
  | nil => exact absurd rfl hne
  | cons => rfl

end

/-! ## Assembling -/

section
variable [LinearOrder α]

namespace Assembly

/-- All points so far are in the box. -/
structure Within (s : Assembly α) (b : Box α) : Prop where
  curves : ∀ ps ∈ s.curves.toList, ∀ p ∈ ps, b.Contains p
  points : ∀ p ∈ s.points.toList, b.Contains p

variable {s s' : Assembly α} {b : Box α}

theorem Within.flush (h : s.Within b) : s.flush.Within b := by
  unfold Assembly.flush
  split
  · exact h
  · constructor
    · intro ps hps
      rw [Array.toList_push, List.mem_append, List.mem_singleton] at hps
      rcases hps with hps | rfl
      · exact h.curves ps hps
      · exact h.points
    · simp

theorem Within.add (h : s.Within b) {p : Point α} (hp : b.Contains p) : (s.add p).Within b where
  curves := h.curves
  points := by
    show ∀ q ∈ (s.points.push p).toList, b.Contains q
    rw [Array.toList_push]
    exact List.forall_mem_append.2 ⟨h.points, by simpa using hp⟩

theorem Within.addNew (h : s.Within b) {p : Point α} (hp : b.Contains p) : (s.addNew p).Within b := by
  unfold Assembly.addNew
  split
  · exact h
  · exact ⟨h.curves, (h.add hp).points⟩

theorem Within.foldl_addNew (h : s.Within b) {ps : List (Point α)} (hps : ∀ p ∈ ps, b.Contains p) :
    (ps.foldl Assembly.addNew s).Within b := by
  induction ps generalizing s with
  | nil => exact h
  | cons p ps ih =>
    obtain ⟨hp, hps⟩ := List.forall_mem_cons.1 hps
    exact ih (h.addNew hp) hps

theorem Within.close (h : s.Within b) : s.close.Within b := by
  unfold Assembly.close
  split
  · exact h
  · rename_i first hfirst
    have hmem : b.Contains first := h.points first (Array.mem_toList_iff.2 (Array.mem_of_getElem? hfirst))
    split
    · exact ⟨h.curves, h.points⟩
    · exact ⟨h.curves, (h.add hmem).points⟩

/-- The pen is in the box, or it is nowhere and no cubic will start there. -/
def Ready (s : Assembly α) (b : Box α) (cs : List (Command α)) : Prop :=
  b.Contains s.pen ∨ s.points = #[] ∧ Command.fromOrigin cs = false

/-- Closing takes the pen to a point that the curve has, if it has any. -/
theorem Ready.close {cs : List (Command α)} (h : s.Ready b (.close :: cs)) (hs : s.Within b) :
    s.close.Ready b cs := by
  unfold Assembly.close
  split
  · exact h
  · rename_i first hfirst
    have hmem : b.Contains first := hs.points first (Array.mem_toList_iff.2 (Array.mem_of_getElem? hfirst))
    split
    · exact .inl hmem
    · exact .inl hmem

end Assembly
end

section
variable [Field α] [LinearOrder α] [IsStrictOrderedRing α] [Euclidean α]
variable {f : Flattening α} {s s' : Assembly α} {b : Box α}

/-- A command whose corners are in the box adds no point outside it. -/
theorem Assembly.Within.follow (hs : s.Within b) {c : Command α} {cs : List (Command α)}
    (hready : s.Ready b (c :: cs)) (hc : ∀ p ∈ c.corners, b.Contains p) (h : s.follow f c = .ok s') :
    s'.Within b ∧ s'.Ready b cs := by
  cases c with
  | move p =>
    obtain rfl := Except.ok.inj h
    have hp : b.Contains p := hc p (List.mem_singleton_self p)
    exact ⟨hs.flush.add hp, .inl hp⟩
  | line p =>
    obtain rfl := Except.ok.inj h
    have hp : b.Contains p := hc p (List.mem_singleton_self p)
    exact ⟨hs.add hp, .inl hp⟩
  | cubic c₁ c₂ p =>
    obtain ⟨ps, hps, rfl⟩ := follow_cubic h
    obtain ⟨hc₁, hc₂, hp⟩ : b.Contains c₁ ∧ b.Contains c₂ ∧ b.Contains p := by
      simpa [Command.corners] using hc
    -- A cubic that comes first starts at the origin.
    have hpen : b.Contains s.pen := hready.resolve_right fun h => Bool.noConfusion h.2
    have hcubic : (Cubic.mk s.pen c₁ c₂ p).Within b := ⟨hpen, hc₁, hc₂, hp⟩
    have hadded := hs.foldl_addNew (hcubic.flatten hps)
    exact ⟨⟨hadded.curves, hadded.points⟩, .inl hp⟩
  | close =>
    obtain rfl := Except.ok.inj h
    exact ⟨hs.close, hready.close hs⟩

theorem Assembly.Within.foldlM (hs : s.Within b) {cs : List (Command α)} (hready : s.Ready b cs)
    (hcs : ∀ p ∈ cs.flatMap Command.corners, b.Contains p) (h : cs.foldlM (Assembly.follow f) s = .ok s') :
    s'.Within b := by
  induction cs generalizing s with
  | nil => exact pure_eq_ok.1 h ▸ hs
  | cons c cs ih =>
    rw [List.foldlM_cons] at h
    obtain ⟨t, ht, h⟩ := bind_eq_ok.1 h
    rw [List.flatMap_cons, List.forall_mem_append] at hcs
    obtain ⟨hwithin, hready⟩ := hs.follow hready hcs.1 ht
    exact ih hwithin hready hcs.2 h

/-! ## Curves -/

variable {p : Path α}

theorem Path.contains_of_polylines (hb : ∀ q ∈ p.outline, b.Contains q) {pss : List (List (Point α))}
    (h : p.polylines f = .ok pss) : ∀ ps ∈ pss, ∀ q ∈ ps, b.Contains q := by
  obtain ⟨s, hs, h⟩ := bind_eq_ok.1 h
  obtain rfl := pure_eq_ok.1 h
  obtain ⟨horigin, hcorners⟩ := List.forall_mem_append.1 hb
  have hstart : ({ pen := .origin } : Assembly α).Within b := by constructor <;> simp
  have hready : ({ pen := .origin } : Assembly α).Ready b p.commands := by
    cases hfrom : Command.fromOrigin p.commands with
    | false => exact .inr ⟨rfl, hfrom⟩
    | true => exact .inl (horigin .origin (by simp [hfrom]))
  exact (hstart.foldlM hready hcorners hs).flush.curves

theorem Path.outline_ne_nil {pss : List (List (Point α))} (h : p.polylines f = .ok pss)
    {ps : List (Point α)} (hps : ps ∈ pss) {q : Point α} (hq : q ∈ ps) : p.outline ≠ [] := by
  intro hnil
  -- Any box is around no points at all; also one that contains no point.
  have hnone : ∀ r ∈ p.outline, (⟨1, 1, 0, 0⟩ : Box α).Contains r := by simp [hnil]
  have hin := Path.contains_of_polylines hnone h ps hps q hq
  exact zero_lt_one.not_ge (hin.left.trans hin.right)

/-- **Curves stay inside the outline.** The box of a path has the least and the
greatest coordinates of the path's outline. Whatever the settings are, each
point of each curve of the path is in that box, and the curve's own box is
inside it. The curve can calibrate either axis of any calibration, by a segment
whose extents are within those of the path's box. -/
theorem Path.within_outline {i : Nat} {curves : List (Curve α)} (h : p.curves f i = .ok curves) :
    ∀ c ∈ curves, p.box.IsLeast p.outline ∧ (∀ q ∈ c.points, p.box.Contains q) ∧ p.box.Encloses c.box ∧
      ∀ (k : Calibrator α) (a : Axis), ∃ after segment,
        k.setSpan a c.points = .ok after ∧ (after.slots a).segment = some segment ∧
        ∀ b, (p.box.diagonal.extent b).1 ≤ (segment.extent b).1 ∧
          (segment.extent b).1 ≤ (segment.extent b).2 ∧
          (segment.extent b).2 ≤ (p.box.diagonal.extent b).2 := by
  intro c hc
  have hne := (Path.curves_spec h).2 c hc
  obtain ⟨pss, hpss, h⟩ := bind_eq_ok.1 h
  obtain rfl := pure_eq_ok.1 h
  obtain ⟨ps, hps, rfl⟩ := List.mem_map.1 hc
  obtain ⟨q, hq⟩ := List.exists_mem_of_ne_nil ps hne
  have hleast : p.box.IsLeast p.outline := Box.isLeast_ofPoints (Path.outline_ne_nil hpss hps hq)
  have hown : (Box.ofPoints ps).IsLeast ps := Box.isLeast_ofPoints hne
  have hinside := Path.contains_of_polylines (fun r hr => hleast.contains hr) hpss ps hps
  have henclosed : p.box.Encloses (Box.ofPoints ps) := hown.encloses hinside
  refine ⟨hleast, hinside, henclosed, fun k a => ⟨_, (Box.ofPoints ps).diagonal, setSpan_eq k a hne, ?_,
    fun b => ?_⟩⟩
  · rw [Calibrator.setSegment, Calibrator.slots_update_self]
  · have hwithin := henclosed.extent b
    exact ⟨hwithin.1, (hown.contains hq).extent_le b, hwithin.2⟩

end

/-- A path that starts with a cubic, from the origin, whose control points lie
beyond its ends; closed, and then closed again after a line. -/
noncomputable def Path.cubicFirst : Path ℝ where
  commands := [.close, .cubic ⟨1, -1⟩ ⟨-1, 1⟩ ⟨1, 0⟩, .line ⟨1, 1⟩, .close, .move ⟨0, -1⟩, .close]
  paint := .stroke

theorem Path.within_outline_cubicFirst :
    Path.cubicFirst.outline = [⟨0, 0⟩, ⟨1, -1⟩, ⟨-1, 1⟩, ⟨1, 0⟩, ⟨1, 1⟩, ⟨0, -1⟩] ∧
    ∃ curves, Path.cubicFirst.curves (.ofLimits (1 / 100) 10 3 0) 0 = .ok curves ∧ curves.length = 2 ∧
      ∀ c ∈ curves, Path.cubicFirst.box.Encloses c.box := by
  obtain ⟨curves, hcurves⟩ := Path.exists_curves
    (Flattening.isSound_ofLimits (1 / 100) 10 3 (coversZero_real le_rfl)) Path.cubicFirst 0
  have hlength := congrArg List.length (Path.curves_spec hcurves).1
  rw [List.length_map, List.length_replicate] at hlength
  exact ⟨rfl, curves, hcurves, hlength, fun c hc => (Path.within_outline hcurves c hc).2.2.1⟩

end PlotDigitizer
