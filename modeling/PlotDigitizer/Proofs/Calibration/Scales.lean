/-
When a calibration has scales, and which failure it has otherwise.

Two properties of each axis decide: whether it is calibrated, and whether its
reference is flat (`Calibrator.fault?`). A calibrated axis with a flat
reference is reported whatever the other axis is like, the first axis before
the second; only then is it asked whether both are calibrated.
-/
import PlotDigitizer.Calibration.Calibrator
import PlotDigitizer.Proofs.Success

namespace PlotDigitizer

variable {α : Type}

/-- The scale of an axis, by the coordinates of its ends and the data values
there. -/
def AxisScale.between [Sub α] [Mul α] [Div α] (lo hi start stop : α) : AxisScale α :=
  let scale := (stop - start) / (hi - lo)
  { scale, offset := start - lo * scale, dataStart := start, dataStop := stop }

theorem Axis.forall {p : Axis → Prop} : (∀ a, p a) ↔ p .x ∧ p .y :=
  ⟨fun h => ⟨h .x, h .y⟩, fun h a => by cases a; exacts [h.1, h.2]⟩

theorem Axis.exists {p : Axis → Prop} : (∃ a, p a) ↔ p .x ∨ p .y :=
  ⟨fun ⟨a, h⟩ => by cases a; exacts [.inl h, .inr h], fun h => h.elim (⟨_, ·⟩) (⟨_, ·⟩)⟩

/-- The scale of one of the axes. -/
def Scales.along (s : Scales α) : Axis → AxisScale α
  | .x => s.x
  | .y => s.y

section
variable [BEq α] [Zero α] [Sub α]

/-- A segment has no extent along an axis. -/
def Segment.isFlat (s : Segment α) (a : Axis) : Bool := (s.extent a).2 - (s.extent a).1 == 0

namespace Calibrator

/-- An axis has a segment, and that has no extent along it. -/
def isFlat (c : Calibrator α) (a : Axis) : Bool := (c.slots a).segment.any (·.isFlat a)

/-- An axis is calibrated by a segment that has no extent along it. -/
def isDegenerate (c : Calibrator α) (a : Axis) : Bool := c.isCalibrated a && c.isFlat a

/-- Why there are no scales, if there are none. -/
def fault? (c : Calibrator α) : Option Cause :=
  if c.isDegenerate .x then some (.degenerateAxis "x")
  else if c.isDegenerate .y then some (.degenerateAxis "y")
  else if c.isFullyCalibrated then none
  else some .notCalibrated

end Calibrator
end

namespace Calibrator
variable {c : Calibrator α}

/-! ## One axis -/

theorem isCalibrated_iff {a : Axis} : c.isCalibrated a = true ↔
    ∃ segment start stop, c.slots a = ⟨some segment, some start, some stop⟩ := by
  rw [isCalibrated, AxisSlots.isComplete]
  rcases c.slots a with ⟨_ | segment, _ | start, _ | stop⟩ <;> simp

theorem forall_isCalibrated : (∀ a, c.isCalibrated a = true) ↔ c.isFullyCalibrated = true := by
  rw [Axis.forall, isFullyCalibrated, Bool.and_eq_true]

theorem exists_not_isCalibrated : (∃ a, c.isCalibrated a = false) ↔ c.isFullyCalibrated = false := by
  rw [Axis.exists, isFullyCalibrated, Bool.and_eq_false_iff]

variable [BEq α] [Zero α] [Sub α] [Mul α] [Div α]

/-- An axis with a scale is calibrated and not flat, and its scale is that of
its ends. -/
theorem axisScale?_eq_some {a : Axis} {s : AxisScale α} : c.axisScale? a = .ok (some s) ↔
    ∃ segment start stop, c.slots a = ⟨some segment, some start, some stop⟩ ∧
      segment.isFlat a = false ∧
      s = .between (segment.extent a).1 (segment.extent a).2 start stop := by
  constructor
  · intro h
    rw [axisScale?] at h
    split at h
    · rename_i segment start stop hslots
      simp only at h
      split at h
      · cases h
      · rename_i hspan
        cases h
        exact ⟨segment, start, stop, hslots, Bool.eq_false_iff.2 hspan, rfl⟩
    · cases h
  · rintro ⟨segment, start, stop, hslots, hspan, rfl⟩
    rw [Segment.isFlat] at hspan
    simp only [axisScale?, hslots, hspan, Bool.false_eq_true, if_false]
    rfl

/-- An axis has no scale before it is calibrated, and then has one unless it
is flat. -/
theorem axisScale?_cases (c : Calibrator α) (a : Axis) :
    (c.isCalibrated a = false ∧ c.axisScale? a = .ok none) ∨
    (c.isCalibrated a = true ∧ c.isFlat a = true ∧
      c.axisScale? a = .error { cause := .degenerateAxis a.name }) ∨
    (c.isCalibrated a = true ∧ c.isFlat a = false ∧ ∃ s, c.axisScale? a = .ok (some s)) := by
  cases hc : c.isCalibrated a with
  | false =>
    refine .inl ⟨rfl, ?_⟩
    rw [axisScale?]
    split
    · rename_i hslots
      rw [isCalibrated_iff.2 ⟨_, _, _, hslots⟩] at hc
      cases hc
    · rfl
  | true =>
    obtain ⟨segment, start, stop, hslots⟩ := isCalibrated_iff.1 hc
    have hflat : c.isFlat a = segment.isFlat a := by simp [isFlat, hslots]
    rw [hflat]
    cases hspan : segment.isFlat a with
    | true =>
      refine .inr (.inl ⟨rfl, rfl, ?_⟩)
      rw [Segment.isFlat] at hspan
      simp only [axisScale?, hslots, hspan, if_true]
    | false => exact .inr (.inr ⟨rfl, rfl, _, axisScale?_eq_some.2 ⟨_, _, _, hslots, hspan, rfl⟩⟩)

/-! ## Both axes -/

/-- The scales are those of the axes. -/
theorem scales_eq_ok {s : Scales α} : c.scales = .ok s ↔ ∀ a, c.axisScale? a = .ok (some (s.along a)) := by
  constructor
  · intro h
    simp only [scales, bind_eq_ok] at h
    obtain ⟨x, hx, y, hy, h⟩ := h
    cases x with
    | none => cases h
    | some x =>
      cases y with
      | none => cases h
      | some y =>
        cases h
        rintro (_ | _)
        · exact hx
        · exact hy
  · intro h
    rw [scales, h .x, ok_bind, h .y]
    rfl

theorem isFullyCalibrated_of_scales {s : Scales α} (h : c.scales = .ok s) :
    c.isFullyCalibrated = true := by
  have hcalibrated (a : Axis) : c.isCalibrated a = true := by
    obtain ⟨segment, start, stop, hslots, -, -⟩ := axisScale?_eq_some.1 (scales_eq_ok.1 h a)
    exact isCalibrated_iff.2 ⟨segment, start, stop, hslots⟩
  rw [isFullyCalibrated, hcalibrated .x, hcalibrated .y]
  rfl

/-- **Which failure a calibration has** is told by which axes are calibrated
and which are flat; without one there are scales. -/
theorem scales_of_fault? (c : Calibrator α) : match c.fault? with
    | some cause => c.scales = .error { cause }
    | none => ∃ s, c.scales = .ok s := by
  rcases c.axisScale?_cases .x with ⟨hx, hsx⟩ | ⟨hx, hfx, hsx⟩ | ⟨hx, hfx, x, hsx⟩
  · -- Without a scale for the first axis, only the second can be reported.
    rcases c.axisScale?_cases .y with ⟨hy, hsy⟩ | ⟨hy, hfy, hsy⟩ | ⟨hy, hfy, y, hsy⟩
    · simp [fault?, isDegenerate, isFullyCalibrated, scales, hx, hy, hsx, hsy, throw_eq_error]
    · simp [fault?, isDegenerate, scales, hx, hy, hfy, hsx, hsy, Axis.name, error_bind]
    · simp [fault?, isDegenerate, isFullyCalibrated, scales, hx, hfy, hsx, hsy, throw_eq_error]
  · simp [fault?, isDegenerate, scales, hx, hfx, hsx, Axis.name, error_bind]
  · rcases c.axisScale?_cases .y with ⟨hy, hsy⟩ | ⟨hy, hfy, hsy⟩ | ⟨hy, hfy, y, hsy⟩
    · simp [fault?, isDegenerate, isFullyCalibrated, scales, hx, hfx, hy, hsx, hsy, throw_eq_error]
    · simp [fault?, isDegenerate, scales, hx, hfx, hy, hfy, hsx, hsy, Axis.name, error_bind]
    · simp [fault?, isDegenerate, isFullyCalibrated, scales, hx, hfx, hy, hfy, hsx, hsy]

theorem scales_eq_error_iff {cause : Cause} :
    c.scales = .error { cause } ↔ c.fault? = some cause := by
  have hfault := c.scales_of_fault?
  cases hf : c.fault? with
  | some other =>
    rw [hf] at hfault
    simp only [hfault, Except.error.injEq, Failure.mk.injEq, and_true, Option.some.injEq]
  | none =>
    rw [hf] at hfault
    obtain ⟨s, hs⟩ := hfault
    exact iff_of_false (by rw [hs]; exact fun h => nomatch h) (fun h => nomatch h)

theorem exists_scales_iff : (∃ s, c.scales = .ok s) ↔ c.fault? = none := by
  have hfault := c.scales_of_fault?
  cases hf : c.fault? with
  | some cause =>
    rw [hf] at hfault
    exact iff_of_false (by simp [hfault]) (fun h => nomatch h)
  | none =>
    rw [hf] at hfault
    exact iff_of_true hfault rfl

/-- The first axis is reported if it is degenerate, then the second, and only
then that one of them is not calibrated. -/
theorem scales_iff (c : Calibrator α) :
    (c.scales = .error { cause := .degenerateAxis "x" } ↔ c.isDegenerate .x = true) ∧
    (c.scales = .error { cause := .degenerateAxis "y" } ↔
      c.isDegenerate .x = false ∧ c.isDegenerate .y = true) ∧
    (c.scales = .error { cause := .notCalibrated } ↔
      c.isDegenerate .x = false ∧ c.isDegenerate .y = false ∧ ∃ a, c.isCalibrated a = false) ∧
    ((∃ s, c.scales = .ok s) ↔
      c.isDegenerate .x = false ∧ c.isDegenerate .y = false ∧ ∀ a, c.isCalibrated a = true) := by
  have hxy : (Text.ofString "x" : Text) ≠ Text.ofString "y" := by decide
  simp only [scales_eq_error_iff, exists_scales_iff, forall_isCalibrated, exists_not_isCalibrated,
    fault?]
  cases c.isDegenerate .x <;> cases c.isDegenerate .y <;> cases c.isFullyCalibrated <;>
    simp [hxy, hxy.symm]

/-- Once both axes are calibrated, only a flat one is in the way. -/
theorem scales_of_full (h : c.isFullyCalibrated = true) :
    if c.isFlat .x || c.isFlat .y then ∃ axis, c.scales = .error { cause := .degenerateAxis axis }
    else ∃ s, c.scales = .ok s := by
  have hboth : c.isCalibrated .x = true ∧ c.isCalibrated .y = true := by
    simpa [isFullyCalibrated] using h
  cases hx : c.isFlat .x with
  | true => exact ⟨"x", scales_eq_error_iff.2 (by simp [fault?, isDegenerate, hboth, hx])⟩
  | false =>
    cases hy : c.isFlat .y with
    | true => exact ⟨"y", scales_eq_error_iff.2 (by simp [fault?, isDegenerate, hboth, hx, hy])⟩
    | false => exact exists_scales_iff.2 (by simp [fault?, isDegenerate, h, hx, hy])

theorem exists_scales_iff_full : (∃ s, c.scales = .ok s) ↔
    c.isFullyCalibrated = true ∧ (c.isFlat .x || c.isFlat .y) = false := by
  constructor
  · rintro ⟨s, hs⟩
    have hfull := isFullyCalibrated_of_scales hs
    have hflat := scales_of_full hfull
    refine ⟨hfull, Bool.eq_false_iff.2 fun h => ?_⟩
    rw [if_pos h, hs] at hflat
    obtain ⟨axis, h⟩ := hflat
    cases h
  · rintro ⟨hfull, hflat⟩
    simpa [hflat] using scales_of_full hfull

end Calibrator
end PlotDigitizer
