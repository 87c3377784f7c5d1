/-
Whether the scales of a calibration are finite.

Data values are: nothing else is recorded. But only a span of zero is reported,
so the scales are finite exactly if no end of a reference is undefined, its
lesser end is finite, and nothing that is computed on the way to the scale and
the offset is beyond the doubles (`FitsDoubles`). Where that holds for both axes
is all there is to say of any calibration, whatever was done to reach it
(`Calibrator.isSound_after_iff`).
-/
import PlotDigitizer.Number.Double
import PlotDigitizer.Proofs.Calibration.Changes
import PlotDigitizer.Proofs.Calibration.Scales
import PlotDigitizer.Proofs.Number.Overflow

namespace PlotDigitizer

/-! ## Finite scales -/

/-- Everything that is known of an axis is a number proper. -/
structure AxisScale.IsFinite (s : AxisScale Float) : Prop where
  scale : Binary64.isFinite s.scale = true
  offset : Binary64.isFinite s.offset = true
  dataStart : Binary64.isFinite s.dataStart = true
  dataStop : Binary64.isFinite s.dataStop = true

open Binary64 (overflow value)

/-- What a scale is made of does not leave the doubles: the ends of its
reference, and then every number that is computed from them. An infinite
greater end makes the scale zero. -/
structure FitsDoubles (lo hi start stop : Float) : Prop where
  least : Binary64.isFinite lo = true
  greatest : isUndefined hi = false
  range : |value stop - value start| < overflow
  scale : |value (stop - start) / value (hi - lo)| < overflow
  shift : |value lo * value ((stop - start) / (hi - lo))| < overflow
  offset : |value start - value (lo * ((stop - start) / (hi - lo)))| < overflow

/-- By finite data values, a scale is finite exactly if it fits. -/
theorem AxisScale.isFinite_between_iff {lo hi start stop : Float}
    (hstart : Binary64.isFinite start = true) (hstop : Binary64.isFinite stop = true)
    (hspan : (hi - lo == 0) = false) :
    (AxisScale.between lo hi start stop).IsFinite ↔ FitsDoubles lo hi start stop := by
  constructor
  · rintro ⟨hscale, hoffset, -, -⟩
    obtain ⟨hrange, hundefined, hratio⟩ := (Binary64.isFinite_div_iff _ hspan).1 hscale
    obtain ⟨-, hproduct, hdifference⟩ := (Binary64.isFinite_sub_iff _ _).1 hoffset
    obtain ⟨hlo, -, hshift⟩ := (Binary64.isFinite_mul_iff _ _).1 hproduct
    obtain ⟨-, -, hrange⟩ := (Binary64.isFinite_sub_iff _ _).1 hrange
    rw [Binary64.isUndefined_sub hlo] at hundefined
    exact ⟨hlo, hundefined, hrange, hratio, hshift, hdifference⟩
  · intro h
    have hrange := (Binary64.isFinite_sub_iff stop start).2 ⟨hstop, hstart, h.range⟩
    have hundefined : isUndefined (hi - lo) = false := by rw [Binary64.isUndefined_sub h.least, h.greatest]
    have hscale := (Binary64.isFinite_div_iff _ hspan).2 ⟨hrange, hundefined, h.scale⟩
    have hproduct := (Binary64.isFinite_mul_iff _ _).2 ⟨h.least, hscale, h.shift⟩
    exact ⟨hscale, (Binary64.isFinite_sub_iff _ _).2 ⟨hstart, hproduct, h.offset⟩, hstart, hstop⟩

namespace Calibrator
variable {c : Calibrator Float}

/-- Wherever there are scales they are finite, and so a finite point is
converted by finite numbers or not at all. -/
structure IsSound (c : Calibrator Float) : Prop where
  scales : ∀ s : Scales Float, c.scales = .ok s → ∀ a, (s.along a).IsFinite
  convert : ∀ p : Point Float, Binary64.isFinite p.x = true → Binary64.isFinite p.y = true →
    c.convert? p = none ∨ ∃ s : Scales Float, (∀ a, (s.along a).IsFinite) ∧ c.convert? p = some (s.apply p)

/-- What the scale of an axis would be made of fits the doubles. -/
def Fits (c : Calibrator Float) (a : Axis) : Prop :=
  ∀ segment start stop, c.slots a = ⟨some segment, some start, some stop⟩ →
    FitsDoubles (segment.extent a).1 (segment.extent a).2 start stop

theorem isFinite_along_iff (hc : c.HasFiniteValues) {s : Scales Float} (hs : c.scales = .ok s)
    (a : Axis) : (s.along a).IsFinite ↔ c.Fits a := by
  obtain ⟨segment, start, stop, hslots, hspan, hscale⟩ := axisScale?_eq_some.1 (scales_eq_ok.1 hs a)
  have hstart : Binary64.isFinite start = true := hc a start (.inl (by rw [hslots]))
  have hstop : Binary64.isFinite stop = true := hc a stop (.inr (by rw [hslots]))
  rw [hscale, AxisScale.isFinite_between_iff hstart hstop hspan]
  constructor
  · intro h segment' start' stop' hslots'
    rw [hslots] at hslots'
    cases hslots'
    exact h
  · exact fun h => h segment start stop hslots

theorem isSound_iff (hc : c.HasFiniteValues) :
    c.IsSound ↔ ∀ s, c.scales = .ok s → ∀ a, c.Fits a := by
  constructor
  · exact fun h s hs a => (isFinite_along_iff hc hs a).1 (h.scales s hs a)
  · intro h
    have hscales : ∀ s : Scales Float, c.scales = .ok s → ∀ a, (s.along a).IsFinite := fun s hs a =>
      (isFinite_along_iff hc hs a).2 (h s hs a)
    refine ⟨hscales, fun p _ _ => ?_⟩
    cases hs : c.scales with
    | error => exact .inl (by rw [convert?, hs])
    | ok s => exact .inr ⟨s, hscales s hs, by rw [convert?, hs]⟩

/-- **When a calibration is sound.** Whatever is done to a calibration, the
data values of its axes are finite; an axis with a scale has a finite one
exactly if what that is made of fits the doubles; and so the calibration is
sound exactly if there are no scales, or everything fits. -/
theorem isSound_after_iff (changes : List (Change Float)) :
    let c := ({} : Calibrator Float).after changes
    (∀ s, c.scales = .ok s → ∀ a,
      Binary64.isFinite (s.along a).dataStart = true ∧ Binary64.isFinite (s.along a).dataStop = true ∧
      ((s.along a).IsFinite ↔ c.Fits a)) ∧
    (c.IsSound ↔ (∃ cause, c.fault? = some cause) ∨ ∀ a, c.Fits a) := by
  intro c
  have hc : c.HasFiniteValues :=
    HasFiniteValues.after (fun a v hv => by cases a <;> rcases hv with hv | hv <;> cases hv) changes
  refine ⟨fun s hs a => ?_, ?_⟩
  · obtain ⟨segment, start, stop, hslots, -, hscale⟩ := axisScale?_eq_some.1 (scales_eq_ok.1 hs a)
    refine ⟨?_, ?_, isFinite_along_iff hc hs a⟩
    · rw [hscale]
      exact hc a start (.inl (by rw [hslots]))
    · rw [hscale]
      exact hc a stop (.inr (by rw [hslots]))
  · rw [isSound_iff hc]
    have hfault := c.scales_of_fault?
    cases hf : c.fault? with
    | some cause =>
      rw [hf] at hfault
      exact iff_of_true (fun s hs => by rw [hfault] at hs; cases hs) (.inl ⟨cause, rfl⟩)
    | none =>
      rw [hf] at hfault
      obtain ⟨s, hs⟩ := hfault
      constructor
      · exact fun h => .inr (h s hs)
      · rintro (⟨cause, h⟩ | h)
        · cases h
        · exact fun _ _ => h

/-- Data values whose difference is beyond the doubles. -/
def farApart : List (Change Float) := [
  .segment (.text "x") ⟨0, 0, 100, 0⟩, .segment (.text "y") ⟨0, 0, 0, 100⟩,
  .value (.text "x") (.text "start") (.text "-1e308"),
  .value (.text "x") (.text "end") (.text "1e308"),
  .value (.text "y") (.text "start") (.int 0), .value (.text "y") (.text "end") (.int 1)]

theorem not_isSound_after_farApart : ¬∀ changes, (({} : Calibrator Float).after changes).IsSound := by
  have hscale : ((({} : Calibrator Float).after farApart).scales.toOption.map fun s =>
      Binary64.isFinite s.x.scale) = some false := by
    decide +kernel
  obtain ⟨s, hs, hinfinite⟩ := Option.map_eq_some_iff.1 hscale
  intro h
  have hfinite := ((h farApart).scales s (toOption_eq_some.1 hs) .x).scale
  exact Bool.false_ne_true (hinfinite.symm.trans hfinite)

end Calibrator
end PlotDigitizer
