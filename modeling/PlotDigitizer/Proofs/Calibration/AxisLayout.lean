/-
How an axis lies on a page, and how its calibration undoes that.

In exact arithmetic an axis of a chart lies on the page scaled and shifted. A
reference segment knows the lesser and the greater page coordinate of its ends,
but not which end is which; so the data values of the ends are entered by their
page coordinates (`AxisLayout.start`, `AxisLayout.stop`). Then page coordinates
go back to the data they came from, also where the axis is reversed
(`AxisLayout.apply_device`).
-/
import Mathlib.Algebra.Order.Field.Basic
import Mathlib.Tactic.FieldSimp
import Mathlib.Tactic.Ring
import PlotDigitizer.Calibration.Calibrator
import PlotDigitizer.Proofs.Plane.Box
import PlotDigitizer.Proofs.Success

namespace PlotDigitizer

/-! ## Changes -/

section
variable {α : Type} [LinearOrder α] [Zero α] [Reading α]
variable {c : Calibrator α} {axis endpoint : Value α} {a : Axis}

theorem Calibrator.change_curve {curve : Curve α} {p q : Point α} (ha : Axis.ofValue axis = .ok a)
    (hp : curve.points = [p, q]) : c.change (.curve axis curve)
      = .ok (c.setSegment a ⟨min p.x q.x, min p.y q.y, max p.x q.x, max p.y q.y⟩) := by
  simp only [change, setSpan, ha, hp, ok_bind, Segment.spanning, Box.ofPoints_pair]
  rfl

theorem Calibrator.change_value {e : Endpoint} {v : α} (ha : Axis.ofValue axis = .ok a)
    (he : Endpoint.ofValue endpoint = .ok e) (hv : Reading.isFinite v = true) :
    c.change (.value axis endpoint (.real v)) = .ok (c.setNumber a e v) := by
  simp [change, enterValue, ha, he, Value.scalar, hv]

end

/-! ## One axis -/

/-- An axis with its range of data, and the page coordinates of data on it. -/
structure AxisLayout (α : Type) [Field α] [LinearOrder α] where
  scale : α
  shift : α
  least : α
  greatest : α
  scale_ne : scale ≠ 0
  least_lt : least < greatest

namespace AxisLayout
variable {α : Type} [Field α] [LinearOrder α] (a : AxisLayout α)

/-- The page coordinate of a data value. -/
def device (v : α) : α := a.scale * v + a.shift

/-- The data value at the end of the axis that has the lesser page coordinate. -/
def start : α := if a.device a.least < a.device a.greatest then a.least else a.greatest

/-- The data value at the other end. -/
def stop : α := if a.device a.least < a.device a.greatest then a.greatest else a.least

theorem device_injective : Function.Injective a.device := by
  intro v w h
  exact mul_left_cancel₀ a.scale_ne (add_right_cancel h)

theorem min_device : min (a.device a.least) (a.device a.greatest) = a.device a.start := by
  rw [start]
  split
  · rename_i h
    exact min_eq_left h.le
  · rename_i h
    exact min_eq_right (not_lt.1 h)

theorem max_device : max (a.device a.least) (a.device a.greatest) = a.device a.stop := by
  rw [stop]
  split
  · rename_i h
    exact max_eq_right h.le
  · rename_i h
    exact max_eq_left (not_lt.1 h)

theorem stop_ne_start : a.stop ≠ a.start := by
  rw [stop, start]
  split
  · exact a.least_lt.ne'
  · exact a.least_lt.ne

theorem extent_ne_zero : a.device a.stop - a.device a.start ≠ 0 :=
  sub_ne_zero.2 (a.device_injective.ne a.stop_ne_start)

/-- The scale that the calibrated axis has. -/
def axisScale : AxisScale α :=
  let scale := (a.stop - a.start) / (a.device a.stop - a.device a.start)
  { scale, offset := a.start - a.device a.start * scale, dataStart := a.start, dataStop := a.stop }

theorem axisScale_scale : a.axisScale.scale = 1 / a.scale := by
  have hne : a.stop - a.start ≠ 0 := sub_ne_zero.2 a.stop_ne_start
  have hscale := a.scale_ne
  have hdiff : a.device a.stop - a.device a.start = a.scale * (a.stop - a.start) := by
    simp only [device]
    ring
  show (a.stop - a.start) / (a.device a.stop - a.device a.start) = 1 / a.scale
  rw [hdiff]
  field_simp

/-- **Calibration undoes the layout.** -/
theorem apply_device (v : α) : a.axisScale.apply (a.device v) = v := by
  have hscale := a.scale_ne
  have hoffset : a.axisScale.offset = a.start - a.device a.start * a.axisScale.scale := rfl
  rw [AxisScale.apply, hoffset, axisScale_scale]
  simp only [device]
  field_simp
  ring

/-- An axis that has the page coordinates of its ends as its extent, and the
data values there, has the scale that undoes its layout. -/
theorem axisScale?_eq {c : Calibrator α} {axis : Axis} {s : Segment α}
    (hc : c.slots axis = ⟨some s, some a.start, some a.stop⟩)
    (hs : s.extent axis = (a.device a.start, a.device a.stop)) :
    c.axisScale? axis = .ok (some a.axisScale) := by
  have hne : (a.device a.stop - a.device a.start == 0) = false := by
    simpa using a.extent_ne_zero
  simp only [Calibrator.axisScale?, hc, hs, hne, Bool.false_eq_true, if_false]
  rfl

end AxisLayout

end PlotDigitizer
