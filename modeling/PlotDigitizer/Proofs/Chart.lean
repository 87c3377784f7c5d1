/-
A chart drawn, extracted and calibrated, in exact arithmetic.

A chart is two axes and data series, in data coordinates. It is drawn with one
map to the page, its axes first. The extraction then has a curve for each axis
and each series; and a calibration by the two axes takes every series back to
the data it was drawn from (`Chart.round_trip`).
-/
import Mathlib.Data.Rat.Sqrt
import PlotDigitizer.Proofs.Calibration.AxisLayout
import PlotDigitizer.Proofs.Curve.Straight
import PlotDigitizer.Proofs.Extraction
import PlotDigitizer.Proofs.Plane.Affine

namespace PlotDigitizer

/-- A chart. Its axes are parallel to those of the page. -/
structure Chart (α : Type) [Field α] [LinearOrder α] where
  x : AxisLayout α
  y : AxisLayout α
  /-- The data coordinates of the point in which the axes cross. -/
  crossing : Point α
  series : List (List (Point α))
  nonempty : ∀ ps ∈ series, ps ≠ []

variable {α : Type} [Field α] [LinearOrder α]

namespace Chart

/-- The map from data to the page. -/
def toPage (c : Chart α) : Affine α := ⟨c.x.scale, 0, 0, c.y.scale, c.x.shift, c.y.shift⟩

def xAxis (c : Chart α) : List (Point α) := [⟨c.x.least, c.crossing.y⟩, ⟨c.x.greatest, c.crossing.y⟩]

def yAxis (c : Chart α) : List (Point α) := [⟨c.crossing.x, c.y.least⟩, ⟨c.crossing.x, c.y.greatest⟩]

def polylines (c : Chart α) : List (List (Point α)) := c.xAxis :: c.yAxis :: c.series

/-- How the chart is drawn. -/
def drawing (c : Chart α) : List (Instruction α) := .transform c.toPage :: c.polylines.flatMap strokes

/-- A stream of raw values spells the chart's drawing. -/
def DrawnBy [Reading α] (c : Chart α) (stream : Value α) : Prop :=
  ∃ items, stream.iterate = .ok items ∧ List.Forall₂ Value.Spells items c.drawing

/-- How a calibrator is calibrated by two curves that are the chart's axes. -/
def calibration (c : Chart α) (xAxis yAxis : Curve α) : List (Calibrator.Change α) := [
  .curve (.text "x") xAxis,
  .curve (.text "y") yAxis,
  .value (.text "x") (.text "start") (.real c.x.start),
  .value (.text "x") (.text "end") (.real c.x.stop),
  .value (.text "y") (.text "start") (.real c.y.start),
  .value (.text "y") (.text "end") (.real c.y.stop)]

theorem polylines_ne_nil (c : Chart α) : ∀ ps ∈ c.polylines, ps ≠ [] := by
  intro ps hps
  rcases List.mem_cons.1 hps with rfl | hps
  · simp [xAxis]
  · rcases List.mem_cons.1 hps with rfl | hps
    · simp [yAxis]
    · exact c.nonempty ps hps

theorem apply_toPage (c : Chart α) (p : Point α) : c.toPage.apply p = ⟨c.x.device p.x, c.y.device p.y⟩ := by
  simp [toPage, Affine.apply, AxisLayout.device]

/-! ## Extraction -/

/-- The curves of the chart are its polylines on the page, in order. -/
theorem extractPage_drawing [Euclidean α] [Reading α] {c : Chart α} {page : Page α}
    (h : c.DrawnBy page.operators) :
    (extractPage page).failure = none ∧ Numbered (extractPage page).output.curves ∧
      (extractPage page).output.curves.map (·.points) = c.polylines.map (·.map c.toPage.apply) := by
  obtain ⟨items, hi, hitems⟩ := h
  have hp := extractPaths_strokes hi hitems c.polylines_ne_nil
  rw [Affine.one_comp] at hp
  have hne : ∀ ps ∈ c.polylines.map (·.map c.toPage.apply), ps ≠ [] := by
    intro ps hps
    obtain ⟨qs, hqs, rfl⟩ := List.mem_map.1 hps
    simpa using c.polylines_ne_nil qs hqs
  obtain ⟨curves, hc, hnum, hpoints⟩ := assemble_straight page.flattening .stroke hne
  rw [List.map_map] at hc
  obtain ⟨hfail, hout⟩ := extractPage_eq hp hc
  rw [hout]
  refine ⟨hfail, fun k d hd => ?_, ?_⟩
  · rw [List.getElem?_map, Option.map_eq_some_iff] at hd
    obtain ⟨d, hd, rfl⟩ := hd
    exact hnum k d hd
  · rw [List.map_map, ← hpoints]
    rfl

/-! ## Calibration -/

theorem convertAll?_eq {c : Chart α} {calibrator : Calibrator α}
    (h : calibrator.scales = .ok ⟨c.x.axisScale, c.y.axisScale⟩) (ps : List (Point α)) :
    calibrator.convertAll? (ps.map c.toPage.apply) = some ps := by
  have hid : (Scales.mk c.x.axisScale c.y.axisScale).apply ∘ c.toPage.apply = id := by
    funext p
    simp only [Function.comp_apply, apply_toPage, Scales.apply, AxisLayout.apply_device]
    rfl
  rw [Calibrator.convertAll?, h]
  simp only [List.map_map, hid, List.map_id]

section
variable [Reading α]

/-- A calibration by the chart's axes has the scales that undo its layout. -/
theorem exists_scales_eq (c : Chart α) (finite : ∀ v : α, Reading.isFinite v = true)
    {xs ys : Curve α} (hx : xs.points = c.xAxis.map c.toPage.apply)
    (hy : ys.points = c.yAxis.map c.toPage.apply) (before : Calibrator α) :
    ∃ after, (c.calibration xs ys).foldlM Calibrator.change before = .ok after ∧
      after.scales = .ok ⟨c.x.axisScale, c.y.axisScale⟩ := by
  have hxa : Axis.ofValue (.text "x" : Value α) = .ok .x := rfl
  have hya : Axis.ofValue (.text "y" : Value α) = .ok .y := rfl
  have hstart : Endpoint.ofValue (.text "start" : Value α) = .ok .start := rfl
  have hstop : Endpoint.ofValue (.text "end" : Value α) = .ok .stop := rfl
  simp only [xAxis, yAxis, List.map_cons, List.map_nil, apply_toPage] at hx hy
  simp only [calibration, List.foldlM_cons, List.foldlM_nil, Calibrator.change_curve hxa hx,
    Calibrator.change_curve hya hy, Calibrator.change_value hxa hstart (finite _),
    Calibrator.change_value hxa hstop (finite _), Calibrator.change_value hya hstart (finite _),
    Calibrator.change_value hya hstop (finite _), ok_bind, AxisLayout.min_device, AxisLayout.max_device]
  refine ⟨_, rfl, ?_⟩
  -- Whatever was there before, all six slots are set.
  rw [Calibrator.scales, c.x.axisScale?_eq rfl rfl, ok_bind, c.y.axisScale?_eq rfl rfl, ok_bind]
  rfl

/-! ## The round trip -/

variable [Euclidean α]

/-- **The round trip.** However the chart lies on the page and whatever it
shows, its drawing is extracted without failure, with a curve for each axis and
each series; and the calibration by the two axes gives every series back, point
by point. -/
theorem round_trip (c : Chart α) (page : Page α) (drawn : c.DrawnBy page.operators)
    (finite : ∀ v : α, Reading.isFinite v = true) :
    let curves := (extractPage page).output.curves
    (extractPage page).failure = none ∧ curves.length = 2 + c.series.length ∧
    ∃ xs ys, Curve.find? curves 0 = some xs ∧ Curve.find? curves 1 = some ys ∧
      ∀ before : Calibrator α, ∃ after,
        (c.calibration xs ys).foldlM Calibrator.change before = .ok after ∧
        ∀ (k : Nat) (ps : List (Point α)), c.series[k]? = some ps →
          ∃ curve, Curve.find? curves (k + 2) = some curve ∧
            after.convertAll? curve.points = some ps := by
  obtain ⟨hfail, hnum, hpoints⟩ := extractPage_drawing drawn
  have hlen := congrArg List.length hpoints
  -- The curve at a place is the polyline at that place, on the page.
  have hfind (k : Nat) (ps : List (Point α)) (hk : c.polylines[k]? = some ps) :
      ∃ curve, Curve.find? (extractPage page).output.curves k = some curve ∧
        curve.points = ps.map c.toPage.apply := by
    have hget := congrArg (fun l => l[k]?) hpoints
    simp only [List.getElem?_map, hk, Option.map_some, Option.map_eq_some_iff] at hget
    obtain ⟨curve, hcurve, hps⟩ := hget
    exact ⟨curve, find?_of_numbered hnum hcurve, hps⟩
  refine ⟨hfail, ?_, ?_⟩
  · simp only [List.length_map, polylines, List.length_cons] at hlen
    omega
  · obtain ⟨xs, hxs, hx⟩ := hfind 0 c.xAxis rfl
    obtain ⟨ys, hys, hy⟩ := hfind 1 c.yAxis rfl
    refine ⟨xs, ys, hxs, hys, fun before => ?_⟩
    obtain ⟨after, hafter, hscales⟩ := c.exists_scales_eq finite hx hy before
    refine ⟨after, hafter, fun k ps hk => ?_⟩
    obtain ⟨curve, hcurve, hps⟩ := hfind (k + 2) ps hk
    exact ⟨curve, hcurve, by rw [hps, convertAll?_eq hscales]⟩

end

/-! ### A chart with its origin at the bottom of the page -/

section

local instance rationalLengths : Euclidean ℚ where
  abs := abs
  sqrt := Rat.sqrt
  hypot x y := Rat.sqrt (x * x + y * y)

/-- Rationals as they are, and no others. -/
local instance rationalReading : Reading ℚ where
  ofInt? n := some n
  ofText? _ := none
  isFinite _ := true
  undefined := 0

def upright : Chart ℚ where
  x := ⟨10, 50, 0, 6, by decide, by decide⟩
  y := ⟨-10, 150, 0, 8, by decide, by decide⟩
  crossing := ⟨0, 0⟩
  series := [[⟨0, 8⟩, ⟨3, 4⟩, ⟨3, 4⟩, ⟨6, 8⟩], [⟨6, 0⟩]]
  nonempty := by simp

/-- The operator of a name with some numbers, as a raw item. -/
def item (name : String) (xs : List ℚ) : Value ℚ := .list [.text name, .list (xs.map .real)]

def uprightPage : Page ℚ where
  operators := .list [
    item "transform" [10, 0, 0, -10, 50, 150],
    item "moveTo" [0, 0], item "lineTo" [6, 0], item "stroke" [],
    item "moveTo" [0, 0], item "lineTo" [0, 8], item "stroke" [],
    item "moveTo" [0, 8], item "lineTo" [3, 4], item "lineTo" [3, 4], item "lineTo" [6, 8],
    item "stroke" [],
    item "moveTo" [6, 0], item "stroke" []]
  number := 1
  flattening := ⟨.ok (1 / 100), .ok 10, .ok 0, .ok 0⟩

theorem item_spells {name : String} {op : Operator} (h : Operator.ofValue? (.text name : Value ℚ) = some op)
    (xs : List ℚ) : (item name xs).Spells ⟨op, xs⟩ := by
  refine ⟨_, _, rfl, h, _, rfl, ?_⟩
  rw [List.forall₂_map_left_iff, List.forall₂_same]
  intro x _
  rfl

theorem upright_round_trip : upright.DrawnBy uprightPage.operators ∧
    (∀ v : ℚ, Reading.isFinite v = true) ∧ (extractPage uprightPage).failure = none ∧
    (extractPage uprightPage).output.curves.length = 4 ∧
    ∃ calibrator curve, Curve.find? (extractPage uprightPage).output.curves 2 = some curve ∧
      Calibrator.convertAll? calibrator curve.points = some [⟨0, 8⟩, ⟨3, 4⟩, ⟨3, 4⟩, ⟨6, 8⟩] := by
  have transform (t : Affine ℚ) :
      (item "transform" [t.a, t.b, t.c, t.d, t.e, t.f]).Spells (.transform t) := item_spells rfl _
  have move (p : Point ℚ) : (item "moveTo" [p.x, p.y]).Spells (.move p) := item_spells rfl _
  have line (p : Point ℚ) : (item "lineTo" [p.x, p.y]).Spells (.line p) := item_spells rfl _
  have stroke : (item "stroke" []).Spells ⟨.paint .stroke false, []⟩ := item_spells rfl _
  have drawn : upright.DrawnBy uprightPage.operators := by
    refine ⟨_, rfl, .cons (transform upright.toPage) ?_⟩
    -- The two axes, then the series of four points, then that of one.
    refine .cons (move ⟨0, 0⟩) (.cons (line ⟨6, 0⟩) (.cons stroke ?_))
    refine .cons (move ⟨0, 0⟩) (.cons (line ⟨0, 8⟩) (.cons stroke ?_))
    refine .cons (move ⟨0, 8⟩) (.cons (line ⟨3, 4⟩) (.cons (line ⟨3, 4⟩) (.cons (line ⟨6, 8⟩) ?_)))
    exact .cons stroke (.cons (move ⟨6, 0⟩) (.cons stroke .nil))
  have finite : ∀ v : ℚ, Reading.isFinite v = true := fun _ => rfl
  obtain ⟨hfail, hlen, _, _, -, -, h⟩ := upright.round_trip uprightPage drawn finite
  obtain ⟨calibrator, -, hseries⟩ := h {}
  obtain ⟨curve, hcurve, hpoints⟩ := hseries 0 _ rfl
  exact ⟨drawn, finite, hfail, hlen, calibrator, curve, hcurve, hpoints⟩

end

end Chart
end PlotDigitizer
