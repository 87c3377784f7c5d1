/-
Points as raw values, which are read back as the points they are made of
(`Value.points_ofPoints`).
-/
import PlotDigitizer.Input
import PlotDigitizer.Proofs.Success

namespace PlotDigitizer

namespace Value
variable {α : Type}

def ofPoint (p : Point α) : Value α := .list [.real p.x, .real p.y]

def ofPoints (ps : List (Point α)) : Value α := .list (ps.map ofPoint)

theorem shape_ofPoint (p : Point α) : (ofPoint p).shape = ([2], true) := by
  simp [ofPoint, shape, shapeWith, commonStart]

theorem shapeWith_map_ofPoint (ps : List (Point α)) :
    shapeWith ([2], true) (ps.map ofPoint) = ([2], true) := by
  induction ps with
  | nil => rfl
  | cons p ps ih => simpa [shapeWith, shape_ofPoint, commonStart] using ih

/-- Points are a nesting of two levels. -/
theorem shape_ofPoints (ps : List (Point α)) :
    (ofPoints ps).shape = (if ps = [] then [0] else [ps.length, 2], true) := by
  cases ps with
  | nil => simp [ofPoints, shape]
  | cons p ps => simp [ofPoints, shape, shape_ofPoint, shapeWith_map_ofPoint]

/-- The coordinates of points, in order. -/
def coordinates (ps : List (Point α)) : List α := ps.flatMap fun p => [p.x, p.y]

theorem leavesOf_map_ofPoint (ps : List (Point α)) :
    leavesOf (ps.map ofPoint) = (coordinates ps).map .real := by
  induction ps with
  | nil => simp [leavesOf, coordinates]
  | cons p ps ih => simpa [leavesOf, leaves, ofPoint, coordinates] using ih

theorem length_coordinates (ps : List (Point α)) : (coordinates ps).length = 2 * ps.length := by
  induction ps with
  | nil => rfl
  | cons p ps ih => simp [coordinates] at ih ⊢; omega

theorem pairs_coordinates (ps : List (Point α)) : pairs (coordinates ps) = ps := by
  induction ps with
  | nil => rfl
  | cons p ps ih => simpa [coordinates, pairs] using ih

theorem mapM_coordinate [Reading α] (xs : List α) : (xs.map Value.real).mapM coordinate = .ok xs := by
  induction xs with
  | nil => rfl
  | cons x xs ih =>
    have hx : coordinate (.real x) = .ok x := rfl
    rw [List.map_cons, List.mapM_cons, hx, ok_bind, ih]
    rfl

/-- Points are read back as they are. -/
theorem points_ofPoints [Reading α] (ps : List (Point α)) : (ofPoints ps).points = .ok ps := by
  have hlevels : (if ps = [] then [0] else [ps.length, 2]).length ≤ maxNesting := by
    split <;> simp [maxNesting]
  have hleaves : (ofPoints ps).leaves = (coordinates ps).map .real := by
    rw [ofPoints, leaves, leavesOf_map_ofPoint]
  have heven : (coordinates ps).length % 2 = 0 := by
    rw [length_coordinates]
    omega
  simp only [points, shape_ofPoints, hleaves, mapM_coordinate, ok_bind, heven, pairs_coordinates]
  rw [if_neg (by simp [hlevels]), if_neg (by simp)]
  rfl

end Value

end PlotDigitizer
