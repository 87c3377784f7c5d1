/-
The bounding box of a set of points.
-/
import PlotDigitizer.Plane.Point

namespace PlotDigitizer

structure Box (α : Type) where
  xmin : α
  ymin : α
  xmax : α
  ymax : α
deriving Repr, DecidableEq

section
variable {α : Type} [BEq α] [LT α] [DecidableLT α]

/-- The lesser of two scalars, the second one if neither is less; undefined if
one of them is. -/
def lesser (x y : α) : α :=
  if isUndefined x then x else if isUndefined y then y else if x < y then x else y

/-- The greater of two scalars, the second one if neither is greater; undefined
if one of them is. -/
def greater (x y : α) : α :=
  if isUndefined x then x else if isUndefined y then y else if y < x then x else y

/-- The order in which extremes are taken: the first point, then the whole
blocks of eight after it, all that is first in its block before all that is
second and so on, then the rest. Only which of two zeros of different sign is
kept depends on it. -/
def Box.inLanes {β : Type} : List β → List β
  | [] => []
  | p :: rest =>
    let blocks := rest.length / 8 * 8
    let dealt := (rest.take blocks).zipIdx.mergeSort fun a b => a.2 % 8 ≤ b.2 % 8
    p :: dealt.map (·.1) ++ rest.drop blocks

/-- Only the order of the points changes. -/
theorem Box.inLanes_perm {β : Type} (ps : List β) : (Box.inLanes ps).Perm ps := by
  cases ps with
  | nil => exact .refl []
  | cons p rest =>
    have dealt (qs : List β) :
        ((qs.zipIdx.mergeSort fun a b => a.2 % 8 ≤ b.2 % 8).map (·.1)).Perm qs := by
      refine ((List.mergeSort_perm _ _).map _).trans ?_
      rw [List.zipIdx_map_fst]
    have h := (dealt (rest.take (rest.length / 8 * 8))).append_right
      (rest.drop (rest.length / 8 * 8))
    rw [List.take_append_drop] at h
    exact h.cons p

/-- The least box around a first point and others, in their order. -/
def Box.spanning (p : Point α) (rest : List (Point α)) : Box α where
  xmin := rest.foldl (fun m q => lesser m q.x) p.x
  ymin := rest.foldl (fun m q => lesser m q.y) p.y
  xmax := rest.foldl (fun m q => greater m q.x) p.x
  ymax := rest.foldl (fun m q => greater m q.y) p.y

/-- The least box around the points. No points have the box of the origin. -/
def Box.ofPoints [Zero α] (points : List (Point α)) : Box α :=
  match Box.inLanes points with
  | [] => ⟨0, 0, 0, 0⟩
  | p :: rest => Box.spanning p rest

end
end PlotDigitizer
