/-
Bounding boxes in exact arithmetic.

There the lesser of two scalars is their minimum, and none is undefined. So the
box of some points has the least and the greatest of their coordinates
(`Box.isLeast_ofPoints`), whatever the order is in which they are gone through;
and a box that contains the points encloses it (`Box.IsLeast.encloses`).
-/
import Mathlib.Order.MinMax
import PlotDigitizer.Plane.Box

namespace PlotDigitizer

variable {α : Type} [LinearOrder α]

theorem isUndefined_eq_false (x : α) : isUndefined x = false := by
  simp [isUndefined]

theorem lesser_eq_min (x y : α) : lesser x y = min x y := by
  simp only [lesser, isUndefined_eq_false, Bool.false_eq_true, if_false]
  split
  · rename_i h
    exact (min_eq_left h.le).symm
  · rename_i h
    exact (min_eq_right (not_lt.1 h)).symm

theorem greater_eq_max (x y : α) : greater x y = max x y := by
  simp only [greater, isUndefined_eq_false, Bool.false_eq_true, if_false]
  split
  · rename_i h
    exact (max_eq_left h.le).symm
  · rename_i h
    exact (max_eq_right (not_lt.1 h)).symm

theorem min?_eq_of_perm {l l' : List α} (h : l.Perm l') : l.min? = l'.min? := by
  ext a
  simp only [List.min?_eq_some_iff, h.mem_iff]

theorem max?_eq_of_perm {l l' : List α} (h : l.Perm l') : l.max? = l'.max? := by
  ext a
  simp only [List.max?_eq_some_iff, h.mem_iff]

namespace Box

structure Contains (b : Box α) (p : Point α) : Prop where
  left : b.xmin ≤ p.x
  bottom : b.ymin ≤ p.y
  right : p.x ≤ b.xmax
  top : p.y ≤ b.ymax

structure Encloses (b b' : Box α) : Prop where
  left : b.xmin ≤ b'.xmin
  bottom : b.ymin ≤ b'.ymin
  right : b'.xmax ≤ b.xmax
  top : b'.ymax ≤ b.ymax

/-- The box has the least and the greatest coordinates of the points. -/
structure IsLeast (b : Box α) (points : List (Point α)) : Prop where
  left : (points.map (·.x)).min? = some b.xmin
  bottom : (points.map (·.y)).min? = some b.ymin
  right : (points.map (·.x)).max? = some b.xmax
  top : (points.map (·.y)).max? = some b.ymax

variable {b b' : Box α} {points points' : List (Point α)}

theorem IsLeast.of_perm (h : b.IsLeast points) (hperm : points.Perm points') : b.IsLeast points' where
  left := (min?_eq_of_perm (hperm.map _)).symm.trans h.left
  bottom := (min?_eq_of_perm (hperm.map _)).symm.trans h.bottom
  right := (max?_eq_of_perm (hperm.map _)).symm.trans h.right
  top := (max?_eq_of_perm (hperm.map _)).symm.trans h.top

theorem isLeast_spanning (p : Point α) (rest : List (Point α)) : (spanning p rest).IsLeast (p :: rest) := by
  constructor <;>
    simp only [spanning, lesser_eq_min, greater_eq_max, List.map_cons, List.min?_cons', List.max?_cons',
      List.foldl_map]

theorem isLeast_ofPoints [Zero α] (h : points ≠ []) : (Box.ofPoints points).IsLeast points := by
  have hperm := Box.inLanes_perm points
  rw [Box.ofPoints]
  split
  · rename_i hnil
    rw [hnil] at hperm
    exact absurd hperm.nil_eq.symm h
  · rename_i p rest hcons
    rw [hcons] at hperm
    exact (isLeast_spanning p rest).of_perm hperm

theorem IsLeast.contains (h : b.IsLeast points) {p : Point α} (hp : p ∈ points) : b.Contains p where
  left := (List.min?_eq_some_iff.1 h.left).2 _ (List.mem_map_of_mem hp)
  bottom := (List.min?_eq_some_iff.1 h.bottom).2 _ (List.mem_map_of_mem hp)
  right := (List.max?_eq_some_iff.1 h.right).2 _ (List.mem_map_of_mem hp)
  top := (List.max?_eq_some_iff.1 h.top).2 _ (List.mem_map_of_mem hp)

/-- No box around the points is smaller. -/
theorem IsLeast.encloses (h : b'.IsLeast points) (hb : ∀ p ∈ points, b.Contains p) : b.Encloses b' := by
  have attained {g : Point α → α} {a : α} (ha : a ∈ points.map g) : ∃ p, b.Contains p ∧ g p = a := by
    obtain ⟨p, hp, hg⟩ := List.mem_map.1 ha
    exact ⟨p, hb p hp, hg⟩
  obtain ⟨p, hp, hleft⟩ := attained (List.min?_eq_some_iff.1 h.left).1
  obtain ⟨q, hq, hbottom⟩ := attained (List.min?_eq_some_iff.1 h.bottom).1
  obtain ⟨r, hr, hright⟩ := attained (List.max?_eq_some_iff.1 h.right).1
  obtain ⟨s, hs, htop⟩ := attained (List.max?_eq_some_iff.1 h.top).1
  exact ⟨hleft ▸ hp.left, hbottom ▸ hq.bottom, hright ▸ hr.right, htop ▸ hs.top⟩

theorem ofPoints_pair [Zero α] (p q : Point α) :
    Box.ofPoints [p, q] = ⟨min p.x q.x, min p.y q.y, max p.x q.x, max p.y q.y⟩ := by
  have hlanes : Box.inLanes [p, q] = [p, q] := by simp [Box.inLanes]
  simp [Box.ofPoints, hlanes, Box.spanning, lesser_eq_min, greater_eq_max]

end Box
end PlotDigitizer
