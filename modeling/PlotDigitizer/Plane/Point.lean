/-
Points of the plane, and distances between them.
-/
import PlotDigitizer.Scalar

namespace PlotDigitizer

/-- A point, or the vector from the origin to it. -/
structure Point (α : Type) where
  x : α
  y : α
deriving Repr, DecidableEq

namespace Point
variable {α : Type}

/-- Points are equal where their coordinates compare equal. -/
instance [BEq α] : BEq (Point α) := ⟨fun p q => p.x == q.x && p.y == q.y⟩

instance [BEq α] [PartialEquivBEq α] : PartialEquivBEq (Point α) where
  symm {p q} h := by
    obtain ⟨hx, hy⟩ := Bool.and_eq_true_iff.1 h
    exact Bool.and_eq_true_iff.2 ⟨PartialEquivBEq.symm hx, PartialEquivBEq.symm hy⟩
  trans {p q r} hpq hqr := by
    obtain ⟨hx, hy⟩ := Bool.and_eq_true_iff.1 hpq
    obtain ⟨hx', hy'⟩ := Bool.and_eq_true_iff.1 hqr
    exact Bool.and_eq_true_iff.2 ⟨PartialEquivBEq.trans hx hx', PartialEquivBEq.trans hy hy'⟩

instance [Add α] : Add (Point α) := ⟨fun p q => ⟨p.x + q.x, p.y + q.y⟩⟩

instance [Sub α] : Sub (Point α) := ⟨fun p q => ⟨p.x - q.x, p.y - q.y⟩⟩

instance [Neg α] : Neg (Point α) := ⟨fun p => ⟨-p.x, -p.y⟩⟩

theorem eq_of_coordinates {p q : Point α} (hx : p.x = q.x) (hy : p.y = q.y) : p = q := by
  cases p
  cases q
  rw [Point.mk.injEq]
  exact ⟨hx, hy⟩

theorem add_x [Add α] (p q : Point α) : (p + q).x = p.x + q.x := rfl

theorem add_y [Add α] (p q : Point α) : (p + q).y = p.y + q.y := rfl

theorem sub_x [Sub α] (p q : Point α) : (p - q).x = p.x - q.x := rfl

theorem sub_y [Sub α] (p q : Point α) : (p - q).y = p.y - q.y := rfl

theorem neg_x [Neg α] (p : Point α) : (-p).x = -p.x := rfl

theorem neg_y [Neg α] (p : Point α) : (-p).y = -p.y := rfl

def origin [Zero α] : Point α := ⟨0, 0⟩

/-- The point of a complex number multiplied by the real number `k`, as
complex numbers are: the part of `k` that is zero meets the other coordinate,
and leaves it undefined if that is infinite. -/
def scale [Zero α] [Add α] [Sub α] [Mul α] (k : α) (p : Point α) : Point α :=
  ⟨k * p.x - 0 * p.y, k * p.y + 0 * p.x⟩

def distance [Sub α] [Euclidean α] (p q : Point α) : α :=
  Euclidean.hypot (q.x - p.x) (q.y - p.y)

/-- The distance of `p` from the line through `start` and `stop`; from `start`
if there is no such line. -/
def lineDistance [Zero α] [Sub α] [Mul α] [Div α] [BEq α] [Euclidean α]
    (p start stop : Point α) : α :=
  let dx := stop.x - start.x
  let dy := stop.y - start.y
  let length := Euclidean.hypot dx dy
  if length == 0 then distance p start
  else Euclidean.abs (dx * (p.y - start.y) - dy * (p.x - start.x)) / length

end Point
end PlotDigitizer
