/-
Flattening that cannot fail.

A comparison stops a flattening if a limit is no number, and a division if its
chord has no length and yet is not held to have vanished. Settings are sound
where neither can be: the limits are numbers, and every zero is at most the
length up to which a chord has vanished. By sound settings every curve is
flattened, wherever its points lie and whether or not their coordinates are
numbers (`Cubic.exists_flatten`).
-/
import PlotDigitizer.Bezier.Settings
import PlotDigitizer.Proofs.Success

namespace PlotDigitizer

section
variable {α : Type} [Zero α] [BEq α] [LE α]

/-- No chord longer than `epsilon` has a length equal to zero. -/
def CoversZero (epsilon : α) : Prop := ∀ x : α, (x == 0) = true → x ≤ epsilon

/-- Limits that stop no comparison and no division. -/
structure Flattening.IsSound (f : Flattening α) : Prop where
  tolerance : ∃ t, f.tolerance = .ok t
  maxDepth : ∃ n, f.maxDepth = .ok n
  minDepth : ∃ n, f.minDepth = .ok n
  chordEpsilon : ∃ e, f.chordEpsilon = .ok e ∧ CoversZero e

end

/-! ## Zeros among the doubles -/

theorem unpack_of_beq_zero {x : Float} (h : (x == 0) = true) : ∃ s, x.toModel.unpack = .zero s := by
  have h' : x.toModel.unpack.beq (.zero .positive) = true := h
  revert h'
  cases x.toModel.unpack with
  | zero s => exact fun _ => ⟨s, rfl⟩
  | notANumber => exact fun h => (Bool.false_ne_true h).elim
  | infinity s => cases s <;> exact fun h => (Bool.false_ne_true h).elim
  | finite s m k hm => cases s <;> exact fun h => (Bool.false_ne_true h).elim

/-- What equals zero is one of the two zeros, which lie below the same doubles. -/
theorem coversZero_of_nonneg {e : Float} (h : 0 ≤ e) : CoversZero e := by
  intro x hx
  obtain ⟨s, hs⟩ := unpack_of_beq_zero hx
  have he : (Float.Model.UnpackedFloat.zero .positive).le e.toModel.unpack = true := of_decide_eq_true h
  have hle : x.toModel.unpack.le e.toModel.unpack = true := by
    rw [hs, ← he]
    cases e.toModel.unpack with
    | finite t m k hm => cases t <;> rfl
    | infinity t => cases t <;> rfl
    | notANumber | zero => rfl
  exact decide_eq_true hle

theorem Flattening.isSound_default : Flattening.default.IsSound where
  tolerance := ⟨_, rfl⟩
  maxDepth := ⟨_, rfl⟩
  minDepth := ⟨_, rfl⟩
  chordEpsilon := ⟨_, rfl, coversZero_of_nonneg (by decide +kernel)⟩

/-! ## Flattening -/

section
variable {α : Type} [Zero α] [Sub α] [Mul α] [Div α] [BEq α] [LE α] [DecidableLE α] [Euclidean α]

/-- Twice the area of the triangle of a point and a chord, with a sign. -/
def Point.cross (p start stop : Point α) : α :=
  (stop.x - start.x) * (p.y - start.y) - (stop.y - start.y) * (p.x - start.x)

/-- A chord that has not vanished has a length other than zero, by which both
divisions are made; of one that has, only the distance of the points counts. -/
theorem flatness_of_coversZero {epsilon : α} (h : CoversZero epsilon) (mid start stop : Point α) :
    (start.distance stop ≤ epsilon → flatness epsilon mid start stop = .ok (start.distance mid)) ∧
      (¬start.distance stop ≤ epsilon → (start.distance stop == 0) = false ∧
        flatness epsilon mid start stop
          = .ok (Euclidean.abs (mid.cross start stop) / start.distance stop / start.distance stop)) := by
  refine ⟨fun hle => by simp [flatness, hle], fun hlt => ?_⟩
  have hne : (start.distance stop == 0) = false := by
    rw [Bool.eq_false_iff]
    exact fun hzero => hlt (h _ hzero)
  have hline : mid.lineDistance start stop
      = Euclidean.abs (mid.cross start stop) / start.distance stop := by
    simp only [Point.lineDistance, ← Point.distance.eq_1, hne, Bool.false_eq_true, if_false]
    rfl
  exact ⟨hne, by simp [flatness, hlt, hne, hline]⟩

theorem exists_flatness {epsilon : α} (h : CoversZero epsilon) (mid start stop : Point α) :
    ∃ d, flatness epsilon mid start stop = .ok d := by
  obtain ⟨hvanished, hchord⟩ := flatness_of_coversZero h mid start stop
  by_cases hle : start.distance stop ≤ epsilon
  · exact ⟨_, hvanished hle⟩
  · exact ⟨_, (hchord hle).2⟩

variable [LT α] [DecidableLT α] {f : Flattening α}

theorem Flattening.IsSound.exists_splits (h : f.IsSound) (depth : Nat) (mid start stop : Point α) :
    ∃ b, f.splits depth mid start stop = .ok b := by
  obtain ⟨t, ht⟩ := h.tolerance
  obtain ⟨n, hn⟩ := h.maxDepth
  obtain ⟨m, hm⟩ := h.minDepth
  obtain ⟨e, he, hcovers⟩ := h.chordEpsilon
  obtain ⟨d, hd⟩ := exists_flatness hcovers mid start stop
  simp only [Flattening.splits, ht, hn, hm, he, Except.mapError, ok_bind, hd]
  split
  · exact ⟨_, rfl⟩
  · exact ⟨_, rfl⟩

variable [Add α] [Neg α] [OfNat α 2] [OfNat α 3] [OfNat α 6]

theorem Flattening.IsSound.exists_pieces (h : f.IsSound) (c : Cubic α) (room depth : Nat) (lo hi : α)
    (start stop : Point α) : ∃ ps, f.pieces c room depth lo hi start stop = .ok ps := by
  fun_induction f.pieces c room depth lo hi start stop with
  | case1 _ depth _ _ start stop _ mid e he =>
    obtain ⟨b, hb⟩ := h.exists_splits depth mid start stop
    rw [he] at hb
    cases hb
  | case2 => exact ⟨_, rfl⟩
  | case3 => exact ⟨_, rfl⟩
  | case4 _ _ _ _ _ _ _ _ _ ihleft ihright =>
    obtain ⟨left, hleft⟩ := ihleft
    obtain ⟨right, hright⟩ := ihright
    rw [hleft, hright]
    exact ⟨left ++ right, rfl⟩

theorem Flattening.head?_pieces {c : Cubic α} {room depth : Nat} {lo hi : α} {start stop : Point α}
    {ps : List (Point α)} (h : f.pieces c room depth lo hi start stop = .ok ps) : ps.head? = some start := by
  fun_induction f.pieces c room depth lo hi start stop generalizing ps with
  | case1 => cases h
  | case2 | case3 => exact Except.ok.inj h ▸ rfl
  | case4 _ _ _ _ _ _ _ _ _ ihleft =>
    obtain ⟨left, hleft, h⟩ := bind_eq_ok.1 h
    obtain ⟨right, -, h⟩ := bind_eq_ok.1 h
    rw [← pure_eq_ok.1 h, List.head?_append, ihleft hleft]
    rfl

variable [One α]

/-- A polyline is that of the whole curve, and the end. -/
theorem Cubic.flatten_eq_ok {c : Cubic α} {ps : List (Point α)} : c.flatten f = .ok ps ↔
    ∃ qs, f.pieces c f.depthBound 0 0 1 c.p0 c.p3 = .ok qs ∧ ps = qs ++ [c.p3] := by
  rw [Cubic.flatten]
  cases f.pieces c f.depthBound 0 0 1 c.p0 c.p3 with
  | error e => simp [Except.map]
  | ok qs => simp [Except.map, eq_comm]

theorem Cubic.head?_flatten {c : Cubic α} {ps : List (Point α)} (h : c.flatten f = .ok ps) :
    ps.head? = some c.p0 := by
  obtain ⟨qs, hqs, rfl⟩ := flatten_eq_ok.1 h
  rw [List.head?_append, Flattening.head?_pieces hqs]
  rfl

/-- **Every curve is flattened** by sound settings. -/
theorem Cubic.exists_flatten (h : f.IsSound) (c : Cubic α) : ∃ ps, c.flatten f = .ok ps := by
  obtain ⟨ps, hps⟩ := h.exists_pieces c f.depthBound 0 0 1 c.p0 c.p3
  exact ⟨_, flatten_eq_ok.2 ⟨ps, hps, rfl⟩⟩

end
end PlotDigitizer
