/-
How flattening cuts a cubic up.

The unit interval is halved, and its halves are, as far as the settings want
it: a binary tree (`Subdivision`), whose leaves are the pieces that are kept.
They are dyadic intervals that lie side by side (`Tiles`), and the polyline has
of each its start and its middle (`Cubic.polyline`). Sound settings have such a
tree for every curve (`Flattening.Subdivides`), and flattening follows it
(`Flattening.Subdivides.flatten_eq`), in whatever scalars: only the points of
the curve depend on how those are added and halved.
-/
import Mathlib.Algebra.Order.Field.Basic
import Mathlib.Tactic.FieldSimp
import Mathlib.Tactic.Linarith
import Mathlib.Tactic.Positivity
import Mathlib.Tactic.Ring
import PlotDigitizer.Proofs.Bezier.Flatten

namespace PlotDigitizer

/-! ## Pieces of the unit interval -/

/-- The interval from `index / 2^level` to `(index + 1) / 2^level`. -/
structure Piece where
  level : Nat
  index : Nat
  index_lt : index < 2 ^ level
deriving DecidableEq

namespace Piece

def unit : Piece := ⟨0, 0, by decide⟩

def lower (q : Piece) : Piece :=
  ⟨q.level + 1, 2 * q.index, by have := q.index_lt; rw [Nat.pow_succ]; omega⟩

def upper (q : Piece) : Piece :=
  ⟨q.level + 1, 2 * q.index + 1, by have := q.index_lt; rw [Nat.pow_succ]; omega⟩

def lo (q : Piece) : ℚ := q.index / 2 ^ q.level

def mid (q : Piece) : ℚ := (2 * q.index + 1) / 2 ^ (q.level + 1)

def hi (q : Piece) : ℚ := (q.index + 1) / 2 ^ q.level

theorem hi_eq (q : Piece) : q.hi = q.lo + 1 / 2 ^ q.level := add_div _ _ _

theorem mid_eq (q : Piece) : q.mid = (q.lo + q.hi) / 2 := by
  simp only [mid, lo, hi, pow_succ]
  field_simp
  ring

theorem lo_lt_hi (q : Piece) : q.lo < q.hi := by
  rw [hi_eq]
  exact lt_add_of_pos_right _ (by positivity)

theorem lo_lt_mid (q : Piece) : q.lo < q.mid := by
  rw [mid_eq]
  linarith [q.lo_lt_hi]

theorem mid_lt_hi (q : Piece) : q.mid < q.hi := by
  rw [mid_eq]
  linarith [q.lo_lt_hi]

theorem lo_lower (q : Piece) : q.lower.lo = q.lo := by
  simp only [lower, lo, pow_succ]
  push_cast
  field_simp

theorem hi_lower (q : Piece) : q.lower.hi = q.mid := by
  simp only [lower, hi, mid]
  push_cast
  rfl

theorem lo_upper (q : Piece) : q.upper.lo = q.mid := by
  simp only [upper, lo, mid]
  push_cast
  rfl

theorem hi_upper (q : Piece) : q.upper.hi = q.hi := by
  simp only [upper, hi, pow_succ]
  push_cast
  field_simp
  ring

end Piece

/-- The pieces lie side by side, in order, from `a` to `b`. -/
def Tiles (a : ℚ) : List Piece → ℚ → Prop
  | [], b => a = b
  | q :: rest, b => q.lo = a ∧ Tiles q.hi rest b

namespace Tiles
variable {a b d : ℚ} {l l' : List Piece}

theorem append (h : Tiles a l b) (h' : Tiles b l' d) : Tiles a (l ++ l') d := by
  induction l generalizing a with
  | nil => exact Eq.symm h ▸ h'
  | cons q l ih => exact ⟨h.1, ih h.2⟩

/-- The parameters of the starts and the middles, and of the end. -/
def parameters (l : List Piece) (b : ℚ) : List ℚ := l.flatMap (fun q => [q.lo, q.mid]) ++ [b]

theorem le_of_mem_parameters (h : Tiles a l b) : ∀ u ∈ parameters l b, a ≤ u := by
  induction l generalizing a with
  | nil =>
    intro u hu
    rw [List.mem_singleton.1 hu]
    exact Eq.le h
  | cons q l ih =>
    obtain ⟨rfl, hrest⟩ := h
    intro u hu
    simp only [parameters, List.flatMap_cons, List.cons_append, List.nil_append, List.mem_cons] at hu
    rcases hu with rfl | rfl | hu
    · exact le_rfl
    · exact q.lo_lt_mid.le
    · exact q.lo_lt_hi.le.trans (ih hrest u hu)

/-- There are no gaps between the pieces and no overlaps. -/
theorem pairwise_parameters (h : Tiles a l b) : (parameters l b).Pairwise (· < ·) := by
  induction l generalizing a with
  | nil => exact List.pairwise_singleton _ _
  | cons q l ih =>
    obtain ⟨rfl, hrest⟩ := h
    have hlater : ∀ u ∈ parameters l b, q.hi ≤ u := hrest.le_of_mem_parameters
    show (q.lo :: q.mid :: parameters l b).Pairwise (· < ·)
    refine List.pairwise_cons.2 ⟨fun u hu => ?_, List.pairwise_cons.2 ⟨fun u hu => ?_, ih hrest⟩⟩
    · rcases List.mem_cons.1 hu with rfl | hu
      · exact q.lo_lt_mid
      · exact q.lo_lt_hi.trans_le (hlater u hu)
    · exact q.mid_lt_hi.trans_le (hlater u hu)

theorem extent_le (h : Tiles a l b) {m : Nat} (hm : ∀ q ∈ l, m ≤ q.level) : b - a ≤ l.length / 2 ^ m := by
  induction l generalizing a with
  | nil => simp [show a = b from h]
  | cons q l ih =>
    obtain ⟨rfl, hrest⟩ := h
    have hwidth : (1 : ℚ) / 2 ^ q.level ≤ 1 / 2 ^ m :=
      one_div_le_one_div_of_le (by positivity) (pow_le_pow_right₀ (by norm_num) (hm q List.mem_cons_self))
    have hsum := ih hrest fun r hr => hm r (List.mem_cons_of_mem q hr)
    rw [q.hi_eq] at hsum
    rw [List.length_cons, Nat.cast_succ, add_div]
    linarith

theorem le_extent (h : Tiles a l b) {n : Nat} (hn : ∀ q ∈ l, q.level ≤ n) : l.length / 2 ^ n ≤ b - a := by
  induction l generalizing a with
  | nil => simp [show a = b from h]
  | cons q l ih =>
    obtain ⟨rfl, hrest⟩ := h
    have hwidth : (1 : ℚ) / 2 ^ n ≤ 1 / 2 ^ q.level :=
      one_div_le_one_div_of_le (by positivity) (pow_le_pow_right₀ (by norm_num) (hn q List.mem_cons_self))
    have hsum := ih hrest fun r hr => hn r (List.mem_cons_of_mem q hr)
    rw [q.hi_eq] at hsum
    rw [List.length_cons, Nat.cast_succ, add_div]
    linarith

/-- Between `m` and `n` halvings make between `2^m` and `2^n` pieces. -/
theorem length_bounds (h : Tiles 0 l 1) {m n : Nat} (hl : ∀ q ∈ l, m ≤ q.level ∧ q.level ≤ n) :
    2 ^ m ≤ l.length ∧ l.length ≤ 2 ^ n := by
  have hlow := h.extent_le fun q hq => (hl q hq).1
  have hhigh := h.le_extent fun q hq => (hl q hq).2
  rw [sub_zero, le_div_iff₀ (by positivity), one_mul] at hlow
  rw [sub_zero, div_le_one (by positivity)] at hhigh
  exact ⟨by exact_mod_cast hlow, by exact_mod_cast hhigh⟩

end Tiles

/-! ## Trees -/

/-- How a piece is cut up: it is kept, or its halves are cut up. -/
inductive Subdivision where
  | kept
  | halved (lower upper : Subdivision)
deriving DecidableEq

namespace Subdivision

/-- The pieces that are kept, in order. -/
def pieces : Subdivision → Piece → List Piece
  | kept, q => [q]
  | halved l u, q => l.pieces q.lower ++ u.pieces q.upper

/-- The pieces that are halved. -/
def cuts : Subdivision → Piece → List Piece
  | kept, _ => []
  | halved l u, q => q :: (l.cuts q.lower ++ u.cuts q.upper)

theorem tiles_pieces (t : Subdivision) (q : Piece) : Tiles q.lo (t.pieces q) q.hi := by
  induction t generalizing q with
  | kept => exact ⟨rfl, rfl⟩
  | halved l u ihl ihu =>
    have hl := ihl q.lower
    have hu := ihu q.upper
    rw [q.lo_lower, q.hi_lower] at hl
    rw [q.lo_upper, q.hi_upper] at hu
    exact hl.append hu

theorem tiles_unit (t : Subdivision) : Tiles 0 (t.pieces .unit) 1 := by
  have hlo : Piece.unit.lo = 0 := by simp [Piece.unit, Piece.lo]
  have hhi : Piece.unit.hi = 1 := by simp [Piece.unit, Piece.hi]
  rw [← hlo, ← hhi]
  exact t.tiles_pieces .unit

end Subdivision

/-! ## Points of the curve -/

variable {α : Type}

/-- The parameter that halving the unit interval arrives at for
`index / 2^level`. -/
def dyadic [Zero α] [One α] [Add α] [Div α] [OfNat α 2] : Nat → Nat → α
  | 0, index => if index = 0 then 0 else 1
  | level + 1, index =>
    if index % 2 = 0 then dyadic level (index / 2)
    else (dyadic level (index / 2) + dyadic level (index / 2 + 1)) / 2

section
variable [Zero α] [One α] [Add α] [Div α] [OfNat α 2]

theorem dyadic_even (level index : Nat) : (dyadic (level + 1) (2 * index) : α) = dyadic level index := by
  rw [dyadic, if_pos (by omega), show 2 * index / 2 = index by omega]

theorem dyadic_odd (level index : Nat) :
    (dyadic (level + 1) (2 * index + 1) : α) = (dyadic level index + dyadic level (index + 1)) / 2 := by
  rw [dyadic, if_neg (by omega), show (2 * index + 1) / 2 = index by omega]

end

namespace Cubic
variable [Zero α] [One α] [Add α] [Sub α] [Mul α] [Div α] [Neg α] [OfNat α 2] [OfNat α 3] [OfNat α 6]

/-- The point of the curve at `index / 2^level`; the end points are those that
are given. -/
def vertex (c : Cubic α) (level index : Nat) : Point α :=
  if index = 0 then c.p0 else if index = 2 ^ level then c.p3 else c.point (dyadic level index)

def start (c : Cubic α) (q : Piece) : Point α := c.vertex q.level q.index

def middle (c : Cubic α) (q : Piece) : Point α := c.vertex (q.level + 1) (2 * q.index + 1)

def stop (c : Cubic α) (q : Piece) : Point α := c.vertex q.level (q.index + 1)

/-- Of every piece its start and its middle, and then the end. -/
def polyline (c : Cubic α) (l : List Piece) : List (Point α) :=
  l.flatMap (fun q => [c.start q, c.middle q]) ++ [c.p3]

theorem length_polyline (c : Cubic α) (l : List Piece) : (c.polyline l).length = 2 * l.length + 1 := by
  simp [polyline, List.length_flatMap, Nat.mul_comm]

theorem vertex_even (c : Cubic α) (level index : Nat) :
    c.vertex (level + 1) (2 * index) = c.vertex level index := by
  have hzero : 2 * index = 0 ↔ index = 0 := by omega
  have hone : 2 * index = 2 ^ (level + 1) ↔ index = 2 ^ level := by rw [Nat.pow_succ]; omega
  simp only [vertex, hzero, hone, dyadic_even]

theorem start_lower (c : Cubic α) (q : Piece) : c.start q.lower = c.start q := c.vertex_even _ _

theorem stop_lower (c : Cubic α) (q : Piece) : c.stop q.lower = c.middle q := rfl

theorem start_upper (c : Cubic α) (q : Piece) : c.start q.upper = c.middle q := rfl

theorem stop_upper (c : Cubic α) (q : Piece) : c.stop q.upper = c.stop q := c.vertex_even _ (q.index + 1)

/-- A middle is no end point. -/
theorem middle_eq (c : Cubic α) (q : Piece) :
    c.middle q = c.point ((dyadic q.level q.index + dyadic q.level (q.index + 1)) / 2) := by
  have hone : 2 * q.index + 1 ≠ 2 ^ (q.level + 1) := by rw [Nat.pow_succ]; omega
  rw [middle, vertex, if_neg (by omega), if_neg hone, dyadic_odd]

end Cubic

/-! ## One step -/

section
variable [Zero α] [Sub α] [Mul α] [Div α] [BEq α] [LE α] [DecidableLE α] [LT α] [DecidableLT α] [Euclidean α]
variable {f : Flattening α}

theorem Flattening.lt_depthBound {depth : Nat} {mid start stop : Point α}
    (h : f.splits depth mid start stop = .ok true) : depth < f.depthBound := by
  simp only [splits, bind_eq_ok] at h
  obtain ⟨_, _, _, _, n, hn, _, _, h⟩ := h
  have hmax : f.maxDepth = .ok n := by
    cases hf : f.maxDepth with
    | error => rw [hf] at hn; cases hn
    | ok n' => rw [hf] at hn; cases hn; rfl
  split at h
  · rename_i hdepth
    simp only [depthBound, hmax]
    omega
  · simp only [bind_eq_ok, pure_eq_ok, decide_eq_true_eq] at h
    obtain ⟨m, hm, hdepth⟩ := h
    have hmin : f.minDepth = .ok m := by
      cases hf : f.minDepth with
      | error => rw [hf] at hm; cases hm
      | ok m' => rw [hf] at hm; cases hm; rfl
    simp only [depthBound, hmin]
    omega

variable [Add α] [Neg α] [OfNat α 2] [OfNat α 3] [OfNat α 6] {c : Cubic α}

theorem Flattening.pieces_of_kept {depth : Nat} {lo hi : α} {start stop : Point α} (room : Nat)
    (h : f.splits depth (c.point ((lo + hi) / 2)) start stop = .ok false) :
    f.pieces c room depth lo hi start stop = .ok [start, c.point ((lo + hi) / 2)] := by
  rw [pieces.eq_def]
  simp only [h]

theorem Flattening.pieces_of_halved {room depth : Nat} {lo hi : α} {start stop : Point α}
    {left right : List (Point α)} (h : f.splits depth (c.point ((lo + hi) / 2)) start stop = .ok true)
    (hleft : f.pieces c room (depth + 1) lo ((lo + hi) / 2) start (c.point ((lo + hi) / 2)) = .ok left)
    (hright : f.pieces c room (depth + 1) ((lo + hi) / 2) hi (c.point ((lo + hi) / 2)) stop = .ok right) :
    f.pieces c (room + 1) depth lo hi start stop = .ok (left ++ right) := by
  rw [pieces.eq_def]
  simp only [h, hleft, hright]
  rfl

end

/-! ## Flattening -/

section
variable [Zero α] [One α] [Add α] [Sub α] [Mul α] [Div α] [Neg α] [OfNat α 2] [OfNat α 3] [OfNat α 6]
variable [BEq α] [LE α] [DecidableLE α] [LT α] [DecidableLT α] [Euclidean α]

/-- Whether flattening splits a piece of a cubic. -/
def Flattening.splitsPiece (f : Flattening α) (c : Cubic α) (q : Piece) : Except FlattenError Bool :=
  f.splits q.level (c.middle q) (c.start q) (c.stop q)

/-- The settings cut a piece of a cubic up like this. -/
inductive Flattening.Subdivides (f : Flattening α) (c : Cubic α) : Piece → Subdivision → Prop
  | kept {q : Piece} (h : f.splitsPiece c q = .ok false) : Subdivides f c q .kept
  | halved {q : Piece} {l u : Subdivision} (h : f.splitsPiece c q = .ok true)
      (hl : Subdivides f c q.lower l) (hu : Subdivides f c q.upper u) : Subdivides f c q (.halved l u)

variable {f : Flattening α} {c : Cubic α}

/-- Sound settings cut every piece up in some way. -/
theorem Flattening.IsSound.exists_subdivides (h : f.IsSound) (c : Cubic α) (q : Piece) :
    ∃ t, f.Subdivides c q t := by
  induction hroom : f.depthBound - q.level generalizing q with
  | zero =>
    obtain ⟨b, hb⟩ := h.exists_splits q.level (c.middle q) (c.start q) (c.stop q)
    cases b with
    | false => exact ⟨.kept, .kept hb⟩
    | true =>
      have := lt_depthBound hb
      omega
  | succ room ih =>
    obtain ⟨b, hb⟩ := h.exists_splits q.level (c.middle q) (c.start q) (c.stop q)
    cases b with
    | false => exact ⟨.kept, .kept hb⟩
    | true =>
      obtain ⟨l, hl⟩ := ih q.lower (by simp only [Piece.lower]; omega)
      obtain ⟨u, hu⟩ := ih q.upper (by simp only [Piece.upper]; omega)
      exact ⟨.halved l u, .halved hb hl hu⟩

namespace Flattening.Subdivides
variable {q r : Piece} {t t' : Subdivision}

/-- Settings cut a piece up in one way. -/
theorem unique (h : f.Subdivides c q t) (h' : f.Subdivides c q t') : t = t' := by
  induction h generalizing t' with
  | kept h =>
    cases h' with
    | kept => rfl
    | halved h' => cases h.symm.trans h'
  | halved h hl hu ihl ihu =>
    cases h' with
    | kept h' => cases h.symm.trans h'
    | halved _ hl' hu' => rw [ihl hl', ihu hu']

theorem splits_of_mem_pieces (h : f.Subdivides c q t) (hr : r ∈ t.pieces q) :
    f.splitsPiece c r = .ok false := by
  induction h with
  | kept h => exact List.mem_singleton.1 hr ▸ h
  | halved _ _ _ ihl ihu => exact (List.mem_append.1 hr).elim ihl ihu

theorem splits_of_mem_cuts (h : f.Subdivides c q t) (hr : r ∈ t.cuts q) : f.splitsPiece c r = .ok true := by
  induction h with
  | kept => exact (List.not_mem_nil hr).elim
  | halved h _ _ ihl ihu =>
    rcases List.mem_cons.1 hr with rfl | hr
    · exact h
    · exact (List.mem_append.1 hr).elim ihl ihu

theorem level_le (h : f.Subdivides c q t) (hr : r ∈ t.pieces q) (hq : q.level ≤ f.depthBound) :
    r.level ≤ f.depthBound := by
  induction h with
  | kept => exact List.mem_singleton.1 hr ▸ hq
  | halved h _ _ ihl ihu =>
    have hlt := lt_depthBound h
    exact (List.mem_append.1 hr).elim (ihl · hlt) (ihu · hlt)

/-- Flattening follows the tree, wherever there is room for it. -/
theorem pieces_eq (h : f.Subdivides c q t) (room : Nat) (hroom : f.depthBound ≤ q.level + room) :
    f.pieces c room q.level (dyadic q.level q.index) (dyadic q.level (q.index + 1)) (c.start q) (c.stop q)
      = .ok ((t.pieces q).flatMap fun r => [c.start r, c.middle r]) := by
  induction h generalizing room with
  | @kept q h =>
    rw [splitsPiece, c.middle_eq] at h
    rw [pieces_of_kept room h, Subdivision.pieces, List.flatMap_singleton, c.middle_eq]
  | @halved q l u h _ _ ihl ihu =>
    have hlt := lt_depthBound h
    obtain ⟨room, rfl⟩ : ∃ n, room = n + 1 := ⟨room - 1, by omega⟩
    have hl := ihl room (by simp only [Piece.lower]; omega)
    have hu := ihu room (by simp only [Piece.upper]; omega)
    rw [c.start_lower, c.stop_lower] at hl
    rw [c.start_upper, c.stop_upper] at hu
    -- The halves meet at the parameter of the middle.
    have hnext : 2 * q.index + 1 + 1 = 2 * (q.index + 1) := by omega
    simp only [Piece.lower, dyadic_even, dyadic_odd] at hl
    simp only [Piece.upper, hnext, dyadic_even, dyadic_odd] at hu
    rw [splitsPiece, c.middle_eq] at h
    rw [c.middle_eq] at hl hu
    rw [pieces_of_halved h hl hu, Subdivision.pieces, List.flatMap_append]
    rfl

theorem flatten_eq (h : f.Subdivides c .unit t) : c.flatten f = .ok (c.polyline (t.pieces .unit)) := by
  have hstart : c.start .unit = c.p0 := by simp [Cubic.start, Cubic.vertex, Piece.unit]
  have hstop : c.stop .unit = c.p3 := by simp [Cubic.stop, Cubic.vertex, Piece.unit]
  have hpieces := h.pieces_eq f.depthBound (Nat.le_add_left _ _)
  rw [hstart, hstop] at hpieces
  have hunit : f.pieces c f.depthBound 0 0 1 c.p0 c.p3
      = .ok ((t.pieces .unit).flatMap fun r => [c.start r, c.middle r]) := hpieces
  rw [Cubic.flatten, hunit]
  rfl

end Flattening.Subdivides

/-! ## Limits that are numbers -/

/-- Settings with numbers for all limits. -/
def Flattening.ofLimits {β : Type} (tolerance : β) (maxDepth minDepth : Int) (epsilon : β) : Flattening β where
  tolerance := .ok tolerance
  maxDepth := .ok maxDepth
  minDepth := .ok minDepth
  chordEpsilon := .ok epsilon

/-- A piece deviates from its chord by more than the tolerance, and the chord
has not vanished. -/
def Cubic.Bends (c : Cubic α) (tolerance epsilon : α) (q : Piece) : Prop :=
  (∃ d, flatness epsilon (c.middle q) (c.start q) (c.stop q) = .ok d ∧ tolerance < d) ∧
    epsilon < (c.start q).distance (c.stop q)

variable {tolerance epsilon : α} {maxDepth minDepth : Int} {q : Piece}

/-- A piece is split above the least depth, and above the greatest if it
bends. -/
theorem Flattening.splitsPiece_ofLimits {b : Bool}
    (h : (ofLimits tolerance maxDepth minDepth epsilon).splitsPiece c q = .ok b) :
    b = true ↔ (q.level : Int) < minDepth ∨ ((q.level : Int) < maxDepth ∧ c.Bends tolerance epsilon q) := by
  simp only [splitsPiece, splits, ofLimits, Except.mapError, ok_bind, bind_eq_ok] at h
  obtain ⟨d, hd, h⟩ := h
  have hbends : c.Bends tolerance epsilon q ↔
      tolerance < d ∧ epsilon < (c.start q).distance (c.stop q) := by
    refine and_congr_left fun _ => ⟨?_, fun h => ⟨d, hd, h⟩⟩
    rintro ⟨d', hd', hlt⟩
    rw [hd, Except.ok.injEq] at hd'
    exact hd' ▸ hlt
  rw [hbends]
  split at h
  · rename_i hsplit
    rw [← pure_eq_ok.1 h]
    exact iff_of_true rfl (.inr ⟨hsplit.2.1, hsplit.1, hsplit.2.2⟩)
  · rename_i hsplit
    rw [← pure_eq_ok.1 h, decide_eq_true_iff]
    refine ⟨.inl, fun h => h.resolve_right ?_⟩
    rintro ⟨hmax, hdeviates, hchord⟩
    exact hsplit ⟨hdeviates, hmax, hchord⟩

namespace Flattening.Subdivides
variable {t : Subdivision}

theorem levels (h : (ofLimits tolerance maxDepth minDepth epsilon).Subdivides c .unit t) :
    ∀ q ∈ t.pieces .unit, minDepth.toNat ≤ q.level ∧ q.level ≤ max minDepth.toNat maxDepth.toNat := by
  intro q hq
  have hkept := (splitsPiece_ofLimits (h.splits_of_mem_pieces hq)).not.1 Bool.false_ne_true
  have hle := h.level_le hq (Nat.zero_le _)
  simp only [depthBound, ofLimits] at hle
  omega

theorem exists_halved {q : Piece} (h : (ofLimits tolerance maxDepth minDepth epsilon).Subdivides c q t)
    (hlt : (q.level : Int) < minDepth) : ∃ l u, t = .halved l u ∧
      (ofLimits tolerance maxDepth minDepth epsilon).Subdivides c q.lower l ∧
      (ofLimits tolerance maxDepth minDepth epsilon).Subdivides c q.upper u := by
  cases h with
  | kept h => exact absurd ((splitsPiece_ofLimits h).2 (.inl hlt)) Bool.false_ne_true
  | halved _ hl hu => exact ⟨_, _, rfl, hl, hu⟩

theorem eq_kept {q : Piece} (h : (ofLimits tolerance maxDepth minDepth epsilon).Subdivides c q t)
    (hle : minDepth ≤ q.level) (hbends : ¬c.Bends tolerance epsilon q) : t = .kept := by
  cases h with
  | kept => rfl
  | halved h =>
    rcases (splitsPiece_ofLimits h).1 rfl with hlt | ⟨-, hb⟩
    · omega
    · exact absurd hb hbends

theorem not_bends (h : (ofLimits tolerance maxDepth minDepth epsilon).Subdivides c .unit t) :
    ∀ q ∈ t.pieces .unit, (q.level : Int) < maxDepth → ¬c.Bends tolerance epsilon q := fun _ hq hlt hbends =>
  (splitsPiece_ofLimits (h.splits_of_mem_pieces hq)).not.1 Bool.false_ne_true (.inr ⟨hlt, hbends⟩)

theorem bends (h : (ofLimits tolerance maxDepth minDepth epsilon).Subdivides c .unit t) :
    ∀ q ∈ t.cuts .unit, minDepth.toNat ≤ q.level →
      c.Bends tolerance epsilon q ∧ (q.level : Int) < maxDepth := by
  intro q hq hle
  rcases (splitsPiece_ofLimits (h.splits_of_mem_cuts hq)).1 rfl with hlt | ⟨hlt, hbends⟩
  · omega
  · exact ⟨hbends, hlt⟩

end Flattening.Subdivides

end

theorem Flattening.isSound_ofLimits [Zero α] [BEq α] [LE α] (tolerance : α) (maxDepth minDepth : Int)
    {epsilon : α} (h : CoversZero epsilon) : (ofLimits tolerance maxDepth minDepth epsilon).IsSound :=
  ⟨⟨_, rfl⟩, ⟨_, rfl⟩, ⟨_, rfl⟩, ⟨_, rfl, h⟩⟩

end PlotDigitizer
