/-
How a command lets a curve grow.

Where the points that commands end in equal themselves, the pen stays at the
last point of the curve, and the first point equals itself
(`Assembly.IsProper`). Then each command but a move keeps the points there are
and adds some: a line its end, whatever was there; a cubic its polyline, without
the points that repeat the one before them (`Assembly.exists_foldl_addNew`);
closing the first point, unless the last one equals it (`Assembly.close_cases`).
-/
import Mathlib.Data.List.Destutter
import PlotDigitizer.Proofs.Curve.Runs

namespace PlotDigitizer

variable {α : Type} [BEq α]

/-- The points less every one that equals the one kept before it. -/
def withoutRepeats (ps : List (Point α)) : List (Point α) := ps.destutter fun p q => ¬p == q

theorem isChain_withoutRepeats (ps : List (Point α)) :
    (withoutRepeats ps).IsChain fun p q => ¬p == q :=
  List.isChain_destutter _ ps

theorem withoutRepeats_cons_of_ne {p q : Point α} (h : (p == q) = false) (ps : List (Point α)) :
    withoutRepeats (p :: q :: ps) = p :: withoutRepeats (q :: ps) := by
  rw [withoutRepeats, List.destutter_cons', List.destutter'_cons_pos ps (by simp [h])]
  rfl

theorem withoutRepeats_cons_of_eq {p q : Point α} (h : (p == q) = true) (ps : List (Point α)) :
    withoutRepeats (p :: q :: ps) = withoutRepeats (p :: ps) := by
  rw [withoutRepeats, List.destutter_cons', List.destutter'_cons_neg ps (by simp [h])]
  rfl

theorem head?_withoutRepeats (ps : List (Point α)) : (withoutRepeats ps).head? = ps.head? := by
  cases ps with
  | nil => rfl
  | cons p ps =>
    induction ps with
    | nil => rfl
    | cons q ps ih =>
      cases h : p == q with
      | true => rw [withoutRepeats_cons_of_eq h, ih]; rfl
      | false => rw [withoutRepeats_cons_of_ne h]; rfl

namespace Assembly
variable {s s' : Assembly α}

/-! ## Adding what is new -/

/-- What is added of some points, after the last one there was. -/
theorem exists_foldl_addNew (s : Assembly α) (ps : List (Point α)) :
    ∃ added, (ps.foldl addNew s).points.toList = s.points.toList ++ added ∧
      s.points.back?.toList ++ added = withoutRepeats (s.points.back?.toList ++ ps) := by
  induction ps generalizing s with
  | nil =>
    refine ⟨[], (List.append_nil _).symm, ?_⟩
    cases s.points.back? <;> rfl
  | cons p ps ih =>
    rw [List.foldl_cons]
    cases hrepeats : s.points.back?.any (· == p) with
    | true =>
      obtain ⟨last, hlast, heq⟩ := (Option.any_eq_true _ _).1 hrepeats
      have hsame : s.addNew p = s := by simp [addNew, hrepeats]
      obtain ⟨added, hadded, hnew⟩ := ih s
      rw [hsame]
      refine ⟨added, hadded, ?_⟩
      rw [hnew, hlast]
      exact (withoutRepeats_cons_of_eq heq ps).symm
    | false =>
      have hpoints : (s.addNew p).points = s.points.push p := by simp [addNew, hrepeats]
      obtain ⟨added, hadded, hnew⟩ := ih (s.addNew p)
      rw [hpoints, Array.back?_push] at hnew
      have hnew : p :: added = withoutRepeats (p :: ps) := hnew
      refine ⟨p :: added, by simp [hadded, hpoints], ?_⟩
      cases hlast : s.points.back? with
      | none => exact hnew
      | some last =>
        rw [hlast, Option.any_some] at hrepeats
        rw [hnew]
        exact (withoutRepeats_cons_of_ne hrepeats ps).symm

theorem back?_addNew (s : Assembly α) {p : Point α} (hp : p == p) :
    ∃ q, (s.addNew p).points.back? = some q ∧ q == p := by
  unfold addNew
  split
  · rename_i h
    exact (Option.any_eq_true _ _).1 h
  · exact ⟨p, Array.back?_push, hp⟩

/-- Only closing makes the last point the first one again. -/
theorem points_of_returned_foldl_addNew {ps : List (Point α)} (h : (ps.foldl addNew s).returned = true) :
    s.returned = true ∧ (ps.foldl addNew s).points = s.points := by
  induction ps generalizing s with
  | nil => exact ⟨h, rfl⟩
  | cons p ps ih =>
    obtain ⟨hreturned, hpoints⟩ := ih h
    rw [List.foldl_cons, hpoints]
    unfold addNew at hreturned ⊢
    split at hreturned
    · rename_i hrepeats
      rw [if_pos hrepeats]
      exact ⟨hreturned, rfl⟩
    · cases hreturned

/-! ## Proper assemblies -/

/-- The pen is at the last point, the first point equals itself, and a curve that
returned did so to its first point. -/
structure IsProper (s : Assembly α) : Prop where
  pen : s.pen == s.pen
  last : ∀ q, s.points.back? = some q → s.pen == q
  first : ∀ q, s.points[0]? = some q → q == q
  returned : s.returned = true → s.points.back? = s.points[0]?

theorem isProper_start [Zero α] (h : (Point.origin : Point α) == .origin) :
    ({ pen := .origin } : Assembly α).IsProper where
  pen := h
  last := by simp
  first := by simp
  returned := by simp

theorem IsProper.add (h : s.IsProper) {p : Point α} (hp : p == p) : (s.add p).IsProper where
  pen := hp
  last := by
    intro q hq
    simp only [Assembly.add, Array.back?_push, Option.some.injEq] at hq
    exact hq ▸ hp
  first := by
    intro q hq
    rw [Assembly.add, Array.getElem?_push] at hq
    split at hq
    · exact Option.some.inj hq ▸ hp
    · exact h.first q hq
  returned := by simp [Assembly.add]

/-- A curve that is begun anew needs nothing of the one before. -/
theorem isProper_flush_add (s : Assembly α) {p : Point α} (hp : p == p) : (s.flush.add p).IsProper where
  pen := hp
  last := by simp [Assembly.add, hp]
  first := by simp [Assembly.add, points_flush, hp]
  returned := by simp [Assembly.add]

/-- A curve is back exactly if its last point equals its first. -/
theorem IsProper.isBack_eq (h : s.IsProper) {first last : Point α} (hfirst : s.points[0]? = some first)
    (hlast : s.points.back? = some last) : s.isBack first = (last == first) := by
  have hself : first == first := h.first first hfirst
  have hsame : s.points.back? = s.points[0]? → (last == first) = true := by
    intro hback
    rw [hlast, hfirst] at hback
    exact Option.some.inj hback ▸ hself
  rw [isBack, hlast, Option.any_some, Bool.eq_iff_iff, Bool.or_eq_true, Bool.or_eq_true, beq_iff_eq]
  constructor
  · rintro ((hreturned | hone) | heq)
    · exact hsame (h.returned hreturned)
    · exact hsame (by rw [Array.back?_eq_getElem?, hone])
    · exact heq
  · exact .inr

/-- Closing adds the first point, unless the last one equals it. -/
theorem IsProper.close_cases (h : s.IsProper) :
    (s.points = #[] ∧ s.close = s) ∨
    ∃ first last, s.points[0]? = some first ∧ s.points.back? = some last ∧
      ((last == first) = true ∧ s.close = { s with pen := first } ∨
       (last == first) = false ∧
        s.close = { s with points := s.points.push first, pen := first, returned := true }) := by
  cases hfirst : s.points[0]? with
  | none =>
    have hempty : s.points = #[] :=
      Array.eq_empty_of_size_eq_zero (Nat.le_zero.1 (Array.getElem?_eq_none_iff.1 hfirst))
    exact .inl ⟨hempty, by simp [Assembly.close, hfirst]⟩
  | some first =>
    obtain ⟨hsize, -⟩ := Array.getElem?_eq_some_iff.1 hfirst
    obtain ⟨last, hlast⟩ : ∃ last, s.points.back? = some last :=
      ⟨_, Array.back?_eq_getElem?.trans (Array.getElem?_eq_getElem (Nat.sub_one_lt_of_lt hsize))⟩
    refine .inr ⟨first, last, rfl, hlast, ?_⟩
    have hback := h.isBack_eq hfirst hlast
    cases heq : last == first with
    | true => exact .inl ⟨rfl, by simp [Assembly.close, hfirst, hback, heq]⟩
    | false => exact .inr ⟨rfl, by simp [Assembly.close, hfirst, hback, heq]⟩

end Assembly

/-! ## What a command adds -/

/-- Whether the command may end where the curve is already. -/
def Command.mayShare : Command α → Bool
  | .cubic _ _ _ | .close => true
  | .move _ | .line _ => false

namespace Assembly
variable {s s' : Assembly α} {c : Command α}

/-- What a command adds to a curve: no point that equals the one before it,
unless the command is a line; and where its end is to be a point of its own,
nothing but its end. -/
structure Adds (s s' : Assembly α) (c : Command α) (added : List (Point α)) : Prop where
  points : s'.points.toList = s.points.toList ++ added
  differ : (∃ p, c = .line p) ∨ (s.points.back?.toList ++ added).IsChain fun p q => ¬p == q
  own : c.mayShare = false → c.stop?.toList = added

/-- A move and a line add one point. -/
theorem Adds.size_eq {added : List (Point α)} (h : Adds s s' c added) (hc : c.mayShare = false) :
    s'.points.size = s.points.size + 1 := by
  have hone : added.length = 1 := by
    rw [← h.own hc]
    cases c with
    | move | line => rfl
    | cubic | close => cases hc
  rw [← Array.length_toList, h.points, List.length_append, hone, Array.length_toList]

/-- Two points in a row that equal each other, the later one of which a command
added: then the command is a line to that point. -/
theorem Adds.line_of_repeats {added : List (Point α)} (h : Adds s s' c added) {i : Nat} {q r : Point α}
    (hi : s.points.size ≤ i + 1) (hq : s'.points[i]? = some q) (hr : s'.points[i + 1]? = some r)
    (heq : (q == r) = true) : c = .line r ∧ i + 1 = s.points.size := by
  rw [← Array.getElem?_toList, h.points] at hq hr
  rcases h.differ with ⟨p, rfl⟩ | hdiffer
  · have hadded : [p] = added := h.own rfl
    obtain ⟨hlt, -⟩ := List.getElem?_eq_some_iff.1 hr
    have hsize : i + 1 = s.points.toList.length := by
      simp only [← hadded, List.length_append, List.length_singleton, Array.length_toList] at hlt ⊢
      omega
    rw [hsize, ← hadded, List.getElem?_concat_length] at hr
    exact ⟨congrArg _ (Option.some.inj hr), hsize⟩
  · -- From the last point there was on, no two in a row are equal.
    have hsplit : s.points.toList = s.points.toList.dropLast ++ s.points.back?.toList := by
      rw [← Array.getLast?_toList]
      cases hlast : s.points.toList.getLast? with
      | none => simp [List.getLast?_eq_none_iff.1 hlast]
      | some last => exact (List.dropLast_append_getLast? last hlast).symm
    have hlength : s.points.toList.dropLast.length ≤ i := by
      rw [List.length_dropLast, Array.length_toList]
      omega
    rw [hsplit, List.append_assoc, List.getElem?_append_right (by omega)] at hq hr
    rw [Nat.sub_add_comm hlength] at hr
    obtain ⟨_, rfl⟩ := List.getElem?_eq_some_iff.1 hq
    obtain ⟨hlt, rfl⟩ := List.getElem?_eq_some_iff.1 hr
    exact absurd heq (List.isChain_iff_getElem.1 hdiffer _ hlt)

end Assembly

/-! ## Following a command -/

section
variable [Zero α] [One α] [Add α] [Sub α] [Mul α] [Div α] [Neg α]
  [OfNat α 2] [OfNat α 3] [OfNat α 6]
  [LE α] [DecidableLE α] [LT α] [DecidableLT α] [Euclidean α]
  {f : Flattening α} {s s' : Assembly α} {c : Command α}

namespace Assembly

theorem pen_follow (h : s.follow f c = .ok s') {p : Point α} (hp : c.stop? = some p) : s'.pen = p := by
  cases c with
  | move q | line q =>
    obtain rfl := Except.ok.inj h
    exact Option.some.inj hp
  | cubic c₁ c₂ q =>
    obtain ⟨polyline, -, rfl⟩ := follow_cubic h
    exact Option.some.inj hp
  | close => cases hp

theorem IsProper.cubic [PartialEquivBEq α] (h : s.IsProper) {c₁ c₂ p : Point α} (hp : p == p)
    (hs : s.follow f (.cubic c₁ c₂ p) = .ok s') : s'.IsProper := by
  obtain ⟨polyline, hpolyline, rfl⟩ := follow_cubic hs
  refine ⟨hp, fun q hq => ?_, fun q hq => ?_, fun hreturned => ?_⟩
  · obtain ⟨qs, -, rfl⟩ := Cubic.flatten_eq_ok.1 hpolyline
    rw [List.foldl_append, List.foldl_cons, List.foldl_nil] at hq
    obtain ⟨last, hlast, heq⟩ := back?_addNew (qs.foldl addNew s) hp
    obtain rfl : last = q := Option.some.inj (hlast.symm.trans hq)
    exact BEq.symm heq
  · obtain ⟨added, hadded, hnew⟩ := s.exists_foldl_addNew polyline
    have hq : (s.points.toList ++ added)[0]? = some q := by
      rw [← hadded, Array.getElem?_toList]
      exact hq
    cases hpoints : s.points.toList with
    | cons first rest =>
      rw [hpoints] at hq
      refine h.first q ?_
      rw [← Array.getElem?_toList, hpoints]
      exact hq
    | nil =>
      -- The curve begins where its polyline does, at the pen.
      have hlast : s.points.back? = none := by rw [← Array.getLast?_toList, hpoints]; rfl
      have hnew : added = withoutRepeats polyline := by rwa [hlast] at hnew
      rw [hpoints, List.nil_append, hnew, ← List.head?_eq_getElem?, head?_withoutRepeats,
        Cubic.head?_flatten hpolyline] at hq
      exact Option.some.inj hq ▸ h.pen
  · obtain ⟨hold, hpoints⟩ := points_of_returned_foldl_addNew hreturned
    show (polyline.foldl addNew s).points.back? = (polyline.foldl addNew s).points[0]?
    rw [hpoints]
    exact h.returned hold

/-- Every command leaves a proper assembly, if it ends in a point that equals
itself. -/
theorem IsProper.follow [PartialEquivBEq α] (h : s.IsProper) (hc : ∀ p, c.stop? = some p → p == p)
    (hs : s.follow f c = .ok s') : s'.IsProper := by
  cases c with
  | move p =>
    obtain rfl := Except.ok.inj hs
    exact s.isProper_flush_add (hc p rfl)
  | line p =>
    obtain rfl := Except.ok.inj hs
    exact h.add (hc p rfl)
  | cubic c₁ c₂ p => exact h.cubic (hc p rfl) hs
  | close =>
    obtain rfl := Except.ok.inj hs
    rcases h.close_cases with ⟨-, hclose⟩ | ⟨first, last, hfirst, hlast, ⟨heq, hclose⟩ | ⟨hne, hclose⟩⟩
    · rwa [hclose]
    · have hself := h.first first hfirst
      rw [hclose]
      refine ⟨hself, fun q hq => ?_, h.first, h.returned⟩
      obtain rfl : last = q := Option.some.inj (hlast.symm.trans hq)
      exact BEq.symm heq
    · have hself := h.first first hfirst
      have hadded := h.add hself
      rw [hclose]
      refine ⟨hself, hadded.last, hadded.first, fun _ => ?_⟩
      rw [Array.back?_push, Array.getElem?_push, hfirst, ite_self]

theorem IsProper.foldlM [PartialEquivBEq α] (h : s.IsProper) {cs : List (Command α)}
    (hcs : ∀ c ∈ cs, ∀ p, c.stop? = some p → p == p) (hs : cs.foldlM (Assembly.follow f) s = .ok s') :
    s'.IsProper := by
  induction cs generalizing s with
  | nil => exact pure_eq_ok.1 hs ▸ h
  | cons c cs ih =>
    obtain ⟨hc, hcs⟩ := List.forall_mem_cons.1 hcs
    rw [List.foldlM_cons] at hs
    obtain ⟨t, ht, hs⟩ := bind_eq_ok.1 hs
    exact ih (h.follow hc ht) hcs hs

/-- Every command keeps the points there are and adds some, but a move does so
only where nothing is drawn. -/
theorem IsProper.exists_adds (h : s.IsProper) (hs : s.follow f c = .ok s')
    (hmove : c.moves = true → s.points = #[]) : ∃ added, Adds s s' c added := by
  cases c with
  | move p =>
    obtain rfl := Except.ok.inj hs
    have hempty : s.points = #[] := hmove rfl
    refine ⟨[p], ?_, .inr ?_, fun _ => rfl⟩
    · simp [Assembly.add, points_flush, hempty]
    · simp [hempty]
  | line p =>
    obtain rfl := Except.ok.inj hs
    exact ⟨[p], by simp [Assembly.add], .inl ⟨p, rfl⟩, fun _ => rfl⟩
  | cubic c₁ c₂ p =>
    obtain ⟨polyline, -, rfl⟩ := follow_cubic hs
    obtain ⟨added, hadded, hnew⟩ := s.exists_foldl_addNew polyline
    refine ⟨added, hadded, .inr ?_, fun h => by cases h⟩
    rw [hnew]
    exact isChain_withoutRepeats _
  | close =>
    obtain rfl := Except.ok.inj hs
    rcases h.close_cases with ⟨hempty, hclose⟩ | ⟨first, last, -, hlast, ⟨-, hclose⟩ | ⟨hne, hclose⟩⟩
    · refine ⟨[], ?_, .inr ?_, fun h => by cases h⟩
      · simp [hclose]
      · simp [hempty]
    · refine ⟨[], ?_, .inr ?_, fun h => by cases h⟩
      · simp [hclose]
      · simp [hlast]
    · refine ⟨[first], ?_, .inr ?_, fun h => by cases h⟩
      · simp [hclose]
      · simp [hlast, hne]

end Assembly
end
end PlotDigitizer
