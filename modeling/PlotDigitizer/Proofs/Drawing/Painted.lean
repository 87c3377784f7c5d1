/-
Closing a path and painting it.

An open path may be closed and then painted, or painted by an operator that closes
it, or both (`Canvas.ClosesAndPaints`). All of it leaves one canvas but for the
commands of the path, since closing again leaves the pen where it is. So the rest
of the stream is stopped alike (`Canvas.stopped_of_sameMaps`), and it adds the same
paths (`Canvas.added_of_hand_eq`).
-/
import PlotDigitizer.Proofs.Drawing.Leftover
import PlotDigitizer.Proofs.Drawing.Stopped

namespace PlotDigitizer

variable {α : Type}

/-! ## Painted canvases -/

namespace Canvas
variable {s t : Canvas α}

/-- A canvas that some more commands are drawn on before it is painted. -/
def ended (s : Canvas α) (cs : List (Command α)) (p : Paint) : Canvas α := (cs.foldl .emit s).paint p

theorem sameMaps_ended (s : Canvas α) (cs ds : List (Command α)) (p q : Paint) :
    SameMaps (s.ended cs p) (s.ended ds q) where
  ctm := by rw [ended, ended, paint_ctm, paint_ctm, (keeps_foldl_emit cs s).ctm, (keeps_foldl_emit ds s).ctm]
  saved := by
    rw [ended, ended, paint_saved, paint_saved, (keeps_foldl_emit cs s).saved,
      (keeps_foldl_emit ds s).saved]
  size := by rw [ended, ended, paint_current, paint_current]

theorem paths_ended (h : s.current ≠ #[]) (cs : List (Command α)) (p : Paint) :
    (s.ended cs p).paths.toList = s.paths.toList ++ [⟨s.current.toList ++ cs, p⟩] := by
  have hcurrent := current_foldl_emit cs s
  have hopen : (cs.foldl Canvas.emit s).current.isEmpty = false := by
    rw [← Array.isEmpty_toList, hcurrent]
    simp [h]
  rw [ended, paint, hopen, ← hcurrent, (keeps_foldl_emit cs s).paths.symm]
  simp

/-- Closing again leaves the pen where it is. -/
theorem follow_close_replicate (p : Pen α) (n : Nat) :
    (List.replicate (n + 1) .close).foldl Pen.follow p = p.follow .close := by
  have hagain : (p.follow .close).follow .close = p.follow .close := by
    simp only [Pen.follow]
    cases p.start <;> rfl
  induction n with
  | zero => rfl
  | succ n ih => rw [List.replicate_succ', List.foldl_append, ih, List.foldl_cons, hagain, List.foldl_nil]

theorem hand_foldl_emit (cs : List (Command α)) (s : Canvas α) :
    (cs.foldl .emit s).hand = cs.foldl Pen.follow s.hand := by
  induction cs generalizing s with
  | nil => rfl
  | cons c cs ih => rw [List.foldl_cons, List.foldl_cons, ih, hand_emit]

theorem hand_ended (s : Canvas α) (cs : List (Command α)) (p : Paint) :
    (s.ended cs p).hand = cs.foldl Pen.follow s.hand := by
  rw [← hand_foldl_emit]
  simp [ended, hand]

end Canvas

/-! ## Ways to paint -/

section
variable [Zero α] [Add α] [Mul α] [Reading α]

/-- The operator that an item of a stream spells, if it spells one. -/
def Value.operator? (item : Value α) : Option Operator :=
  (item.unpack.bind Value.two).toOption.bind fun q => Operator.ofValue? q.1

namespace Canvas
variable {item : Value α} {s t : Canvas α}

/-- A paint, with closing before it or without. -/
inductive Paints : List (Value α) → Prop
  | alone {item : Value α} {p : Paint} {closes : Bool} : item.operator? = some (.paint p closes) →
      Paints [item]
  | closed {close item : Value α} {p : Paint} {closes : Bool} : close.operator? = some (.path .close) →
      item.operator? = some (.paint p closes) → Paints [close, item]

/-- The ways to close the open path and to paint it: to do one after the other, to
paint it by an operator that closes it, and to do both. -/
inductive ClosesAndPaints (p : Paint) : List (Value α) → Prop
  | apart {close plain : Value α} : close.operator? = some (.path .close) →
      plain.operator? = some (.paint p false) → ClosesAndPaints p [close, plain]
  | atOnce {closing : Value α} : closing.operator? = some (.paint p true) → ClosesAndPaints p [closing]
  | both {close closing : Value α} : close.operator? = some (.path .close) →
      closing.operator? = some (.paint p true) → ClosesAndPaints p [close, closing]

theorem processAll_append (before after : List (Value α)) (s : Canvas α) :
    processAll (before ++ after) s = match processAll before s with
      | (t, some e) => (t, some e)
      | (t, none) => processAll after t := by
  induction before generalizing s with
  | nil => rfl
  | cons item before ih =>
    simp only [List.cons_append, processAll]
    cases item.unpack.bind Value.two with
    | error e => rfl
    | ok pair =>
      dsimp only
      rcases s.process pair.1 pair.2 with ⟨t, _ | e⟩
      · exact ih t
      · rfl

theorem processAll_operator {op : Operator} (h : item.operator? = some op) (items : List (Value α))
    (s : Canvas α) : ∃ args, processAll (item :: items) s = match s.apply args op with
      | (t, some e) => (t, some e)
      | (t, none) => processAll items t := by
  obtain ⟨pair, hpair, hop⟩ := Option.bind_eq_some_iff.1 h
  refine ⟨pair.2, ?_⟩
  obtain ⟨t, e, happly⟩ : ∃ t e, s.apply pair.2 op = (t, e) := ⟨_, _, rfl⟩
  have hprocess : s.process pair.1 pair.2 = (t, e) := by rw [process, hop, ← happly]
  rw [happly]
  cases e with
  | none => simp only [processAll, toOption_eq_some.1 hpair, hprocess]
  | some e => simp only [processAll, toOption_eq_some.1 hpair, hprocess]

theorem processAll_close (h : item.operator? = some (.path .close)) (items : List (Value α))
    (s : Canvas α) : processAll (item :: items) s = processAll items (s.emit .close) := by
  obtain ⟨args, hargs⟩ := processAll_operator h items s
  exact hargs

theorem processAll_paint {p : Paint} {closes : Bool} (h : item.operator? = some (.paint p closes))
    (items : List (Value α)) (hs : s.current ≠ #[]) :
    processAll (item :: items) s = processAll items (s.ended (if closes then [.close] else []) p) := by
  obtain ⟨args, hargs⟩ := processAll_operator h items s
  rw [hargs]
  cases closes with
  | false => rfl
  | true => simp [apply, ended, hs]

/-! ## The rest of a stream -/

/-- Whatever the paths and the pens, the same operator is stopped. -/
theorem stopped_of_sameMaps (h : SameMaps s t) (items : List (Value α)) :
    (processAll items s).2 = (processAll items t).2 := by
  rw [processAll_eq_outcome, processAll_eq_outcome]
  exact (sideBySide_sameMaps.trace h (throughout_true _ _)).2

/-- If the pens are at one place, whatever is drawn is drawn alike. -/
theorem added_of_hand_eq (h : SameMaps s t) (hcurrent : s.current = t.current) (hhand : s.hand = t.hand)
    (items : List (Value α)) : s.added items = t.added items := by
  refine added_of_trace_eq hcurrent ((trace_eq_iff h items).2 fun before c rest _ => ?_)
  have hafter : (s.after before).hand = (t.after before).hand := by
    rw [hand_after, hand_after, hhand]
  have hpen : (s.after before).pen = (t.after before).pen := congrArg Pen.point hafter
  rw [hpen]

/-! ## What is painted -/

theorem Paints.exists_ended {mid : List (Value α)} (h : Paints mid) (hopen : s.current ≠ #[])
    (after : List (Value α)) :
    ∃ cs p, processAll (mid ++ after) s = processAll after (s.ended cs p) := by
  cases h with
  | @alone item p closes hitem =>
    exact ⟨if closes then [.close] else [], p, processAll_paint hitem after hopen⟩
  | @closed close item p closes hclose hitem =>
    refine ⟨.close :: if closes then [.close] else [], p, ?_⟩
    rw [List.cons_append, processAll_close hclose]
    exact processAll_paint hitem after (by simp)

/-- Every way to close and to paint closes once or more. -/
theorem ClosesAndPaints.exists_ended {mid : List (Value α)} {p : Paint} (h : ClosesAndPaints p mid)
    (hopen : s.current ≠ #[]) (after : List (Value α)) :
    ∃ n, processAll (mid ++ after) s
      = processAll after (s.ended (List.replicate (n + 1) .close) p) := by
  have hclosed : (s.emit .close).current ≠ #[] := by simp
  cases h with
  | apart hclose hplain =>
    refine ⟨0, ?_⟩
    rw [List.cons_append, processAll_close hclose, List.cons_append, processAll_paint hplain _ hclosed]
    rfl
  | atOnce hclosing =>
    refine ⟨0, ?_⟩
    rw [List.cons_append, processAll_paint hclosing _ hopen]
    rfl
  | both hclose hclosing =>
    refine ⟨1, ?_⟩
    rw [List.cons_append, processAll_close hclose, List.cons_append, processAll_paint hclosing _ hclosed]
    rfl

variable [One α]

/-! ## Whole streams -/

theorem extractPaths_of_processAll {stream : Value α} {items after : List (Value α)}
    (h : stream.iterate = .ok items) (hrun : processAll items .empty = processAll after s)
    (hnone : (processAll after s).2 = none) :
    extractPaths stream = .ok (s.paths.toList ++ s.added after) := by
  rw [← paths_finish, extractPaths, replay, h]
  dsimp only
  rw [hrun]
  obtain ⟨t, e, ht⟩ : ∃ t e, processAll after s = (t, e) := ⟨_, _, rfl⟩
  rw [ht] at hnone ⊢
  obtain rfl : e = none := hnone
  rfl

/-- A stream that is not stopped, and in it a paint that finds a path open. -/
structure PaintsBetween (stream : Value α) (before after : List (Value α)) : Prop where
  items : ∃ mid, stream.iterate = .ok (before ++ mid ++ after) ∧ Paints mid
  passes : ∃ paths, extractPaths stream = .ok paths
  isOpen : (processAll before .empty).1.current ≠ #[]

theorem processAll_of_extractPaths {stream : Value α} {items : List (Value α)} {paths : List (Path α)}
    (h : stream.iterate = .ok items) (hok : extractPaths stream = .ok paths) :
    (processAll items .empty).2 = none := by
  rw [extractPaths, replay, h] at hok
  obtain ⟨t, e, ht⟩ : ∃ t e, processAll items .empty = (t, e) := ⟨_, _, rfl⟩
  dsimp only at hok
  rw [ht] at hok ⊢
  cases e with
  | none => rfl
  | some e => cases hok

/-- Neither what is before the paint is stopped, nor what is after it. -/
theorem PaintsBetween.exists_rest {stream : Value α} {before after : List (Value α)}
    (h : PaintsBetween stream before after) : ∃ s : Canvas α, processAll before .empty = (s, none) ∧
      s.current ≠ #[] ∧ ∃ ds q, (processAll after (s.ended ds q)).2 = none := by
  obtain ⟨⟨mid, hitems, hmid⟩, ⟨paths, hok⟩, hopen⟩ := h
  have hnone := processAll_of_extractPaths hitems hok
  rw [List.append_assoc, processAll_append] at hnone
  obtain ⟨s, e, hs⟩ : ∃ s e, processAll before .empty = (s, e) := ⟨_, _, rfl⟩
  rw [hs] at hnone hopen
  cases e with
  | some e => cases hnone
  | none =>
    have hrest : (processAll (mid ++ after) s).2 = none := hnone
    obtain ⟨ds, q, hended⟩ := hmid.exists_ended hopen after
    rw [hended] at hrest
    exact ⟨s, hs, hopen, ds, q, hrest⟩

/-- What comes of a stream in which commands are drawn and the path that is open is
painted, if some way to paint it there is not stopped. -/
theorem extractPaths_ended {before after mid : List (Value α)} {cs ds : List (Command α)} {p q : Paint}
    (hs : processAll before .empty = (s, none)) (hopen : s.current ≠ #[])
    (hmid : processAll (mid ++ after) s = processAll after (s.ended cs p))
    (hnone : (processAll after (s.ended ds q)).2 = none) :
    extractPaths (.list (before ++ mid ++ after))
      = .ok (s.paths.toList ++ ⟨s.current.toList ++ cs, p⟩ :: (s.ended cs p).added after) := by
  have hrun : processAll (before ++ mid ++ after) .empty = processAll after (s.ended cs p) := by
    rw [List.append_assoc, processAll_append, hs]
    exact hmid
  have hnone' : (processAll after (s.ended cs p)).2 = none := by
    rw [stopped_of_sameMaps (sameMaps_ended s cs ds p q), hnone]
  rw [extractPaths_of_processAll rfl hrun hnone', paths_ended hopen]
  simp

end Canvas
end

end PlotDigitizer
