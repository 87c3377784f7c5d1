/-
A drawing's paths hold all of its commands, each once and in order.

The paths that are extracted are those that the marks of the stream are
divided into (`extractPaths_divides_marks`). With that come the facts about
them that a reader of paths relies on: their commands are the commands drawn,
none of them is empty, and only the last one can lack a paint. An operator
that shapes no path can be left out of a stream.
-/
import PlotDigitizer.Number.Double
import PlotDigitizer.Proofs.Drawing.Refinement

namespace PlotDigitizer

variable {α : Type}

/-! ## Divided marks -/

theorem Divided.commands_eq {ms : List (Mark α)} {paths : List (Path α)} (h : Divided ms paths) :
    paths.flatMap (·.commands) = Mark.commands ms := by
  induction h with
  | nil => rfl
  | idle _ ih => exact ih
  | painted _ _ ih =>
    rw [Mark.commands_append, Mark.commands_map_command, List.flatMap_cons, ih]
    rfl
  | unpainted _ => simp

theorem Divided.commands_ne_nil {ms : List (Mark α)} {paths : List (Path α)} (h : Divided ms paths) :
    ∀ p ∈ paths, p.commands ≠ [] := by
  induction h with
  | nil => simp
  | idle _ ih => exact ih
  | painted hcs _ ih => simpa using ⟨hcs, ih⟩
  | unpainted hcs => simpa using hcs

theorem Mark.unpainted_append_paint_cons (ms ns : List (Mark α)) (p : Paint) :
    unpainted (ms ++ paint p :: ns) = unpainted ns := by
  simp [unpainted]

/-- A path lacks a paint exactly if commands remain that no paint follows, and
then it is the last. -/
theorem Divided.unknown_iff {ms : List (Mark α)} {paths : List (Path α)} (h : Divided ms paths)
    (hms : ∀ p, Mark.paint p ∈ ms → p ≠ .unknown) :
    (∀ p ∈ paths.dropLast, p.paint ≠ .unknown) ∧
      (paths.getLast?.map (·.paint) = some .unknown ↔ Mark.unpainted ms ≠ []) := by
  induction h with
  | nil => simp
  | @idle p ms paths _ ih =>
    have hu := Mark.unpainted_append_paint_cons [] ms p
    rw [List.nil_append] at hu
    rw [hu]
    exact ih fun q hq => hms q (List.mem_cons_of_mem _ hq)
  | @painted cs p ms paths _ _ ih =>
    rw [Mark.unpainted_append_paint_cons]
    have hp : p ≠ .unknown := hms p (by simp)
    obtain ⟨hd, hl⟩ := ih fun q hq => hms q (by simp [hq])
    cases paths with
    | nil => simpa [hp] using hl
    | cons q qs =>
      have := And.intro hd hl
      simpa [hp] using this
  | @unpainted cs hcs =>
    have hu := Mark.unpainted_append_commands [] cs
    simp only [List.nil_append, Mark.unpainted_nil] at hu
    simp [hu, hcs]

/-! ## The paints of a stream -/

/-- No operator paints with the paint of what is left unpainted. -/
theorem Operator.paint_ne_unknown {v : Value α} {p : Paint} {closes : Bool}
    (h : Operator.ofValue? v = some (.paint p closes)) : p ≠ .unknown := by
  simp only [ofValue?, Option.bind_eq_some_iff] at h
  obtain ⟨o, -, h⟩ := h
  unfold ofOpcode? at h
  split at h <;> simp at h <;> obtain ⟨rfl, -⟩ := h <;> decide

section
variable [Zero α] [Add α] [Mul α] [Reading α]

theorem Operator.Logs.paint_ne_unknown {args : Value α} {op : Operator} {l m : Log α}
    (h : op.Logs args l m) (hop : ∀ p closes, op = .paint p closes → p ≠ .unknown)
    (hl : ∀ p, Mark.paint p ∈ l.marks → p ≠ .unknown) :
    ∀ p, Mark.paint p ∈ m.marks → p ≠ .unknown := by
  cases h with
  | save | restore | restoreNone | transform => exact hl
  | path | compound => simpa [Log.draw] using hl
  | paint | paintClosed | paintNone =>
    intro p hp
    simp only [Log.paint, Log.draw, List.mem_append, List.mem_map, List.mem_singleton, reduceCtorEq,
      and_false, exists_false, or_false, Mark.paint.injEq] at hp
    rcases hp with hp | rfl
    · exact hl p hp
    · exact hop _ _ rfl

theorem Tells.paint_ne_unknown {items : List (Value α)} {l m : Log α} (h : Tells items l m)
    (hl : ∀ p, Mark.paint p ∈ l.marks → p ≠ .unknown) :
    ∀ p, Mark.paint p ∈ m.marks → p ≠ .unknown := by
  induction h with
  | nil => exact hl
  | skip _ _ _ ih => exact ih hl
  | step _ hop hk _ ih =>
    exact ih (hk.paint_ne_unknown (fun p closes he => Operator.paint_ne_unknown (he ▸ hop)) hl)

/-! ## Idle operators -/

/-- An entry of a stream whose operator shapes no path. -/
def Value.isIdle (item : Value α) : Bool :=
  match item.unpack.bind Value.two with
  | .ok (opcode, _) => (Operator.ofValue? opcode).isNone
  | .error _ => false

theorem processAll_isIdle {item : Value α} (h : item.isIdle = true) (items : List (Value α))
    (s : Canvas α) : Canvas.processAll (item :: items) s = Canvas.processAll items s := by
  unfold Value.isIdle at h
  split at h
  · rename_i opcode args hitem
    rw [Option.isNone_iff_eq_none] at h
    simp [Canvas.processAll, hitem, Canvas.process, h]
  · simp at h

theorem processAll_filter (items : List (Value α)) (s : Canvas α) :
    Canvas.processAll (items.filter fun i => !i.isIdle) s = Canvas.processAll items s := by
  induction items generalizing s with
  | nil => rfl
  | cons item items ih =>
    by_cases h : item.isIdle = true
    · rw [List.filter_cons_of_neg (by simp [h]), ih, processAll_isIdle h]
    · rw [List.filter_cons_of_pos (by simp [h])]
      simp only [Canvas.processAll, ih]

variable [One α]

/-- **No command is lost or repeated.** A stream is replayed into exactly the
paths that its marks are divided into. The commands of these paths, one after
another, are all commands of the marks; no path is empty; only the last can
lack a paint, and does exactly if commands remain that no paint follows. Left
out of the stream, the operators that shape no path are not missed. -/
theorem extractPaths_divides_marks (stream : Value α) :
    (∀ paths, extractPaths stream = .ok paths ↔
      ∃ marks, stream.Draws marks ∧ Divided marks paths) ∧
    (∀ marks paths, stream.Draws marks → Divided marks paths →
      paths.flatMap (·.commands) = Mark.commands marks ∧
      (∀ p ∈ paths, p.commands ≠ []) ∧
      (∀ p ∈ paths.dropLast, p.paint ≠ .unknown) ∧
      (paths.getLast?.map (·.paint) = some .unknown ↔ Mark.unpainted marks ≠ [])) ∧
    (∀ items, stream.iterate = .ok items →
      extractPaths (.list (items.filter fun i => !i.isIdle)) = extractPaths stream) := by
  refine ⟨fun paths => extractPaths_eq_ok, ?_, ?_⟩
  · intro marks paths h hd
    obtain ⟨items, l, -, hl, rfl⟩ := h
    have hms := hl.paint_ne_unknown (by simp [Log.empty])
    exact ⟨hd.commands_eq, hd.commands_ne_nil, hd.unknown_iff hms⟩
  · intro items hi
    have hf : (Value.list (items.filter fun i => !i.isIdle)).iterate = .ok _ := rfl
    simp only [extractPaths, Canvas.replay, hi, hf, processAll_filter]

end

/-- A path under a map that is restored, an operator that shapes none, a
rectangle, a compound operator, paints that find no command, and commands that
none follows. -/
def mixedStream : List (Value Float) := [
  .numbered "S" [], .numbered "q" [], .numbered "cm" [2, 0, 0, 2, 10, 20],
  .numbered "m" [0, 0], .numbered "l" [1, 0], .numbered "c" [1, 1, 2, 1, 2, 0],
  .numbered "v" [3, 1, 3, 0], .numbered "y" [4, 1, 4, 0], .numbered "w" [3], .numbered "s" [],
  .numbered "Q" [], .numbered "re" [1, 2, 3, 4], .numbered "f" [],
  .list [.int 91, .list [.list [.int 13, .int 14, .int 18], .list [.int 5, .int 6, .int 7, .int 8]]],
  .numbered "S" [], .numbered "s" [], .numbered "m" [9, 9], .numbered "l" [8, 9]]

def mixedPaths : List (Path Float) := [
  ⟨[.move ⟨10, 20⟩, .line ⟨12, 20⟩, .cubic ⟨12, 22⟩ ⟨14, 22⟩ ⟨14, 20⟩,
    .cubic ⟨14, 20⟩ ⟨16, 22⟩ ⟨16, 20⟩, .cubic ⟨18, 22⟩ ⟨18, 20⟩ ⟨18, 20⟩, .close], .stroke⟩,
  ⟨[.move ⟨1, 2⟩, .line ⟨4, 2⟩, .line ⟨4, 6⟩, .line ⟨1, 6⟩, .close], .fill⟩,
  ⟨[.move ⟨5, 6⟩, .line ⟨7, 8⟩, .close], .stroke⟩,
  ⟨[.move ⟨9, 9⟩, .line ⟨8, 9⟩], .unknown⟩]

theorem mixedStream_divides_marks :
    extractPaths (.list mixedStream) = .ok mixedPaths ∧
    (∃ marks, (Value.list mixedStream).Draws marks ∧ Divided marks mixedPaths ∧
      Mark.commands marks = mixedPaths.flatMap (·.commands) ∧ Mark.unpainted marks ≠ []) ∧
    (mixedStream.filter fun i => !i.isIdle).length = 17 ∧
    extractPaths (.list (mixedStream.filter fun i => !i.isIdle)) = .ok mixedPaths := by
  obtain ⟨hdivided, hfacts, hidle⟩ := extractPaths_divides_marks (.list mixedStream)
  have hpaths : extractPaths (.list mixedStream) = .ok mixedPaths :=
    toOption_eq_some.1 (by decide +kernel)
  obtain ⟨marks, hdraws, hmarks⟩ := (hdivided mixedPaths).1 hpaths
  obtain ⟨hcommands, -, -, hunknown⟩ := hfacts marks mixedPaths hdraws hmarks
  exact ⟨hpaths, ⟨marks, hdraws, hmarks, hcommands.symm, hunknown.1 rfl⟩, by decide,
    (hidle mixedStream rfl).trans hpaths⟩

end PlotDigitizer
