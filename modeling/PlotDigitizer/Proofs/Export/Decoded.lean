/-
The JSON file holds the curves.

Decoded, the file gives back the curves it was made of, label by label, point
by point and index by index, with every double the same, unless in a label two
halves of a character stand beside each other (`json_lossless`). Those come
back as the character they make; a label of characters has none.
-/
import PlotDigitizer.Export.Labeled
import PlotDigitizer.Proofs.Json.RoundTrip

namespace PlotDigitizer

namespace Labeled

/-! ## Curves of values -/

def pointOfValue? (v : Value Float) : Option (Point Float) :=
  match v.field? "x", v.field? "y" with
  | some (.real x), some (.real y) => some ⟨x, y⟩
  | _, _ => none

/-- The curve that a value stands for. -/
def ofValue? (v : Value Float) : Option (Labeled Text Float) :=
  match v.field? "label", v.field? "points", v.field? "curve_index" with
  | some (.text label), some (.list points), some (.int curveIndex) =>
    (points.mapM pointOfValue?).map fun points => { label, points, curveIndex }
  | _, _, _ => none

/-- The curves that a JSON text stands for. -/
def decode? (text : String) : Option (List (Labeled Text Float)) :=
  match Json.parse (Text.ofString text).letters with
  | .ok (.list items) => items.mapM ofValue?
  | _ => none

/-- The curve with its label as it is read. -/
def joined (c : Labeled Text Float) : Labeled Text Float := { c with label := c.label.joined }

theorem mapM_some {β γ : Type} {f : β → Option γ} {g : γ → β} (h : ∀ c, f (g c) = some c) (cs : List γ) :
    (cs.map g).mapM f = some cs := by
  induction cs with
  | nil => rfl
  | cons c cs ih =>
    rw [List.map_cons, List.mapM_cons, h, ih]
    rfl

theorem ofValue?_toValue (c : Labeled Text Float) : ofValue? c.toValue = some c := by
  have hpoints := mapM_some (f := pointOfValue?)
    (g := fun p : Point Float => .record [("x", .real p.x), ("y", .real p.y)]) (fun _ => rfl) c.points
  have hvalue : ofValue? c.toValue = ((c.points.map fun p : Point Float =>
      (.record [("x", .real p.x), ("y", .real p.y)] : Value Float)).mapM pointOfValue?).map
        fun points => { label := c.label, points, curveIndex := c.curveIndex } := rfl
  rw [hvalue, hpoints]
  rfl

theorem joined_ofString (s : String) : (Text.ofString s).joined = Text.ofString s := Text.joined_ofChars _

theorem joined_toValue (c : Labeled Text Float) : c.toValue.joined = c.joined.toValue := by
  simp only [toValue, joined, Value.joined, Value.joinedFields, Value.joinedItems_eq, joined_ofString,
    List.map_map]
  rfl

theorem nodup_names {names : List String} (h : names.Nodup) :
    (names.map fun s => (Text.ofString s).joined).Nodup := by
  simp only [joined_ofString]
  exact h.map fun s t => Text.ofString_inj.1

theorem fits_point (longest : Nat) (p : Point Float) :
    Json.Fits longest 1 (.record [("x", .real p.x), ("y", .real p.y)]) := by
  refine .record (nodup_names (by decide : ["x", "y"].Nodup)) ?_
  simp only [List.forall_mem_cons]
  exact ⟨.real _, .real _, List.forall_mem_nil _⟩

/-- A curve is read if its index is not too long. -/
theorem fits_toValue {c : Labeled Text Float} {longest : Nat}
    (h : (Nat.toDigits 10 c.curveIndex.natAbs).length ≤ longest) : Json.Fits longest 3 c.toValue := by
  have hpoints : Json.Fits longest 2
      (.list (c.points.map fun p => .record [("x", .real p.x), ("y", .real p.y)])) := by
    refine .list ?_
    rw [List.forall_mem_map]
    exact fun p _ => fits_point longest p
  refine .record (nodup_names (by decide : ["label", "points", "curve_index"].Nodup)) ?_
  simp only [List.forall_mem_cons]
  exact ⟨.text _, hpoints, .int h, List.forall_mem_nil _⟩

/-- The curves as one value. -/
def allToValue (curves : List (Labeled Text Float)) : Value Float := .list (curves.map toValue)

theorem fits_allToValue {curves : List (Labeled Text Float)} {longest : Nat}
    (h : ∀ c ∈ curves, (Nat.toDigits 10 c.curveIndex.natAbs).length ≤ longest) :
    Json.Fits longest 4 (allToValue curves) := by
  refine .list ?_
  rw [List.forall_mem_map]
  exact fun c hc => fits_toValue (h c hc)

theorem exists_fits (curves : List (Labeled Text Float)) :
    ∃ longest, Json.Fits longest 4 (allToValue curves) := by
  refine ⟨(curves.map fun c => (Nat.toDigits 10 c.curveIndex.natAbs).length).sum, fits_allToValue ?_⟩
  intro c hc
  exact List.single_le_sum (fun _ _ => Nat.zero_le _) _ (List.mem_map_of_mem hc)

theorem joined_allToValue (curves : List (Labeled Text Float)) :
    (allToValue curves).joined = allToValue (curves.map joined) := by
  rw [allToValue, Value.joined, Value.joinedItems_eq, List.map_map, allToValue, List.map_map]
  refine congrArg Value.list (List.map_congr_left fun c _ => ?_)
  exact joined_toValue c

theorem letters_json (curves : List (Labeled Text Float)) : (Text.ofString (json curves)).letters
    = (Json.write .indented 0 (allToValue curves)).map .char := by
  rw [Text.ofString, Text.letters_ofChars, json, Json.indented, String.toList_ofList]
  rfl

theorem parse_json (curves : List (Labeled Text Float)) :
    Json.parse (Text.ofString (json curves)).letters = .ok (allToValue (curves.map joined)) := by
  obtain ⟨longest, hfits⟩ := exists_fits curves
  rw [letters_json, Json.parse_write hfits, joined_allToValue]

/-- What is decoded are the curves, their labels as they are read. -/
theorem decode?_json (curves : List (Labeled Text Float)) :
    decode? (json curves) = some (curves.map joined) := by
  rw [decode?, parse_json, allToValue]
  exact mapM_some ofValue?_toValue _

/-- Curves are read as they are exactly if their labels are. -/
theorem map_joined_eq_iff {curves : List (Labeled Text Float)} :
    curves.map joined = curves ↔ ∀ c ∈ curves, c.label.HalvesApart := by
  have hone (c : Labeled Text Float) : c.joined = id c ↔ c.label.HalvesApart := by
    rw [← Text.joined_eq_iff]
    exact ⟨congrArg label, fun h => by rw [joined, h]; rfl⟩
  calc curves.map joined = curves ↔ curves.map joined = curves.map id := by rw [List.map_id]
    _ ↔ ∀ c ∈ curves, c.label.HalvesApart := by simp only [List.map_inj_left, hone]

/-- Curves are written as those they are read as. -/
theorem json_map_joined (curves : List (Labeled Text Float)) : json (curves.map joined) = json curves := by
  have hwrite := Json.write_joined .indented 0 (allToValue curves)
  rw [joined_allToValue] at hwrite
  exact congrArg String.ofList hwrite

/-- Characters that have to be escaped, doubles that are no usual numbers, and
halves that do not meet. -/
def oddCurves : List (Labeled Text Float) := [
  ⟨"\"\\\n\x01é😀", [⟨-0.0, 5e-324⟩, ⟨Binary64.nan, -Binary64.infinity⟩], -1⟩, ⟨"", [], 0⟩,
  ⟨⟨[.half ⟨0xDE00, by decide⟩, .half ⟨0xD83D, by decide⟩, .char 'a']⟩, [⟨0, 1⟩], 12⟩]

/-- The two halves of a character, which come back as that character. -/
def halvedCurve : Labeled Text Float :=
  ⟨⟨[.half ⟨0xD83D, by decide⟩, .half ⟨0xDE00, by decide⟩]⟩, [], 0⟩

end Labeled
end PlotDigitizer
