/-
Operator codes of a page's drawing.

An operator is spelled by its code, by its name, or by its mnemonic in the
page's content. Names are read without regard to case and underscores, so
`curveTo2` and `CURVE_TO_2` are one name; mnemonics are exact, and a text that
is a mnemonic is never taken for a name.
-/
import PlotDigitizer.Value

namespace PlotDigitizer

structure Opcode where
  code : Nat
  name : String
deriving Repr, DecidableEq

namespace Opcode

/-- All operators, by ascending code. -/
def all : List Opcode := [
  ⟨1, "DEPENDENCY"⟩, ⟨2, "SET_LINE_WIDTH"⟩, ⟨3, "SET_LINE_CAP"⟩, ⟨4, "SET_LINE_JOIN"⟩,
  ⟨5, "SET_MITER_LIMIT"⟩, ⟨6, "SET_DASH"⟩, ⟨7, "SET_RENDERING_INTENT"⟩, ⟨8, "SET_FLATNESS"⟩,
  ⟨9, "SET_GSTATE"⟩, ⟨10, "SAVE"⟩, ⟨11, "RESTORE"⟩, ⟨12, "TRANSFORM"⟩, ⟨13, "MOVE_TO"⟩,
  ⟨14, "LINE_TO"⟩, ⟨15, "CURVE_TO"⟩, ⟨16, "CURVE_TO2"⟩, ⟨17, "CURVE_TO3"⟩, ⟨18, "CLOSE_PATH"⟩,
  ⟨19, "RECTANGLE"⟩, ⟨20, "STROKE"⟩, ⟨21, "CLOSE_STROKE"⟩, ⟨22, "FILL"⟩, ⟨23, "EO_FILL"⟩,
  ⟨24, "FILL_STROKE"⟩, ⟨25, "EO_FILL_STROKE"⟩, ⟨26, "CLOSE_FILL_STROKE"⟩,
  ⟨27, "CLOSE_EO_FILL_STROKE"⟩, ⟨28, "END_PATH"⟩, ⟨29, "CLIP"⟩, ⟨30, "EO_CLIP"⟩,
  ⟨31, "BEGIN_TEXT"⟩, ⟨32, "END_TEXT"⟩, ⟨33, "SET_CHAR_SPACING"⟩, ⟨34, "SET_WORD_SPACING"⟩,
  ⟨35, "SET_H_SCALE"⟩, ⟨36, "SET_LEADING"⟩, ⟨37, "SET_FONT"⟩, ⟨38, "SET_TEXT_RENDERING_MODE"⟩,
  ⟨39, "SET_TEXT_RISE"⟩, ⟨40, "MOVE_TEXT"⟩, ⟨41, "SET_LEADING_MOVE_TEXT"⟩, ⟨42, "SET_TEXT_MATRIX"⟩,
  ⟨43, "NEXT_LINE"⟩, ⟨44, "SHOW_TEXT"⟩, ⟨45, "SHOW_SPACED_TEXT"⟩, ⟨46, "NEXT_LINE_SHOW_TEXT"⟩,
  ⟨47, "NEXT_LINE_SET_SPACING_SHOW_TEXT"⟩, ⟨48, "SET_CHAR_WIDTH"⟩,
  ⟨49, "SET_CHAR_WIDTH_AND_BOUNDS"⟩, ⟨50, "SET_STROKE_COLOR_SPACE"⟩, ⟨51, "SET_FILL_COLOR_SPACE"⟩,
  ⟨52, "SET_STROKE_COLOR"⟩, ⟨53, "SET_STROKE_COLOR_N"⟩, ⟨54, "SET_FILL_COLOR"⟩,
  ⟨55, "SET_FILL_COLOR_N"⟩, ⟨56, "SET_STROKE_GRAY"⟩, ⟨57, "SET_FILL_GRAY"⟩,
  ⟨58, "SET_STROKE_RGB_COLOR"⟩, ⟨59, "SET_FILL_RGB_COLOR"⟩, ⟨60, "SET_STROKE_CMYK_COLOR"⟩,
  ⟨61, "SET_FILL_CMYK_COLOR"⟩, ⟨62, "SHADING_FILL"⟩, ⟨63, "BEGIN_INLINE_IMAGE"⟩,
  ⟨64, "BEGIN_IMAGE_DATA"⟩, ⟨65, "END_INLINE_IMAGE"⟩, ⟨66, "PAINT_X_OBJECT"⟩, ⟨67, "MARK_POINT"⟩,
  ⟨68, "MARK_POINT_PROPS"⟩, ⟨69, "BEGIN_MARKED_CONTENT"⟩, ⟨70, "BEGIN_MARKED_CONTENT_PROPS"⟩,
  ⟨71, "END_MARKED_CONTENT"⟩, ⟨72, "BEGIN_COMPAT"⟩, ⟨73, "END_COMPAT"⟩,
  ⟨74, "PAINT_FORM_X_OBJECT_BEGIN"⟩, ⟨75, "PAINT_FORM_X_OBJECT_END"⟩, ⟨76, "BEGIN_GROUP"⟩,
  ⟨77, "END_GROUP"⟩, ⟨80, "BEGIN_ANNOTATION"⟩, ⟨81, "END_ANNOTATION"⟩,
  ⟨83, "PAINT_IMAGE_MASK_X_OBJECT"⟩, ⟨84, "PAINT_IMAGE_MASK_X_OBJECT_GROUP"⟩,
  ⟨85, "PAINT_IMAGE_X_OBJECT"⟩, ⟨86, "PAINT_INLINE_IMAGE_X_OBJECT"⟩,
  ⟨87, "PAINT_INLINE_IMAGE_X_OBJECT_GROUP"⟩, ⟨88, "PAINT_IMAGE_X_OBJECT_REPEAT"⟩,
  ⟨89, "PAINT_IMAGE_MASK_X_OBJECT_REPEAT"⟩, ⟨90, "PAINT_SOLID_COLOR_IMAGE_MASK"⟩,
  ⟨91, "CONSTRUCT_PATH"⟩, ⟨92, "SET_STROKE_TRANSPARENT"⟩, ⟨93, "SET_FILL_TRANSPARENT"⟩]

/-- The mnemonics and the codes they stand for. -/
def mnemonics : List (String × Nat) := [
  ("w", 2), ("J", 3), ("j", 4), ("M", 5), ("d", 6), ("ri", 7), ("i", 8), ("gs", 9), ("q", 10),
  ("Q", 11), ("cm", 12), ("m", 13), ("l", 14), ("c", 15), ("v", 16), ("y", 17), ("h", 18),
  ("re", 19), ("S", 20), ("s", 21), ("f", 22), ("F", 22), ("f*", 23), ("B", 24), ("B*", 25),
  ("b", 26), ("b*", 27), ("n", 28), ("W", 29), ("W*", 30), ("BT", 31), ("ET", 32), ("Tf", 37),
  ("Td", 40), ("TD", 41), ("Tm", 42), ("T*", 43), ("Tj", 44), ("TJ", 45), ("CS", 50), ("cs", 51),
  ("G", 56), ("g", 57), ("RG", 58), ("rg", 59), ("K", 60), ("k", 61), ("sh", 62), ("Do", 66),
  ("MP", 67), ("DP", 68), ("BMC", 69), ("BDC", 70), ("EMC", 71), ("BX", 72), ("EX", 73)]

/-- The lower-case form of a character in a name. Of the characters beyond
ASCII only the sign for kelvin has an ASCII one. -/
def lower (c : Char) : Char := if c == '\u212A' then 'k' else c.toLower

/-- What counts of a name: its characters but the underscores, in lower
case. -/
def key (name : String) : List Char := (name.toList.filter (· != '_')).map lower

def ofCode? (code : Int) : Option Opcode := all.find? fun o => (o.code : Int) == code

def keyed : List (List Char × Opcode) := all.map fun o => (key o.name, o)

def ofText? (s : String) : Option Opcode :=
  match mnemonics.lookup s with
  | some code => ofCode? code
  | none => keyed.lookup (key s)

/-- The operator that a value spells. A truth value or a scalar spells none,
whatever number it equals. -/
def ofValue? {α : Type} : Value α → Option Opcode
  | .int n => ofCode? n
  | .text t => t.toString?.bind ofText?
  | _ => none

end Opcode
end PlotDigitizer
