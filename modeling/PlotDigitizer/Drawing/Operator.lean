/-
The operators that shape paths. All others pass through a drawing untouched.
-/
import PlotDigitizer.Drawing.Opcode

namespace PlotDigitizer

/-- How a path is painted. -/
inductive Paint where
  | stroke
  | fill
  | fillStroke
  | evenOddFill
  | evenOddFillStroke
  /-- The drawing ended before the path was painted. -/
  | unknown
deriving Repr, DecidableEq

namespace Paint

def all : List Paint := [stroke, fill, fillStroke, evenOddFill, evenOddFillStroke, unknown]

def label : Paint → String
  | stroke => "stroke"
  | fill => "fill"
  | fillStroke => "fill-and-stroke"
  | evenOddFill => "even-odd-fill"
  | evenOddFillStroke => "even-odd-fill-and-stroke"
  | unknown => "unknown"

def ofLabel? (s : String) : Option Paint := all.find? (·.label == s)

end Paint

/-- The operators that add to the open path. -/
inductive PathOperator where
  | move
  | line
  | curve
  /-- A curve whose first control point is the pen. -/
  | curveFromPen
  /-- A curve whose second control point is its end. -/
  | curveToEnd
  | close
  | rectangle
deriving Repr, DecidableEq

namespace PathOperator

/-- How many coordinates the operator takes. -/
def arity : PathOperator → Nat
  | move | line => 2
  | curve => 6
  | curveFromPen | curveToEnd | rectangle => 4
  | close => 0

def ofOpcode? (o : Opcode) : Option PathOperator :=
  match o.code with
  | 13 => some move
  | 14 => some line
  | 15 => some curve
  | 16 => some curveFromPen
  | 17 => some curveToEnd
  | 18 => some close
  | 19 => some rectangle
  | _ => none

def ofValue? {α : Type} (v : Value α) : Option PathOperator :=
  (Opcode.ofValue? v).bind ofOpcode?

end PathOperator

inductive Operator where
  | save
  | restore
  | transform
  | path (op : PathOperator)
  /-- Several path operators with their coordinates in one list. -/
  | compound
  | paint (paint : Paint) (closes : Bool)
deriving Repr, DecidableEq

namespace Operator

def ofOpcode? (o : Opcode) : Option Operator :=
  match o.code with
  | 10 => some save
  | 11 => some restore
  | 12 => some transform
  | 20 => some (paint .stroke false)
  | 21 => some (paint .stroke true)
  | 22 => some (paint .fill false)
  | 23 => some (paint .evenOddFill false)
  | 24 => some (paint .fillStroke false)
  | 25 => some (paint .evenOddFillStroke false)
  | 26 => some (paint .fillStroke true)
  | 27 => some (paint .evenOddFillStroke true)
  | 91 => some compound
  | _ => (PathOperator.ofOpcode? o).map path

def ofValue? {α : Type} (v : Value α) : Option Operator :=
  (Opcode.ofValue? v).bind ofOpcode?

end Operator
end PlotDigitizer
