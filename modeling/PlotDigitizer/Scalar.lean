/-
The numbers that drawings, curves and calibrations are made of.

Everything geometric in this library is written once for a scalar type `α`.
The program runs it at `Float`; theorems about exact arithmetic read the same
definitions at the rationals, the reals or any commutative ring. Sums,
products, quotients, order and equality come from the ordinary classes
(`Add`, `Mul`, `LT`, `BEq`, …); the two classes here add what has no ordinary
class: lengths in the plane, and the way raw input becomes a number.

Neither class has laws. What a theorem needs of an operation is a hypothesis
of that theorem.
-/
namespace PlotDigitizer

/-- Lengths: absolute value, square root, and the length of a vector given by
its two components. -/
class Euclidean (α : Type) where
  abs : α → α
  sqrt : α → α
  hypot : α → α → α

/-- How raw input is read as a scalar. -/
class Reading (α : Type) where
  /-- The scalar nearest to a whole number; `none` if the number is beyond
  every scalar. -/
  ofInt? : Int → Option α
  /-- The scalar that a numeral stands for; `none` if the text is no numeral. -/
  ofText? : String → Option α
  /-- Whether the scalar is a number proper, neither infinite nor undefined. -/
  isFinite : α → Bool
  /-- The undefined scalar, read from a missing coordinate. -/
  undefined : α

/-- A scalar that differs from itself stands for no number. -/
@[inline] def isUndefined {α : Type} [BEq α] (x : α) : Bool := !(x == x)

end PlotDigitizer
