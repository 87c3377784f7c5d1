/-
Doubles as the scalars the program runs at.
-/
import PlotDigitizer.Scalar
import PlotDigitizer.Number.Length
import PlotDigitizer.Number.Numeral

namespace PlotDigitizer

instance : Euclidean Float where
  abs := Float.abs
  sqrt := Float.sqrt
  hypot := Binary64.hypot

instance : Reading Float where
  ofInt? := Binary64.ofInt?
  ofText? := Numeral.double?
  isFinite := Binary64.isFinite
  undefined := Binary64.nan

end PlotDigitizer
