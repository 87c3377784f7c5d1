import PlotDigitizer.Proofs.Bezier.Deviation
import PlotDigitizer.Proofs.Bezier.Refinement
import PlotDigitizer.Proofs.Bezier.Reversal
import PlotDigitizer.Proofs.Bezier.Structure
import PlotDigitizer.Proofs.Calibration.Finite
import PlotDigitizer.Proofs.Calibration.LastEntry
import PlotDigitizer.Proofs.Chart
import PlotDigitizer.Proofs.Curve.Closing
import PlotDigitizer.Proofs.Curve.Outline
import PlotDigitizer.Proofs.Curve.Vertices
import PlotDigitizer.Proofs.Drawing.Brackets
import PlotDigitizer.Proofs.Drawing.Compound
import PlotDigitizer.Proofs.Drawing.History
import PlotDigitizer.Proofs.Drawing.Image
import PlotDigitizer.Proofs.Drawing.Leftover
import PlotDigitizer.Proofs.Drawing.Paths
import PlotDigitizer.Proofs.Drawing.Stopped
import PlotDigitizer.Proofs.Export.Decoded
import PlotDigitizer.Proofs.Export.Table
import PlotDigitizer.Proofs.Service.Answered
import PlotDigitizer.Proofs.Service.Sent
import PlotDigitizer.Proofs.Service.Settings
import PlotDigitizer.Proofs.Stage.Order
import PlotDigitizer.Proofs.Stage.Outcome
import PlotDigitizer.Service.Target
import PlotDigitizer.Stage.Entry
