import DriverDesk.Host.Memory
import DriverDesk.Main
import DriverDesk.Proofs.Bench
import DriverDesk.Proofs.Postfix
import DriverDesk.Proofs.Calibrated
import DriverDesk.Proofs.Framed
import DriverDesk.Proofs.Plan
import DriverDesk.Proofs.StateOrder
import DriverDesk.Proofs.Run
import DriverDesk.Proofs.Commit
import DriverDesk.Proofs.Stopping
import DriverDesk.Proofs.Sheets
import DriverDesk.Proofs.Materials
import DriverDesk.Proofs.Dressing
import DriverDesk.Proofs.Headers
import DriverDesk.Proofs.Handles
import DriverDesk.Proofs.CleanLines
import DriverDesk.Proofs.Rendering
import DriverDesk.Proofs.Moving
import DriverDesk.Proofs.MovedRecords
import DriverDesk.Proofs.MovedInstruments
import DriverDesk.Proofs.MovedPlans
import DriverDesk.Proofs.Agreement
import DriverDesk.Proofs.Insertion
import DriverDesk.Proofs.Exact
import DriverDesk.Proofs.Projection
import DriverDesk.Proofs.Evaluation
import DriverDesk.Proofs.Dials
import DriverDesk.Proofs.Yields
import DriverDesk.Proofs.Readings
import DriverDesk.Proofs.Gauges
import DriverDesk.Proofs.Complaints
import DriverDesk.Proofs.Places
import DriverDesk.Proofs.Reported
import DriverDesk.Proofs.Diagnosed
import DriverDesk.Proofs.Alike
import DriverDesk.Proofs.Merging
import DriverDesk.Proofs.Sound
import DriverDesk.Proofs.Pieces
import DriverDesk.Proofs.CalibratedPieces
import DriverDesk.Proofs.LastRecords
import DriverDesk.Proofs.FramedPieces
import DriverDesk.Proofs.Accounted
import DriverDesk.Proofs.Paths
import DriverDesk.Proofs.References
import DriverDesk.Proofs.Registry
import DriverDesk.Proofs.DoubleParts
import DriverDesk.Proofs.Doubles
import DriverDesk.Proofs.Numbers
import DriverDesk.Proofs.Findings
import DriverDesk.Proofs.Rejections
import DriverDesk.Proofs.Reordering
import DriverDesk.Proofs.Subjects
import DriverDesk.Proofs.AnyCase
import DriverDesk.Proofs.Checked
import DriverDesk.Proofs.Defined
import DriverDesk.Proofs.DefinedSettings
import DriverDesk.Proofs.Laid
import DriverDesk.Proofs.LaidInstruments
import DriverDesk.Proofs.Unmeasured
import DriverDesk.Proofs.AnySize
import DriverDesk.Proofs.Rounding
import DriverDesk.Proofs.RoundedOperations
import DriverDesk.Proofs.NearestDoubles
import DriverDesk.Proofs.Numerals
import DriverDesk.Proofs.LenientNumbers
import DriverDesk.Proofs.ShortestDecimals
import DriverDesk.Proofs.ReadBack
import DriverDesk.Proofs.TextValues
import DriverDesk.Proofs.DigitDisplays
import DriverDesk.Proofs.HandlePositions
import DriverDesk.Proofs.Pivots
import DriverDesk.Proofs.Backgrounds
import DriverDesk.Proofs.Backstops
import DriverDesk.Proofs.NumberSheets
import DriverDesk.Proofs.IndicatorSheets
import DriverDesk.Proofs.SplitFields
import DriverDesk.Proofs.FiniteOperations
import DriverDesk.Proofs.ReadySettings
import DriverDesk.Proofs.Partition
import DriverDesk.Proofs.Decoding
import DriverDesk.Proofs.PanelFiles
import DriverDesk.Proofs.HexColours
