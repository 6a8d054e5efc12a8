import DriveBench.Assoc
import DriveBench.Command
import DriveBench.Drive.Experiment
import DriveBench.Drive.Motor
import DriveBench.Drive.Random
import DriveBench.Drive.Recorder
import DriveBench.Figure
import DriveBench.Figure.Axis
import DriveBench.Figure.Drawing
import DriveBench.Figure.Layout
import DriveBench.Figure.Palette
import DriveBench.Figure.Trace
import DriveBench.Image
import DriveBench.Image.Png
import DriveBench.Log
import DriveBench.Log.CharSet
import DriveBench.Log.Filter
import DriveBench.Log.Pattern
import DriveBench.Log.Pattern.Brackets
import DriveBench.Log.Pattern.Cursor
import DriveBench.Log.Pattern.Depth
import DriveBench.Log.Pattern.Escape
import DriveBench.Log.Pattern.Form
import DriveBench.Log.Pattern.Meaning
import DriveBench.Log.Pattern.Mistake
import DriveBench.Log.Pattern.Reader
import DriveBench.Log.Pattern.Refusal
import DriveBench.Log.Pattern.Room
import DriveBench.Log.Pattern.Search
import DriveBench.Main
import DriveBench.Numeral.Binary64
import DriveBench.Numeral.Printing
import DriveBench.Numeral.Reading
import DriveBench.Numeral.Shortest
import DriveBench.Path
import DriveBench.Proofs.Drive.Angle
import DriveBench.Proofs.Drive.Draws
import DriveBench.Proofs.Drive.Noise
import DriveBench.Proofs.Drive.Reversal
import DriveBench.Proofs.Drive.RoundTrip
import DriveBench.Proofs.Figure.AxisLength
import DriveBench.Proofs.Figure.Boxes
import DriveBench.Proofs.Figure.Containment
import DriveBench.Proofs.Figure.Gaps
import DriveBench.Proofs.Figure.Hull
import DriveBench.Proofs.Figure.Painting
import DriveBench.Proofs.Figure.Places
import DriveBench.Proofs.Figure.Runs
import DriveBench.Proofs.Figure.Tiling
import DriveBench.Proofs.Numeral.Arithmetic
import DriveBench.Proofs.Numeral.Halves
import DriveBench.Proofs.Numeral.Nearest
import DriveBench.Proofs.Numeral.Rounding
import DriveBench.Proofs.Numeral.Value
import DriveBench.Proofs.Numeral.Whole
import DriveBench.Proofs.Numeral.Wrapping
import DriveBench.Proofs.Path
import DriveBench.Proofs.Rendering.Placing
import DriveBench.Proofs.Rendering.Saving
import DriveBench.Proofs.Rendering.Sizes
import DriveBench.Proofs.Report.Accounting
import DriveBench.Proofs.Report.Again
import DriveBench.Proofs.Report.Attempt
import DriveBench.Proofs.Report.Budget
import DriveBench.Proofs.Report.Frame
import DriveBench.Proofs.Report.ImagePaths
import DriveBench.Proofs.Report.Order
import DriveBench.Proofs.Report.OwnImages
import DriveBench.Proofs.Report.Plan
import DriveBench.Proofs.Report.Projection
import DriveBench.Proofs.Report.Reordering
import DriveBench.Proofs.Report.Requests
import DriveBench.Proofs.Report.Routine
import DriveBench.Proofs.Report.Unavailable
import DriveBench.Proofs.Samples
import DriveBench.Proofs.Selection
import DriveBench.Proofs.Storage.Above
import DriveBench.Proofs.Storage.Alike
import DriveBench.Proofs.Storage.Directories
import DriveBench.Proofs.Storage.Keeping
import DriveBench.Proofs.Storage.Laying
import DriveBench.Proofs.Storage.Naming
import DriveBench.Proofs.Table.Appending
import DriveBench.Proofs.Table.Bare
import DriveBench.Proofs.Table.Contents
import DriveBench.Proofs.Table.Spelling
import DriveBench.Proofs.Table.Splitting
import DriveBench.Proofs.Table.Verdict
import DriveBench.Proofs.Text.Trimming
import DriveBench.Recording
import DriveBench.Recording.Loading
import DriveBench.Rendering.Backend
import DriveBench.Rendering.Failure
import DriveBench.Rendering.Placing
import DriveBench.Rendering.Raster
import DriveBench.Rendering.Script
import DriveBench.Rendering.Words
import DriveBench.Report.Outcome
import DriveBench.Report.Run
import DriveBench.Report.Settings
import DriveBench.Sample
import DriveBench.Storage.Change
import DriveBench.Storage.Fault
import DriveBench.Storage.FaultNumbers
import DriveBench.Storage.Filesystem
import DriveBench.Storage.Lookup
import DriveBench.Table.Defect
import DriveBench.Table.Reading
import DriveBench.Table.Record
import DriveBench.Text.Blank
import DriveBench.Text.Letter
import DriveBench.Text.Pieces
import DriveBench.Text.Utf8
