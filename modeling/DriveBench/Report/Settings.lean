import DriveBench.Path

/-!
# Settings of a report

Where recordings are looked for, where images go, and what is drawn.
-/

namespace DriveBench.Report

structure Settings where
  resultsDir : String := "results"
  plotsSubdir : String := "plots"
  expectedFiles : List String := ["speed_step_test.csv", "torque_step_test.csv", "hfi_test.csv"]
  /-- The fields that are drawn if any of them is there, in order. -/
  canonicalFields : List String := ["id", "iq", "omega_e", "torque"]
  /-- How many columns are drawn if none is. -/
  fallbackFieldCount : Nat := 3
  timeColumn : String := "time"
  xLabel : String := "time [s]"
  panelWidth : UInt32 := 800
  panelHeight : UInt32 := 250
  deriving Repr

namespace Settings

def plotsDir (s : Settings) : String := Path.join s.resultsDir s.plotsSubdir

def inputPath (s : Settings) (name : String) : String := Path.join s.resultsDir name

def outputPath (s : Settings) (input : String) : String :=
  Path.join s.plotsDir (Path.stem input ++ ".png")

end Settings

end DriveBench.Report
