import DriveBench.Drive.Recorder
import DriveBench.Log.Filter
import DriveBench.Rendering.Raster
import DriveBench.Report.Run

/-!
# Commands

What the two programs do to the files, and what they print. The report prints
its messages as far as a filter lets them pass; the recorder prints a notice for
each recording.
-/

namespace DriveBench

structure Ended where
  code : UInt8
  output : String
  errors : String
  files : Filesystem

namespace Command

def defaultFilter : String := "info"

/-- The exit code of a program that was broken off. -/
def brokenOff : UInt8 := 101

def report (filter : Option String) (files : Filesystem) : Ended :=
  let settings : Report.Settings := {}
  let (filter, left) := Log.Filter.parse (filter.getD defaultFilter)
  let errors := String.join (left.map fun c => s!"warning: {c.message}, ignoring it\n")
  let renderer := Rendering.Renderer.ofProbe
    ((Rendering.Raster.discover).map fun raster => raster.backend (σ := Unit))
  match Report.run settings renderer () files with
  | .error overflow => ⟨brokenOff, "", errors ++ overflow.message ++ "\n", files⟩
  | .ok outcome =>
    let summary : Log.Message := ⟨.debug, .command,
      s!"{outcome.written.length} plot(s) written, {outcome.skipped.length} file(s) skipped"⟩
    let shown := (outcome.log ++ [summary]).filter filter.passes
    ⟨outcome.status.code, String.join (shown.map (·.text ++ "\n")), errors, outcome.world.files⟩

def record (files : Filesystem) : Ended :=
  let session := Recorder.session files
  match session.failure with
  | none => ⟨0, session.output, "", session.files⟩
  | some failure =>
    ⟨1, session.output, s!"Error: {failure.task}\n\nCaused by:\n    {failure.fault.message}\n",
      session.files⟩

end Command

end DriveBench
