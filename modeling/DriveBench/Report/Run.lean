import DriveBench.Rendering.Backend
import DriveBench.Report.Outcome

/-!
# A run of the report

The expected files are looked up once, before anything is done, and then
processed in order. The directory of the images is made when the first figure is
ready to be rendered; if that fails it is tried again for the next.
-/

namespace DriveBench.Report

open Rendering (Failure Overflow Renderer)

/-- What came of one file that is there: the verdict, or the failure that ends
the run. -/
structure Attempt (σ : Type) where
  result : Except Failure Verdict
  log : List Log.Message
  world : World σ

def say (level : Log.Level) (text : String) : Log.Message := ⟨level, .report, text⟩

def parsed (recording : Recording) (path : String) : Log.Message :=
  ⟨.debug, .loading, s!"Parsed {recording.length} rows x {recording.columns.length} columns from {path}"⟩

def announced (renderer : Renderer σ) (figure : Figure) : List Log.Message :=
  match renderer with
  | .ready backend =>
    [⟨.debug, .rendering, s!"Rendering {figure.fields.length} panel(s) for {figure.title} with {backend.name}"⟩]
  | .unavailable .. => []

namespace World

def skip (w : World σ) (reason : SkipReason) (log : List Log.Message) : Attempt σ :=
  ⟨.ok (.skipped reason), log, w⟩

def fail (w : World σ) (failure : Failure) (log : List Log.Message) : Attempt σ :=
  if failure.isFatal then ⟨.error failure, log, w⟩
  else w.skip (.notRendered failure)
    (log ++ [say .warn s!"Plot generation failed: {failure.message}"])

/-- The directory of the images made, unless it is known to be there. -/
def preparePlots (w : World σ) (settings : Settings) : World σ × Except Fault Unit :=
  if w.plotsReady then (w, .ok ())
  else
    let (files, made) := w.files.makeDirectories settings.plotsDir
    ({ w with files, plotsReady := made.isOk }, made)

end World

def attempt (settings : Settings) (renderer : Renderer σ) (path : String) (w : World σ) :
    Except Overflow (Attempt σ) :=
  match Recording.load w.files path settings.timeColumn with
  | .error failure =>
    .ok (w.skip (.unreadable failure) [say .warn s!"Failed to read {path}: {failure.message}"])
  | .ok recording =>
    let read := [parsed recording path]
    let fields := recording.fieldsToPlot settings.canonicalFields settings.fallbackFieldCount
      settings.timeColumn
    if recording.isEmpty then .ok (w.skip .noRecords (read ++ [say .warn s!"No records in {path}"]))
    else if fields.isEmpty then
      .ok (w.skip .noFields (read ++ [say .warn s!"No plottable fields in {path}"]))
    else
      match w.preparePlots settings with
      | (w, .error fault) => .ok (w.fail (.making settings.plotsDir fault) read)
      | (w, .ok ()) => do
        let output := settings.outputPath path
        let figure := Figure.ofRecording recording fields settings.timeColumn settings.xLabel
        let rendered ← renderer.render recording figure output w.state w.files
        let w := { w with files := rendered.files, state := rendered.state }
        let log := read ++ announced renderer figure
        match rendered.result with
        | .error failure => return w.fail failure log
        | .ok () => return ⟨.ok (.written output), log ++ [say .info s!"Wrote {output}"], w⟩

structure Expected where
  path : String
  found : Bool
  deriving DecidableEq, Repr

def discover (settings : Settings) (files : Filesystem) : List Expected :=
  settings.expectedFiles.map fun name =>
    let path := settings.inputPath name
    ⟨path, files.isFile path⟩

def processAll (settings : Settings) (renderer : Renderer σ) :
    List Expected → World σ → Except Overflow (Outcome σ)
  | [], w => .ok ⟨.success, [], [say .info "Done"], w⟩
  | expected :: rest, w => do
    if expected.found then
      let a ← attempt settings renderer expected.path w
      match a.result with
      | .error failure =>
        let ending := say .error s!"Plot generation failed: {failure.message}" ::
          (failure.hint?.toList.map (say .error))
        return ⟨.plottingUnavailable, [], a.log ++ ending, a.world⟩
      | .ok verdict =>
        let o ← processAll settings renderer rest a.world
        return o.after ⟨expected.path, verdict⟩ a.log
    else
      let o ← processAll settings renderer rest w
      return o.after ⟨expected.path, .skipped .missing⟩
        [say .warn s!"Skipping missing {expected.path}"]

/-- A run. Without the directory of the recordings there is nothing to do. -/
def run (settings : Settings) (renderer : Renderer σ) (state : σ) (files : Filesystem) :
    Except Overflow (Outcome σ) :=
  let w : World σ := ⟨files, state, false⟩
  if files.isDirectory settings.resultsDir then
    processAll settings renderer (discover settings files) w
  else
    .ok ⟨.noResultsDir, [],
      [say .info s!"No {settings.resultsDir}/ directory found. Run tests first."], w⟩

end DriveBench.Report
