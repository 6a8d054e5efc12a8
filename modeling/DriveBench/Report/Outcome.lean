import DriveBench.Log
import DriveBench.Recording.Loading
import DriveBench.Rendering.Failure
import DriveBench.Report.Settings

/-!
# Outcomes of a run

What becomes of each expected file is a verdict: an image was written, or the
file was skipped for a reason. What was written and what was skipped are two
views of the verdicts.
-/

namespace DriveBench.Report

open Rendering (Failure)

inductive SkipReason
  | missing
  | unreadable (failure : Loading.Failure)
  | noRecords
  | noFields
  | notRendered (failure : Failure)
  deriving DecidableEq, Repr

namespace SkipReason

def detail? : SkipReason → Option String
  | unreadable failure => some failure.message
  | notRendered failure => some failure.message
  | missing | noRecords | noFields => none

end SkipReason

inductive Verdict
  | written (output : String)
  | skipped (reason : SkipReason)
  deriving DecidableEq, Repr

structure Processed where
  path : String
  verdict : Verdict
  deriving DecidableEq, Repr

inductive Status
  | success
  | noResultsDir
  | plottingUnavailable
  deriving DecidableEq, Repr

def Status.code : Status → UInt8
  | success => 0
  | noResultsDir => 1
  | plottingUnavailable => 2

/-- What a run works on: files, the state of the backend, and whether the
directory of the images is known to be there. -/
structure World (σ : Type) where
  files : Filesystem
  state : σ
  plotsReady : Bool

structure Outcome (σ : Type) where
  status : Status
  processed : List Processed
  log : List Log.Message
  world : World σ

namespace Outcome

def written (o : Outcome σ) : List String :=
  o.processed.filterMap fun p => match p.verdict with
    | .written output => some output
    | .skipped _ => none

def skipped (o : Outcome σ) : List (String × SkipReason) :=
  o.processed.filterMap fun p => match p.verdict with
    | .written _ => none
    | .skipped reason => some (p.path, reason)

def after (o : Outcome σ) (first : Processed) (log : List Log.Message) : Outcome σ :=
  { o with processed := first :: o.processed, log := log ++ o.log }

@[simp] theorem status_after (o : Outcome σ) (first : Processed) (log : List Log.Message) :
    (o.after first log).status = o.status := rfl

@[simp] theorem processed_after (o : Outcome σ) (first : Processed) (log : List Log.Message) :
    (o.after first log).processed = first :: o.processed := rfl

@[simp] theorem log_after (o : Outcome σ) (first : Processed) (log : List Log.Message) :
    (o.after first log).log = log ++ o.log := rfl

@[simp] theorem world_after (o : Outcome σ) (first : Processed) (log : List Log.Message) :
    (o.after first log).world = o.world := rfl

end Outcome

end DriveBench.Report
