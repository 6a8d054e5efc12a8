import DriveBench.Drive.Experiment
import DriveBench.Numeral.Printing
import DriveBench.Path
import DriveBench.Storage.Change
import DriveBench.Text.Utf8

/-!
# Recording experiments

A recording has a line of column names and a line for each state; without states
there is no line at all. All experiments are recorded with one generator, into
the directory where a report looks for them. What was recorded before a failure
stays.
-/

namespace DriveBench

namespace Recorder

def line (cells : List String) : String := String.intercalate "," cells ++ "\n"

def text (states : List MotorState) : String :=
  if states.isEmpty then ""
  else String.join (line MotorState.columns :: states.map fun m => line (m.values.map Numeral.print))

structure Failure where
  task : String
  fault : Fault
  deriving DecidableEq, Repr

def Failure.message (failure : Failure) : String := s!"{failure.task}: {failure.fault.message}"

def notice (states : List MotorState) (path : String) : String :=
  s!"Wrote {states.length} records to {path}\n"

def record (files : Filesystem) (path : String) (states : List MotorState) :
    Except Failure Filesystem :=
  match files.writeFile path (Utf8.encode (text states)).toByteArray with
  | .error fault => .error ⟨s!"creating {path}", fault⟩
  | .ok files => .ok files

structure Session where
  files : Filesystem
  output : String
  failure : Option Failure

/-- Some experiments recorded in a directory, in order, up to the first that
fails. -/
def recordAll (directory : String) : List Experiment → Generator → Filesystem → String → Session
  | [], _, files, output => ⟨files, output, none⟩
  | experiment :: rest, g, files, output =>
    let (states, g) := experiment.run g
    let path := Path.join directory experiment.fileName
    match record files path states with
    | .error failure => ⟨files, output, some failure⟩
    | .ok files => recordAll directory rest g files (output ++ notice states path)

def directory : String := "results"

def seed : UInt64 := 42

def session (files : Filesystem) : Session :=
  match files.makeDirectories directory with
  | (files, .error fault) => ⟨files, "", some ⟨"creating results directory", fault⟩⟩
  | (files, .ok ()) =>
    recordAll directory [.speedStep, .torqueStep, .injection] (Generator.ofSeed seed) files ""

end Recorder

end DriveBench
