import DriveBench.Command

/-!
# The program

Takes in what lies in the directory of recordings, lets a command work on it,
and writes the files that are new. Nothing is ever removed. The word `record`
asks for new recordings; anything else, or nothing, for a report.
-/

namespace DriveBench.Main

partial def gather (files : Filesystem) (path : String) : IO Filesystem := do
  let place := (← IO.currentDir) / path
  if ← place.isDir then
    let entries ← place.readDir
    entries.foldlM (fun files entry => gather files (Path.join path entry.fileName))
      (files.makeDirectories path).1
  else if ← place.pathExists then
    match files.writeFile path (← IO.FS.readBinFile place) with
    | .ok files => return files
    | .error fault => throw (IO.userError s!"{path}: {fault.message}")
  else return files

/-- What is new in the files, made. -/
def keep (before after : Filesystem) : IO Unit := do
  for (names, entry) in after.below do
    let path := "/".intercalate names
    unless (before.lookup path).toOption = some entry do
      match entry with
      | .directory => IO.FS.createDirAll path
      | .file bytes => IO.FS.writeBinFile path bytes

def perform (command : Filesystem → Ended) : IO UInt32 := do
  let before ← gather .workplace Recorder.directory
  let ended := command before
  keep before ended.files
  IO.print ended.output
  IO.eprint ended.errors
  return ended.code.toUInt32

end DriveBench.Main

def main (arguments : List String) : IO UInt32 := do
  match arguments with
  | ["record"] => DriveBench.Main.perform DriveBench.Command.record
  | _ =>
    let filter ← IO.getEnv "DRIVE_BENCH_LOG"
    DriveBench.Main.perform (DriveBench.Command.report filter)
