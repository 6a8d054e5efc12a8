import DriveBench.Recording
import DriveBench.Storage.Lookup

/-!
# Loading a recording

A recording comes from a file: the table in it, under the stem of the file's
name.
-/

namespace DriveBench

namespace Loading

inductive Cause
  | unopened (fault : Fault)
  | unread (fault : Fault)
  | defective (defect : Table.Defect)
  deriving DecidableEq, Repr

structure Failure where
  path : String
  cause : Cause
  deriving DecidableEq, Repr

namespace Failure

def origin? (failure : Failure) : Option String :=
  match failure.cause with
  | .unopened fault | .unread fault => some fault.message
  | .defective defect => defect.format?

def message (failure : Failure) : String :=
  let malformed (origin : String) := s!"malformed CSV in {failure.path}: {origin}"
  match failure.cause with
  | .unopened fault => s!"cannot read {failure.path}: {fault.message}"
  | .unread fault => malformed fault.message
  | .defective (.notNumber row column value) =>
    s!"{failure.path}: row {row}, column '{column}': '{value}' is not a number"
  | .defective (.missingColumn column) => s!"{failure.path}: missing '{column}' column"
  | .defective defect => malformed (defect.format?.getD "")

end Failure

end Loading

namespace Recording

def ofBytes (path : String) (bytes : ByteArray) (timeColumn : String) :
    Except Loading.Failure Recording :=
  match Table.read bytes.data.toList timeColumn with
  | .ok table => .ok { table with title := Path.stem path }
  | .error defect => .error ⟨path, .defective defect⟩

/-- The recording in the file at a path. A directory can be opened like a file,
but not read. -/
def load (fs : Filesystem) (path timeColumn : String) : Except Loading.Failure Recording :=
  match fs.lookup path with
  | .error fault => .error ⟨path, .unopened fault⟩
  | .ok .directory => .error ⟨path, .unread .isDirectory⟩
  | .ok (.file bytes) => ofBytes path bytes timeColumn

theorem load_of_lookup {fs : Filesystem} {path : String} {bytes : ByteArray}
    (h : fs.lookup path = .ok (.file bytes)) (timeColumn : String) :
    load fs path timeColumn = ofBytes path bytes timeColumn := by
  rw [load, h]

theorem ofBytes_ok {path timeColumn : String} {bytes : ByteArray} {recording : Recording} :
    ofBytes path bytes timeColumn = .ok recording ↔
      ∃ table, Table.read bytes.data.toList timeColumn = .ok table ∧
        recording = { table with title := Path.stem path } := by
  unfold ofBytes
  cases Table.read bytes.data.toList timeColumn <;> simp [eq_comm]

theorem ofBytes_error {path timeColumn : String} {bytes : ByteArray} {failure : Loading.Failure} :
    ofBytes path bytes timeColumn = .error failure ↔
      ∃ d, failure = ⟨path, .defective d⟩ ∧ Table.read bytes.data.toList timeColumn = .error d := by
  unfold ofBytes
  cases Table.read bytes.data.toList timeColumn <;> simp [eq_comm]

theorem exists_of_load {fs : Filesystem} {path timeColumn : String} {recording : Recording}
    (h : load fs path timeColumn = .ok recording) :
    ∃ bytes, fs.lookup path = .ok (.file bytes) ∧ ofBytes path bytes timeColumn = .ok recording := by
  unfold load at h
  split at h
  · contradiction
  · contradiction
  · rename_i bytes hlookup
    exact ⟨bytes, hlookup, h⟩

theorem title_of_load {fs : Filesystem} {path timeColumn : String} {recording : Recording}
    (h : load fs path timeColumn = .ok recording) : recording.title = Path.stem path := by
  obtain ⟨bytes, -, hbytes⟩ := exists_of_load h
  obtain ⟨table, -, rfl⟩ := ofBytes_ok.1 hbytes
  rfl

end Recording

end DriveBench
