import DriveBench.Numeral.Reading
import DriveBench.Sample
import DriveBench.Table.Defect
import DriveBench.Text.Blank
import DriveBench.Text.Utf8

/-!
# Tables of numbers

A table is a header of column names and a sample for every later record, and the
first record that is no sample decides. A cell loses its ASCII blanks while it
is still bytes, so a defect of its text is counted from the first byte that is
not blank.
-/

namespace DriveBench

/-- Column names in the order of the file, repeats included, and samples in the
order of the file. -/
structure Table where
  columns : List String
  samples : List Sample

namespace Table

def Record.texts (r : Record) (record : Nat) : Except Defect (List String) :=
  go 0 r.fields
where
  go (field : Nat) : List (List UInt8) → Except Defect (List String)
    | [] => .ok []
    | bytes :: rest =>
      match Utf8.decode? bytes with
      | none => .error (.notText record r.start field (Utf8.validLength bytes))
      | some text => (go (field + 1) rest).map (text :: ·)

def Record.columns (header : Record) : Except Defect (List String) :=
  (header.texts 0).map (·.map trimText)

def Record.cells (r : Record) (row width : Nat) : Except Defect (List String) :=
  if r.fields.length ≠ width then .error (.ragged row r.start r.fields.length width)
  else (Record.texts ⟨r.start, r.fields.map trimBytes⟩ row).map (·.map trimText)

def readCells (row : Nat) : List (String × String) → Except Defect (List (String × Float))
  | [] => .ok []
  | (column, text) :: rest =>
    match Numeral.parse? text with
    | none => .error (.notNumber row column text)
    | some value => (readCells row rest).map ((column, value) :: ·)

def readSample (columns : List String) (row : Nat) (r : Record) : Except Defect Sample := do
  let cells ← r.cells row columns.length
  let values ← readCells row (columns.zip cells)
  return Sample.ofCells values

def readSamples (columns : List String) (row : Nat) : List Record → Except Defect (List Sample)
  | [] => .ok []
  | r :: rest => do
    let sample ← readSample columns row r
    let samples ← readSamples columns (row + 1) rest
    return sample :: samples

/-- The table that the bytes of a file hold. A file without records is a table
without columns. -/
def read (bytes : List UInt8) (timeColumn : String) : Except Defect Table :=
  match records bytes with
  | [] => .ok ⟨[], []⟩
  | header :: rows => do
    let columns ← header.columns
    let samples ← readSamples columns 1 rows
    if samples.isEmpty || columns.contains timeColumn then return ⟨columns, samples⟩
    else throw (.missingColumn timeColumn)

end Table

end DriveBench
