import DriveBench.Table.Record

/-!
# Defects of a table

The ways in which a file of records fails to be a table of numbers. Records are
numbered from the header, which is 0; data rows from 1.
-/

namespace DriveBench.Table

inductive Defect
  /-- A field that is not text: its bytes stop being UTF-8 after `valid` of them. -/
  | notText (record : Nat) (start : Position) (field valid : Nat)
  | ragged (record : Nat) (start : Position) (found expected : Nat)
  | notNumber (row : Nat) (column value : String)
  | missingColumn (column : String)
  deriving DecidableEq, Repr

namespace Defect

/-- What is wrong with the file as a file of records. A cell's value and the
choice of columns are no matter of the record format. -/
def format? : Defect → Option String
  | notText record start field valid =>
    some s!"CSV parse error: record {record} (line {start.line}, field: {field}, byte: {start.byte}): invalid utf-8: invalid UTF-8 in field {field} near byte index {valid}"
  | ragged record start found expected =>
    some s!"CSV error: record {record} (line: {start.line}, byte: {start.byte}): found record with {found} fields, but the previous record has {expected} fields"
  | notNumber .. | missingColumn .. => none

end Defect

end DriveBench.Table
