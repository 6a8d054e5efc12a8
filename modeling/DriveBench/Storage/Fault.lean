import DriveBench.Storage.FaultNumbers

/-!
# Faults of storage

Why a file could not be opened, read, made or written. All but one have a
number by which operating systems know them, and their text names it.
-/

namespace DriveBench

inductive Fault
  | notFound
  | accessDenied
  | exists
  | notDirectory
  | isDirectory
  | noSpace
  | readOnly
  | nameTooLong
  | embeddedNul
  | other (number : Int)
  deriving DecidableEq, Repr

namespace Fault

def number? : Fault → Option Int
  | notFound => some 2
  | accessDenied => some 13
  | .exists => some 17
  | notDirectory => some 20
  | isDirectory => some 21
  | noSpace => some 28
  | readOnly => some 30
  | nameTooLong => some 36
  | embeddedNul => none
  | other number => some number

def ofNumber : Int → Fault
  | 2 => notFound
  | 13 => accessDenied
  | 17 => .exists
  | 20 => notDirectory
  | 21 => isDirectory
  | 28 => noSpace
  | 30 => readOnly
  | 36 => nameTooLong
  | number => other number

def message (fault : Fault) : String :=
  match fault.number? with
  | none => "file name contained an unexpected NUL byte"
  | some number => s!"{FaultNumbers.describe number} (os error {number})"

end Fault

end DriveBench
