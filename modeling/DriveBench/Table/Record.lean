/-!
# Records of a comma-separated file

One pass over the bytes cuts a file into records and records into fields. A
quotation mark that is the first byte of a field opens a quoted field, in which
every byte stands for itself and a mark is written twice; after the closing
mark, bytes up to the next comma or line end are taken as they are. Every byte
sequence is accepted.

A record carries the position where the record before it ended: empty lines in
front of it are not yet counted.
-/

namespace DriveBench.Table

structure Position where
  line : Nat
  byte : Nat
  deriving DecidableEq, Repr

def Position.next (p : Position) (b : UInt8) : Position :=
  ⟨if b = 10 then p.line + 1 else p.line, p.byte + 1⟩

/-- Fields as they stand in the file, and the position after the record before. -/
structure Record where
  start : Position
  fields : List (List UInt8)
  deriving DecidableEq, Repr

inductive Mode
  | between
  | opening
  | bare
  | quoted
  /-- After a mark in a quoted field: the closing one, or half of a double one. -/
  | marked
  deriving DecidableEq, Repr

/-- The state between two bytes. The open field, the fields before it and the
records before them are kept last first. -/
structure Scanner where
  mode : Mode
  field : List UInt8
  fields : List (List UInt8)
  start : Position
  here : Position
  records : List Record
  deriving DecidableEq, Repr

namespace Scanner

def begin (skipped : Nat) : Scanner :=
  { mode := .between, field := [], fields := [], start := ⟨1, 0⟩, here := ⟨1, skipped⟩, records := [] }

def open? (s : Scanner) : Option Record :=
  match s.mode with
  | .between => none
  | _ => some ⟨s.start, (s.field.reverse :: s.fields).reverse⟩

def isLineEnd (b : UInt8) : Bool := b == 10 || b == 13

def isComma (b : UInt8) : Bool := b == 44

def isMark (b : UInt8) : Bool := b == 34

def push (s : Scanner) (mode : Mode) (b : UInt8) : Scanner :=
  { s with mode, field := b :: s.field, here := s.here.next b }

def skip (s : Scanner) (mode : Mode) (b : UInt8) : Scanner :=
  { s with mode, here := s.here.next b }

def endField (s : Scanner) (b : UInt8) : Scanner :=
  { s with mode := .opening, field := [], fields := s.field.reverse :: s.fields, here := s.here.next b }

def endRecord (s : Scanner) (b : UInt8) : Scanner :=
  { mode := .between, field := [], fields := [], start := s.here.next b, here := s.here.next b
    records := ⟨s.start, (s.field.reverse :: s.fields).reverse⟩ :: s.records }

def plain (s : Scanner) (b : UInt8) : Scanner :=
  if isComma b then s.endField b else if isLineEnd b then s.endRecord b else s.push .bare b

def first (s : Scanner) (b : UInt8) : Scanner :=
  if isMark b then s.skip .quoted b else s.plain b

def step (s : Scanner) (b : UInt8) : Scanner :=
  match s.mode with
  | .between => if isLineEnd b then s.skip .between b else s.first b
  | .opening => s.first b
  | .bare => s.plain b
  | .quoted => if isMark b then s.skip .marked b else s.push .quoted b
  | .marked => if isMark b then s.push .quoted b else s.plain b

def run (s : Scanner) (bytes : List UInt8) : Scanner := bytes.foldl step s

@[simp] theorem run_nil (s : Scanner) : s.run [] = s := rfl

@[simp] theorem run_cons (s : Scanner) (b : UInt8) (bytes : List UInt8) :
    s.run (b :: bytes) = (s.step b).run bytes := rfl

theorem run_append (s : Scanner) (front back : List UInt8) :
    s.run (front ++ back) = (s.run front).run back := List.foldl_append

/-- All records, with the open one ended by the end of the file. -/
def finish (s : Scanner) : List Record := (s.open?.toList ++ s.records).reverse

end Scanner

def dropMark : List UInt8 → Nat × List UInt8
  | 0xEF :: 0xBB :: 0xBF :: rest => (3, rest)
  | bytes => (0, bytes)

def records (bytes : List UInt8) : List Record :=
  let (skipped, rest) := dropMark bytes
  ((Scanner.begin skipped).run rest).finish

end DriveBench.Table
