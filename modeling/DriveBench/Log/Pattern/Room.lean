import DriveBench.Log.Pattern

/-!
# The room that a pattern takes

A pattern is refused if an automaton for it would be too large. The automaton
reads UTF-8, so a set of characters takes states for the bytes of its
characters. Forwards, these share what they have in common at the end;
backwards, at the start.
-/

namespace DriveBench.Log

def stateRoom : Nat := 32

def wayRoom : Nat := 8

def forkRoom : Nat := 4

def largestRoom : Nat := 10485760

abbrev ByteRanges := List (UInt8 × UInt8)

namespace CharSet

/-- The last code of a first part, if the codes of a range cannot all be read as
one sequence of ranges: where the number of bytes changes, and where not all of
the last bytes are there. -/
def lastOfFirst? (low high : Nat) : Option Nat :=
  let longer := [0x7F, 0x7FF, 0xFFFF].find? fun last => low ≤ last && last < high
  let uneven (bits : Nat) : Option Nat :=
    let block := Nat.pow 2 bits
    if low / block = high / block then none
    else if low % block ≠ 0 then some (low / block * block + block - 1)
    else if high % block ≠ block - 1 then some (high / block * block - 1)
    else none
  longer.or (if high ≤ 0x7F then none else [6, 12, 18].findSome? uneven)

def sequencesOfRange : (steps low high : Nat) → List ByteRanges
  | 0, _, _ => []
  | steps + 1, low, high =>
    match lastOfFirst? low high with
    | some last => sequencesOfRange steps low last ++ sequencesOfRange steps (last + 1) high
    | none =>
      [(String.utf8EncodeChar (Char.ofNat low)).zip (String.utf8EncodeChar (Char.ofNat high))]

def withoutSurrogates (low high : Nat) : List (Nat × Nat) :=
  [(low, min high 0xD7FF), (max low 0xE000, high)].filter fun r => r.1 ≤ r.2

/-- The bytes of the characters of a set. More than a dozen steps are not needed
to part a range. -/
def byteRanges (s : CharSet) : List ByteRanges :=
  s.ranges.flatMap fun (low, high) =>
    (withoutSurrogates low high).flatMap fun (low, high) => sequencesOfRange 16 low high

def follows : List ByteRanges → List ((UInt8 × UInt8) × List ByteRanges)
  | [] => []
  | [] :: all => follows all
  | (front :: more) :: all =>
    match follows all with
    | (front', rest) :: others =>
      if front = front' then (front, more :: rest) :: others
      else (front, [more]) :: (front', rest) :: others
    | [] => [(front, [more])]

def remainders : (length : Nat) → List ByteRanges → List (List ByteRanges)
  | 0, _ => []
  | length + 1, all =>
    all :: (follows all).flatMap fun (_, rest) =>
      if rest = [[]] then [] else remainders length rest

/-- Room forwards: a state for each remainder, and one for the end. -/
def forwardRoom (all : List ByteRanges) : Nat :=
  (remainders 4 all).eraseDups.foldl (fun room rest =>
    room + stateRoom + wayRoom * (follows rest).length) stateRoom

def backwardRoom (all : List ByteRanges) : Nat :=
  let beginnings := all.flatMap fun s => (List.range s.length).map fun n => s.take (n + 1)
  stateRoom * (2 + beginnings.eraseDups.length) + forkRoom * all.length

/-- The room of a set. A single character is its bytes, and ASCII goes in one
state. -/
def room (backward : Bool) (s : CharSet) : Nat :=
  match s.ranges with
  | [] => 2 * stateRoom
  | ranges =>
    let all := s.byteRanges
    if all.length = 1 ∧ all.all (·.all fun r => r.1 == r.2) then
      stateRoom * (all.flatMap id).length
    else if ranges.all (·.2 < 0x80) then 2 * stateRoom + wayRoom * ranges.length
    else if backward then backwardRoom all
    else forwardRoom all

end CharSet

namespace Pattern

def branches : Pattern → Nat
  | choice p q => p.branches + q.branches
  | _ => 1

def needsNothing : Pattern → Bool
  | nothing | place _ => true
  | one set => set.ranges.isEmpty
  | sequence p q => p.needsNothing && q.needsNothing
  | choice p q => p.needsNothing || q.needsNothing
  | many p low _ => low == 0 || p.needsNothing
  | group p => p.needsNothing

def fork : Nat := stateRoom + 2 * forkRoom

mutual

def room (backward : Bool) : Pattern → Nat
  | nothing | place _ => stateRoom
  | one set => set.room backward
  | sequence p q => p.room backward + q.room backward
  | choice p q =>
    2 * stateRoom + forkRoom * (p.branches + q.branches) +
      p.branchesRoom backward + q.branchesRoom backward
  | many p low high =>
    let each := p.room backward
    match low, high with
    | 0, none => if p.needsNothing then each + 2 * fork + stateRoom else fork + each
    | low, none => low * each + fork
    | low, some high =>
      let least := if low = 0 then stateRoom else low * each
      if low = high then least
      else if low = 0 ∧ high = 1 then fork + each + stateRoom
      else least + stateRoom + (high - low) * (fork + each)
  | group p => p.room backward + if backward then 0 else 2 * stateRoom

def branchesRoom (backward : Bool) : Pattern → Nat
  | choice p q => p.branchesRoom backward + q.branchesRoom backward
  | p => p.room backward

end

def wholeRoom (backward : Bool) (p : Pattern) : Nat :=
  p.room backward + fork + (2 * stateRoom + wayRoom) +
    (if backward then 0 else 2 * stateRoom) + stateRoom

def isTooLarge (backward : Bool) (p : Pattern) : Bool := largestRoom < p.wholeRoom backward

end Pattern

end DriveBench.Log
