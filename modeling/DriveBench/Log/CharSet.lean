/-!
# Sets of characters

Sets of code points, built from ranges. Only the letters of ASCII have another
case.
-/

namespace DriveBench.Log

inductive CharSet
  | empty
  | range (low high : Nat)
  | union (a b : CharSet)
  | complement (a : CharSet)
  | anyCase (a : CharSet)
  deriving DecidableEq, Repr

namespace CharSet

def otherCase (code : Nat) : Nat :=
  if 65 ≤ code ∧ code ≤ 90 then code + 32
  else if 97 ≤ code ∧ code ≤ 122 then code - 32
  else code

def has : CharSet → Nat → Bool
  | empty, _ => false
  | range low high, code => low ≤ code && code ≤ high
  | union a b, code => a.has code || b.has code
  | complement a, code => !a.has code
  | anyCase a, code => a.has code || a.has (otherCase code)

def single (c : Char) : CharSet := range c.toNat c.toNat

def unions (sets : List CharSet) : CharSet := sets.foldr union empty

def both (a b : CharSet) : CharSet := complement (union (complement a) (complement b))

def without (a b : CharSet) : CharSet := both a (complement b)

def either (a b : CharSet) : CharSet := union (without a b) (without b a)

/-- The code points where membership can change. -/
def cuts : CharSet → List Nat
  | empty => []
  | range low high => [low, high + 1]
  | union a b => cuts a ++ cuts b
  | complement a => cuts a
  | anyCase a => [65, 91, 97, 123] ++ (cuts a).flatMap fun k => [k, k + 32, k - 32]

def codes : Nat := 0x110000

/-- The ranges between ascending cuts that are in a set, neighbours joined. -/
def runs (s : CharSet) : List Nat → List (Nat × Nat)
  | first :: next :: rest =>
    match s.has first, runs s (next :: rest) with
    | false, more => more
    | true, [] => [(first, next - 1)]
    | true, (low, high) :: more =>
      if low = next then (first, high) :: more else (first, next - 1) :: (low, high) :: more
  | _ => []

def ranges (s : CharSet) : List (Nat × Nat) :=
  s.runs ((0 :: codes :: s.cuts).filter (· ≤ codes)).mergeSort.eraseReps

end CharSet

end DriveBench.Log
