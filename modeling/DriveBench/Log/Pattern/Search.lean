import DriveBench.Log.Pattern

/-!
# Searching for a pattern

A search follows all places in a text at once. A set of places is a number whose
bit `i` stands for the place before character `i`, and a pattern is laid over
the text as the sets of places where its demands hold.
-/

namespace DriveBench.Log

inductive Walk
  | stay (places : Nat)
  | step (places : Nat)
  | sequence (first second : Walk)
  | choice (first second : Walk)
  | many (part : Walk) (low : Nat) (high : Option Nat)
  deriving DecidableEq, Repr

namespace Walk

def placesWhere (bound : Nat) (holds : Nat → Bool) : Nat :=
  (List.range bound).foldl (fun places i => if holds i then places ||| 1 <<< i else places) 0

/-- A walk repeated. A repetition of what is itself repeated from none or from
once on is one repetition. -/
def repeated : Walk → Nat → Option Nat → Walk
  | many part low high, low', high' =>
    if low ≤ 1 ∧ high ≠ some 0 ∧ high' ≠ some 0 then
      many part (low * low') (high.bind fun h => high'.map (h * ·))
    else many (many part low high) low' high'
  | part, low, high => many part low high

/-- The places after exactly some rounds. They are the same from the round on
that changes nothing. -/
def after (round : Nat → Nat) : Nat → Nat → Nat
  | 0, places => places
  | n + 1, places =>
    let next := round places
    if next = 0 ∨ next = places then next else after round n next

def within (round : Nat → Nat) : Nat → (all fresh : Nat) → Nat
  | 0, all, _ => all
  | n + 1, all, fresh =>
    let next := round fresh
    let fresh := (next ||| all) ^^^ all
    if fresh = 0 then all else within round n (all ||| fresh) fresh

/-- Where a walk from some places can end. More rounds than there are places,
`bound`, lead nowhere new: one of them takes nothing, and can be left out. -/
def ends (bound : Nat) : Walk → Nat → Nat
  | stay places, from' => from' &&& places
  | step places, from' => (from' &&& places) <<< 1
  | sequence p q, from' => ends bound q (ends bound p from')
  | choice p q, from' => ends bound p from' ||| ends bound q from'
  | many p low high, from' =>
    let start := after (ends bound p) (min low bound) from'
    within (ends bound p) (high.elim bound fun h => min (h - low) bound) start start

end Walk

namespace Pattern

def walk (text : Array Char) : Pattern → Walk
  | nothing => .stay (Walk.placesWhere (text.size + 1) fun _ => true)
  | one set => .step (Walk.placesWhere text.size fun i => text[i]?.any fun c => set.has c.toNat)
  | place p => .stay (Walk.placesWhere (text.size + 1) fun i =>
      p.holds (if i = 0 then none else text[i - 1]?) text[i]?)
  | sequence p q => .sequence (p.walk text) (q.walk text)
  | choice p q => .choice (p.walk text) (q.walk text)
  | many p low high => (p.walk text).repeated low high
  | group p => p.walk text

def isIn (p : Pattern) (text : String) : Bool :=
  let chars := text.toList.toArray
  let bound := chars.size + 1
  (p.walk chars).ends bound (Walk.placesWhere bound fun _ => true) != 0

end Pattern

end DriveBench.Log
