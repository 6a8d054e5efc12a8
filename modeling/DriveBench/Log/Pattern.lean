import DriveBench.Log.CharSet

/-!
# Patterns

Regular expressions over characters, as a search sees them: what a pattern
takes, not how much it would rather take. Groups mean nothing to a search, but
they take room.
-/

namespace DriveBench.Log

/-- How word characters stand around a place: on one side only or not, at the
start or finish of a word, where a half asks only that there is none on its own
side. -/
inductive WordEdge
  | change
  | same
  | start
  | finish
  | startHalf
  | finishHalf
  deriving DecidableEq, Repr

inductive Place
  | textStart
  | textEnd
  /-- With carriage returns taken for ends of lines, or not. -/
  | lineStart (returns : Bool)
  | lineEnd (returns : Bool)
  /-- With the word characters of ASCII in mind, or those of all alphabets. -/
  | word (edge : WordEdge) (ascii : Bool)
  deriving DecidableEq, Repr

namespace WordEdge

def holds (before after : Bool) : WordEdge → Bool
  | change => before != after
  | same => before == after
  | start => !before && after
  | finish => before && !after
  | startHalf => !before
  | finishHalf => !after

end WordEdge

namespace Place

def isWord (c : Char) : Bool := c.isAlphanum || c == '_'

/-- Whether a place is as asked, by the characters before and after it. A line
feed after a carriage return is one end of line with it. Words are those of
ASCII in any case. -/
def holds (before after : Option Char) : Place → Bool
  | textStart => before.isNone
  | textEnd => after.isNone
  | lineStart false => before.all (· == '\n')
  | lineStart true => before.all fun c => c == '\n' || c == '\r' && after != some '\n'
  | lineEnd false => after.all (· == '\n')
  | lineEnd true => after.all fun c => c == '\r' || c == '\n' && before != some '\r'
  | word edge _ => edge.holds (before.any isWord) (after.any isWord)

end Place

inductive Pattern
  | nothing
  | one (set : CharSet)
  | place (place : Place)
  | sequence (first second : Pattern)
  | choice (first second : Pattern)
  | many (part : Pattern) (low : Nat) (high : Option Nat)
  | group (part : Pattern)
  deriving DecidableEq, Repr

namespace Pattern

def takesNothing : Pattern → Bool
  | nothing | place _ => true
  | one _ => false
  | sequence p q | choice p q => p.takesNothing && q.takesNothing
  | many p _ _ | group p => p.takesNothing

/-- A part repeated. What takes nothing is taken once at most. -/
def repeated (part : Pattern) (low : Nat) (high : Option Nat) : Pattern :=
  let (low, high) :=
    if part.takesNothing then (min low 1, some (min (high.getD 1) 1)) else (low, high)
  if high = some 0 then nothing
  else if low = 1 ∧ high = some 1 then part
  else many part low high

def sequences (parts : List Pattern) : Pattern :=
  match parts.filter (· ≠ nothing) with
  | [] => nothing
  | first :: rest => rest.foldl sequence first

def set? : Pattern → Option CharSet
  | one set => some set
  | _ => none

def choices (parts : List Pattern) : Pattern :=
  match parts, parts.mapM set? with
  | [], _ => nothing
  | _, some (set :: sets) => one (sets.foldl .union set)
  | first :: rest, _ => rest.foldl choice first

def asksForWords : Pattern → Bool
  | nothing | one _ => false
  | place (.word _ ascii) => !ascii
  | place _ => false
  | sequence p q | choice p q => p.asksForWords || q.asksForWords
  | many p _ _ | group p => p.asksForWords

end Pattern

end DriveBench.Log
