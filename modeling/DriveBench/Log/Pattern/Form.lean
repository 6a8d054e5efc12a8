import DriveBench.Log.Pattern
import DriveBench.Log.Pattern.Mistake

/-!
# The written form of a pattern

A pattern as it is written, each part with the stretch of text it takes. What
the parts mean depends on flags that are set among them.
-/

namespace DriveBench.Log.Pattern

/-- A character that stands for itself, by whatever spelling. One spelled as two
hexadecimal digits may be meant as a byte. -/
structure Letter where
  stretch : Stretch
  char : Char
  isByte : Bool := false
  deriving DecidableEq, Repr

inductive Kind
  | digit
  | blank
  | word
  deriving DecidableEq, Repr

inductive SetOperator
  | both
  | without
  | either
  deriving DecidableEq, Repr

inductive Chars
  | nothing (stretch : Stretch)
  | letter (letter : Letter)
  | range (stretch : Stretch) (low high : Letter)
  | named (stretch : Stretch) (negated : Bool) (set : CharSet)
  | kind (stretch : Stretch) (negated : Bool) (kind : Kind)
  | property (stretch : Stretch) (negated : Bool) (name : String)
  | bracket (stretch : Stretch) (negated : Bool) (inside : Chars)
  | union (stretch : Stretch) (parts : List Chars)
  | operation (stretch : Stretch) (operator : SetOperator) (left right : Chars)

namespace Chars

def stretch : Chars → Stretch
  | letter l => l.stretch
  | nothing s | range s .. | named s .. | kind s .. | property s .. | bracket s .. | union s ..
  | operation s .. => s

end Chars

inductive Anchor
  | lineStart
  | lineEnd
  | textStart
  | textEnd
  | word (edge : WordEdge)
  deriving DecidableEq, Repr

inductive Flag
  | anyCase
  | lineAnchors
  | dotAll
  | swapGreed
  | alphabets
  | returns
  | spaced
  deriving DecidableEq, Repr

abbrev FlagChange := Flag × Bool

inductive Form
  | nothing (stretch : Stretch)
  | flags (stretch : Stretch) (changes : List FlagChange)
  | letter (letter : Letter)
  | dot (stretch : Stretch)
  | anchor (stretch : Stretch) (anchor : Anchor)
  | kind (stretch : Stretch) (negated : Bool) (kind : Kind)
  | property (stretch : Stretch) (negated : Bool) (name : String)
  | bracket (stretch : Stretch) (negated : Bool) (inside : Chars)
  | many (stretch : Stretch) (part : Form) (low : Nat) (high : Option Nat)
  | group (stretch : Stretch) (remembers : Bool) (changes : List FlagChange) (part : Form)
  | sequence (stretch : Stretch) (parts : List Form)
  | choice (stretch : Stretch) (parts : List Form)

namespace Form

def stretch : Form → Stretch
  | letter l => l.stretch
  | nothing s | flags s .. | dot s | anchor s .. | kind s .. | property s .. | bracket s ..
  | many s .. | group s .. | sequence s .. | choice s .. => s

end Form

end DriveBench.Log.Pattern
