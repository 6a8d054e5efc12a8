import DriveBench.Log.Pattern.Mistake
import DriveBench.Text.Blank

/-!
# Reading from the left

What is left of a text, where it begins, and whether blanks in it mean nothing.
If so, neither does what stands between a number sign and the end of its line.
-/

namespace DriveBench.Log.Pattern

structure Cursor where
  rest : List Char
  position : Position
  spaced : Bool

namespace Cursor

def ofText (text : List Char) : Cursor := ⟨text, .begin, false⟩

def advance (c : Cursor) : Cursor :=
  match c.rest with
  | [] => c
  | first :: rest => { c with rest, position := c.position.after first }

def skipFrom (comment : Bool) (position : Position) : List Char → List Char × Position
  | [] => ([], position)
  | c :: rest =>
    if comment then skipFrom (c != '\n') (position.after c) rest
    else if Blank.isChar c then skipFrom false (position.after c) rest
    else if c = '#' then skipFrom true (position.after c) rest
    else (c :: rest, position)

def skip (c : Cursor) : Cursor :=
  if c.spaced then
    let (rest, position) := skipFrom false c.position c.rest
    { c with rest, position }
  else c

/-- What comes after the first character of a text where something can be
meant. In a comment that is whatever is no blank. -/
def afterFirst (c : Cursor) : Option Char :=
  let rest := c.rest.tail
  if c.spaced then
    let meant := match rest.dropWhile Blank.isChar with
      | '#' :: comment => comment.dropWhile Blank.isChar
      | meant => meant
    (meant.head?).or rest.head?
  else rest.head?

/-- The characters in front that satisfy `p`, and what means nothing after
each, for so many characters at most. -/
def takeWhile (p : Char → Bool) : (count : Nat) → Cursor → List Char × Cursor
  | 0, c => ([], c)
  | count + 1, c => match c.rest with
    | [] => ([], c)
    | first :: _ =>
      if p first then
        let (more, c) := takeWhile p count c.advance.skip
        (first :: more, c)
      else ([], c)

end Cursor

abbrev Reading (α : Type) := StateT Cursor (Except Mistake) α

namespace Reading

def fail (start stop : Position) (cause : Cause) : Reading α :=
  throw ⟨⟨start, stop⟩, none, cause⟩

def rest : Reading (List Char) := return (← get).rest

def position : Reading Position := return (← get).position

def advance : Reading Unit := modify Cursor.advance

def skip : Reading Unit := modify Cursor.skip

def advanceSkip : Reading Unit := modify fun c => c.advance.skip

def ahead : Reading Stretch := return ⟨(← get).position, (← get).advance.position⟩

def failAhead (cause : Cause) : Reading α := do
  throw ⟨← ahead, none, cause⟩

def failHere (cause : Cause) : Reading α := do
  let here ← position
  fail here here cause

def failSince (start : Position) (cause : Cause) : Reading α := do
  fail start (← position) cause

def takeWhile (p : Char → Bool) : Reading (List Char) :=
  modifyGet fun c => c.takeWhile p c.rest.length

end Reading

end DriveBench.Log.Pattern
