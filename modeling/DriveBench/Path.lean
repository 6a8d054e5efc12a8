import DriveBench.Text.Pieces

/-!
# Paths

Slashes part a path into pieces, of which a piece is a component unless it is
empty, or is a single dot that does not come first. No text is ever normalised:
what is cut or joined keeps the rest as it was written.
-/

namespace DriveBench.Path

def isAbsolute (path : String) : Bool := path.toList.head? == some '/'

/-- `base` and `rest` with one slash between them, unless `base` is empty or
ends in one. An absolute `rest` stands for itself. -/
def join (base rest : String) : String :=
  if isAbsolute rest then rest
  else if base.toList.getLast?.all (· == '/') then base ++ rest
  else base ++ "/" ++ rest

def pieces (path : String) : List (List Char) := DriveBench.pieces '/' path.toList

/-- The beginnings of a path that end with a component, shortest first, each
as it is written. `front` is the text so far, none before the first piece. -/
def beginnings (front : Option (List Char)) : List (List Char) → List (List Char)
  | [] => []
  | piece :: rest =>
    let text := front.elim piece (· ++ '/' :: piece)
    if piece ≠ [] ∧ (piece ≠ ['.'] ∨ front = none) then text :: beginnings (some text) rest
    else beginnings (some text) rest

/-- The paths above a path, the nearest first, as far as they have a component
or are the root. -/
def above (path : String) : List String :=
  let inner := (beginnings none (pieces path)).dropLast.reverse.map String.ofList
  if isAbsolute path then inner ++ ["/"] else inner

def parent? (path : String) : Option String :=
  if (beginnings none (pieces path)).isEmpty then none
  else some ((above path).head?.getD "")

def fileName? (path : String) : Option (List Char) :=
  match ((pieces path).filter fun piece => piece ≠ [] ∧ piece ≠ ['.']).getLast? with
  | some ['.', '.'] | none => none
  | some name => some name

/-- A name without what follows its last dot; a dot in front ends nothing. -/
def stemOf (name : List Char) : List Char :=
  let front := (name.reverse.dropWhile (· != '.')).tail.reverse
  if front.isEmpty then name else front

def stem (path : String) : String := String.ofList ((fileName? path).elim [] stemOf)

end DriveBench.Path
