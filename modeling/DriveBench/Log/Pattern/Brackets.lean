import DriveBench.Log.Pattern.Escape

/-!
# Sets in brackets

Characters, ranges, named sets and further brackets stand side by side for
their union; operators between such unions take them from the left.
-/

namespace DriveBench.Log.Pattern

def named : List (String × CharSet) :=
  let digit := between '0' '9'
  let lower := between 'a' 'z'
  let upper := between 'A' 'Z'
  [("alnum", .unions [digit, upper, lower]), ("alpha", .union upper lower),
    ("ascii", between '\x00' '\x7F'), ("blank", .union (.single '\t') (.single ' ')),
    ("cntrl", .union (between '\x00' '\x1F') (.single '\x7F')), ("digit", digit),
    ("graph", between '!' '~'), ("lower", lower), ("print", between ' ' '~'),
    ("punct", .unions [between '!' '/', between ':' '@', between '[' '\x60', between '\x7B' '~']),
    ("space", .union (between '\t' '\r') (.single ' ')), ("upper", upper),
    ("word", .unions [digit, upper, .single '_', lower]),
    ("xdigit", .unions [digit, between 'A' 'F', between 'a' 'f'])]
where
  between (low high : Char) : CharSet := .range low.toNat high.toNat

structure Gathered where
  start : Position
  stop : Position
  parts : List Chars

namespace Gathered

def none (here : Position) : Gathered := ⟨here, here, []⟩

def add (g : Gathered) (part : Chars) : Gathered where
  start := if g.parts.isEmpty then part.stretch.start else g.start
  stop := part.stretch.stop
  parts := part :: g.parts

def whole (g : Gathered) : Chars :=
  match g.parts with
  | [] => .nothing ⟨g.start, g.stop⟩
  | [only] => only
  | parts => .union ⟨g.start, g.stop⟩ parts.reverse

end Gathered

inductive Open
  | bracket (beside : Gathered) (stretch : Stretch) (negated : Bool)
  | operator (operator : SetOperator) (left : Chars)

def closeOperator (right : Chars) : List Open → Chars × List Open
  | .operator op left :: around =>
    (.operation ⟨left.stretch.start, right.stretch.stop⟩ op left right, around)
  | around => (right, around)

def operator? : List Char → Option SetOperator
  | '&' :: '&' :: _ => some .both
  | '-' :: '-' :: _ => some .without
  | '~' :: '~' :: _ => some .either
  | _ => none

/-- A named set such as `[:alpha:]`, whether its complement is meant, and its
length. -/
def namedSet? : List Char → Option (CharSet × Bool × Nat)
  | '[' :: ':' :: text =>
    let (negated, text) := match text with
      | '^' :: text => (true, text)
      | text => (false, text)
    let name := text.takeWhile (· != ':')
    match text.dropWhile (· != ':'), named.lookup (String.ofList name) with
    | ':' :: ']' :: _, some set => some (set, negated, name.length + if negated then 5 else 4)
    | _, _ => none
  | _ => none

namespace Reading

def failUnclosed (around : List Open) : Reading α := do
  match around.findSome? fun | .bracket _ s _ => some s | .operator .. => none with
  | some s => fail s.start s.stop .bracketUnclosed
  | none => failHere .bracketUnclosed

def verbatim : Reading Letter := do
  let stretch ← ahead
  match ← rest with
  | [] => failHere .bracketUnclosed
  | char :: _ =>
    advance
    return { stretch, char }

def dashes (start : Position) (g : Gathered) : (fuel : Nat) → Reading Gathered
  | 0 => return g
  | fuel + 1 => do
    if (← rest).head? ≠ some '-' then return g
    let dash ← verbatim
    skip
    if (← rest).isEmpty then fail start start .bracketUnclosed
    dashes start (g.add (.letter dash)) fuel

/-- An opening bracket with what may stand right after it: a sign of negation,
then dashes, or else a closing bracket that closes nothing. -/
def openBracket (beside : Gathered) : Reading (Open × Gathered) := do
  let start ← position
  let unfinished : Reading Unit := do
    if (← rest).isEmpty then failSince start .bracketUnclosed
  advanceSkip
  unfinished
  let negated := (← rest).head? == some '^'
  if negated then
    advanceSkip
    unfinished
  let mut g ← dashes start (.none (← position)) (← rest).length
  if g.parts.isEmpty && (← rest).head? == some ']' then
    g := g.add (.letter (← verbatim))
    skip
    unfinished
  return (.bracket beside ⟨start, ← position⟩ negated, g)

def bracketPrimitive : Reading Primitive := do
  if (← rest).head? = some '\\' then escape else return .letter (← verbatim)

def aloneInBracket : Primitive → Reading Chars
  | .letter l => return .letter l
  | .kind s negated k => return .kind s negated k
  | .property s negated name => return .property s negated name
  | .anchor s _ => fail s.start s.stop .bracketEscape

def bound : Primitive → Reading Letter
  | .letter l => return l
  | p => fail p.stretch.start p.stretch.stop .bracketBound

def bracketPart (around : List Open) : Reading Chars := do
  let low ← bracketPrimitive
  skip
  match ← rest with
  | [] => failUnclosed around
  | '-' :: _ =>
    let next := (← get).afterFirst
    if next = some ']' ∨ next = some '-' then aloneInBracket low
    else
      advanceSkip
      if (← rest).isEmpty then failUnclosed around
      let high ← bracketPrimitive
      let stretch : Stretch := ⟨low.stretch.start, high.stretch.stop⟩
      let low ← bound low
      let high ← bound high
      if high.char < low.char then fail stretch.start stretch.stop .bracketRange
      return .range stretch low high
  | _ => aloneInBracket low

def bracketRest : (fuel : Nat) → Gathered → List Open → Reading Form
  | 0, _, around => failUnclosed around
  | fuel + 1, g, around => do
    skip
    let text ← rest
    match text, namedSet? text, operator? text with
    | [], _, _ => failUnclosed around
    | '[' :: _, some (set, negated, length), _ =>
      let start ← position
      modify fun c => length.repeat Cursor.advance c
      bracketRest fuel (g.add (.named ⟨start, ← position⟩ negated set)) around
    | '[' :: _, none, _ =>
      let (bracket, g) ← openBracket g
      bracketRest fuel g (bracket :: around)
    | ']' :: _, _, _ =>
      let (inside, around) := closeOperator g.whole around
      advance
      match around with
      | .bracket beside stretch negated :: around =>
        let stretch : Stretch := ⟨stretch.start, ← position⟩
        if around.isEmpty then return .bracket stretch negated inside
        bracketRest fuel (beside.add (.bracket stretch negated inside)) around
      | _ => failUnclosed around
    | _, _, some operator =>
      advance
      advance
      let (left, around) := closeOperator g.whole around
      bracketRest fuel (.none (← position)) (.operator operator left :: around)
    | _, _, none => bracketRest fuel (g.add (← bracketPart around)) around

def bracket : Reading Form := do
  let (bracket, g) ← openBracket (.none (← position))
  bracketRest ((← rest).length + 1) g [bracket]

end Reading

end DriveBench.Log.Pattern
