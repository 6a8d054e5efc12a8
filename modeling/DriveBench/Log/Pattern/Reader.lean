import DriveBench.Log.Pattern.Brackets
import DriveBench.Log.Pattern.Depth
import DriveBench.Text.Letter

/-!
# Reading a pattern

The written form of a pattern, from left to right. Each open group is kept with
the alternatives it has so far, the last of them in parts.
-/

namespace DriveBench.Log.Pattern

structure Level where
  opening : Stretch
  remembers : Bool
  changes : List FlagChange
  spacedOutside : Bool
  start : Position
  branches : List Form
  branchStart : Position
  parts : List Form

namespace Level

def add (l : Level) (part : Form) : Level := { l with parts := part :: l.parts }

def branch (l : Level) (here : Position) : Form :=
  match l.parts with
  | [] => .nothing ⟨l.branchStart, here⟩
  | [only] => only
  | parts => .sequence ⟨l.branchStart, here⟩ parts.reverse

def divide (l : Level) (sign : Stretch) : Level :=
  { l with branches := l.branch sign.start :: l.branches, branchStart := sign.stop, parts := [] }

def form (l : Level) (here : Position) : Form :=
  match l.branches with
  | [] => l.branch here
  | branches => .choice ⟨l.start, here⟩ (branches.reverse ++ [l.branch here])

end Level

/-- What is open: the innermost level, those around it, and the names of groups
so far. -/
structure Levels where
  inner : Level
  outer : List Level
  names : List (String × Stretch)

namespace Levels

def begin : Levels :=
  ⟨⟨⟨.begin, .begin⟩, false, [], false, .begin, [], .begin, []⟩, [], []⟩

def add (ls : Levels) (part : Form) : Levels := { ls with inner := ls.inner.add part }

end Levels

def flagLetters : List (Char × Flag) :=
  [('i', .anyCase), ('m', .lineAnchors), ('s', .dotAll), ('U', .swapGreed), ('u', .alphabets),
    ('R', .returns), ('x', .spaced)]

inductive Opened
  | flags (stretch : Stretch) (changes : List FlagChange)
  | group (opening : Stretch) (remembers : Bool) (changes : List FlagChange)
      (name : Option (String × Stretch))

namespace Reading

def groupNameRest (first : Bool) : (fuel : Nat) → Reading (List Char)
  | 0 => return []
  | fuel + 1 => do
    match ← rest with
    | [] => failHere .nameUnclosed
    | '>' :: _ => return []
    | c :: _ =>
      let fits := c == '_' || Letter.isAlphabetic c ||
        !first && (c == '.' || c == '[' || c == ']' || Letter.isNumeric c)
      if !fits then failAhead .nameInvalid
      advance
      return c :: (← groupNameRest false fuel)

def groupName (names : List (String × Stretch)) : Reading (String × Stretch) := do
  let start ← position
  let name ← groupNameRest true ((← rest).length + 1)
  let stretch : Stretch := ⟨start, ← position⟩
  advance
  if name.isEmpty then fail start start .nameEmpty
  let name := String.ofList name
  match names.lookup name with
  | some earlier => throw ⟨stretch, some earlier, .nameTwice⟩
  | none => return (name, stretch)

/-- Flags up to a colon or a closing parenthesis, last first, without a flag for
the sign that negates those after it. -/
def flagItems (seen : List (Option Flag × Stretch)) :
    (fuel : Nat) → Reading (List (Option Flag × Stretch))
  | 0 => return seen
  | fuel + 1 => do
    let here ← ahead
    match ← rest with
    | [] => failHere .flagsUnfinished
    | c :: _ =>
      if c = ':' ∨ c = ')' then return seen
      let flag ← if c = '-' then pure none else
        match flagLetters.lookup c with
        | some flag => pure (some flag)
        | none => failAhead .flagUnknown
      match seen.lookup flag with
      | some earlier =>
        throw ⟨here, some earlier, if flag.isNone then .negationTwice else .flagTwice⟩
      | none =>
        advance
        flagItems ((flag, here) :: seen) fuel

def flagChanges : Reading (List FlagChange) := do
  let items ← flagItems [] ((← rest).length + 1)
  match items with
  | (none, dash) :: _ => fail dash.start dash.stop .flagsDangling
  | _ =>
    let items := items.reverse.map (·.1)
    let set := items.takeWhile (·.isSome)
    return set.filterMap (·.map (·, true)) ++
      (items.drop set.length).filterMap (·.map (·, false))

def skipAny (texts : List String) : Reading Bool := do
  let ahead ← rest
  match texts.find? fun text => text.toList.isPrefixOf ahead with
  | none => return false
  | some text =>
    modify fun c => text.length.repeat Cursor.advance c
    return true

def openGroup (names : List (String × Stretch)) : Reading Opened := do
  let opening ← ahead
  advance
  skip
  if ← skipAny ["?=", "?!", "?<=", "?<!"] then failSince opening.start .lookAround
  let inside ← position
  if ← skipAny ["?P<", "?<"] then return .group opening true [] (some (← groupName names))
  if !(← skipAny ["?"]) then return .group opening true [] none
  if (← rest).isEmpty then fail opening.start opening.stop .groupUnclosed
  let changes ← flagChanges
  let isGroup := (← rest).head? == some ':'
  advance
  if isGroup then return .group opening false changes none
  if changes.isEmpty then fail inside inside .nothingToRepeat
  return .flags ⟨opening.start, ← position⟩ changes

def openLevel (ls : Levels) : Reading Levels := do
  let spacedBy (changes : List FlagChange) (c : Cursor) : Cursor :=
    { c with spaced := (changes.lookup .spaced).getD c.spaced }
  match ← openGroup ls.names with
  | .flags stretch changes =>
    modify (spacedBy changes)
    return ls.add (.flags stretch changes)
  | .group opening remembers changes name =>
    let here ← position
    let level : Level :=
      ⟨opening, remembers, changes, (← get).spaced, here, [], here, []⟩
    modify (spacedBy changes)
    return ⟨level, ls.inner :: ls.outer, name.toList ++ ls.names⟩

def closeLevel (ls : Levels) : Reading Levels := do
  match ls.outer with
  | [] => failAhead .groupUnopened
  | parent :: outer =>
    let level := ls.inner
    let inside := level.form (← position)
    modify fun c => { c with spaced := level.spacedOutside }
    advance
    let stretch : Stretch := ⟨level.opening.start, ← position⟩
    return { ls with
      inner := parent.add (.group stretch level.remembers level.changes inside)
      outer }

def partToRepeat (l : Level) : Reading (Form × Level) := do
  match l.parts with
  | [] | .flags .. :: _ | .nothing _ :: _ => failHere .nothingToRepeat
  | part :: parts => return (part, { l with parts })

/-- The last part repeated by what ends here. A question mark behind it changes
nothing in a search. -/
def addRepeated (ls : Levels) (part : Form) (inner : Level) (low : Nat) (high : Option Nat) :
    Reading Levels := do
  let stretch : Stretch := ⟨part.stretch.start, ← position⟩
  return { ls with inner := inner.add (.many stretch part low high) }

def skipLazy : Reading Unit := do
  let _ ← skipAny ["?"]

def repeatBySign (ls : Levels) (low : Nat) (high : Option Nat) : Reading Levels := do
  let (part, inner) ← partToRepeat ls.inner
  advance
  skipLazy
  addRepeated ls part inner low high

def decimal : Reading (Except Mistake Nat) := do
  let _ ← takeWhile Blank.isChar
  let start ← position
  let digits ← takeWhile Char.isDigit
  let stretch : Stretch := ⟨start, ← position⟩
  let _ ← takeWhile Blank.isChar
  let value := digits.foldl (fun n c => 10 * n + (c.toNat - '0'.toNat)) 0
  return if digits.isEmpty then .error ⟨stretch, none, .countMissing⟩
    else if value < UInt32.size then .ok value
    else .error ⟨stretch, none, .decimalInvalid⟩

/-- The counts of a repetition, the opening brace of which is next. What is wrong
with the first matters only when it is known whether there is a second. -/
def counts : Reading (Nat × Option Nat) := do
  let start ← position
  let unfinished : Reading Unit := do
    if (← rest).isEmpty then failSince start .countUnclosed
  advanceSkip
  unfinished
  let low ← decimal
  unfinished
  let (low, high) ← if (← rest).head? = some ',' then do
      advanceSkip
      unfinished
      if (← rest).head? = some '\x7D' then pure (← low, none)
      else
        let low ← low
        pure (low, some (← (← decimal)))
    else do
      let low ← low
      pure (low, some low)
  if (← rest).head? ≠ some '\x7D' then failSince start .countUnclosed
  advanceSkip
  skipLazy
  if high.any (· < low) then failSince start .countsOrder
  return (low, high)

def repeatByCounts (ls : Levels) : Reading Levels := do
  let (part, inner) ← partToRepeat ls.inner
  let (low, high) ← counts
  addRepeated ls part inner low high

def step (ls : Levels) (c : Char) : Reading Levels := do
  let here ← ahead
  match c with
  | '(' => openLevel ls
  | ')' => closeLevel ls
  | '|' =>
    advance
    return { ls with inner := ls.inner.divide here }
  | '[' => return ls.add (← bracket)
  | '?' => repeatBySign ls 0 (some 1)
  | '*' => repeatBySign ls 0 none
  | '+' => repeatBySign ls 1 none
  | '\x7B' => repeatByCounts ls
  | '\\' => return ls.add (← escape).form
  | c =>
    advance
    return ls.add <| match c with
      | '.' => .dot here
      | '^' => .anchor here .lineStart
      | '$' => .anchor here .lineEnd
      | char => .letter { stretch := here, char }

def steps : (fuel : Nat) → Levels → Reading Levels
  | 0, ls => return ls
  | fuel + 1, ls => do
    skip
    match ← rest with
    | [] => return ls
    | c :: _ => steps fuel (← step ls c)

def form : Reading Form := do
  let ls ← steps ((← rest).length + 1) .begin
  match ls.outer with
  | _ :: _ =>
    let opening := ls.inner.opening
    fail opening.start opening.stop .groupUnclosed
  | [] =>
    let form := ls.inner.form (← position)
    match form.tooDeep? deepest with
    | some s => fail s.start s.stop .tooDeep
    | none => return form

end Reading

def Form.ofText (text : String) : Except Mistake Form :=
  Reading.form.run' (.ofText text.toList)

end DriveBench.Log.Pattern
