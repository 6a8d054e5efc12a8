import DriveBench.Log.Pattern.Cursor
import DriveBench.Log.Pattern.Form

/-!
# Escapes

What a backslash begins: a character that would mean something else, or one by
its number, a kind of characters or those with a property, or something asked
of a place.
-/

namespace DriveBench.Log.Pattern

inductive Primitive
  | letter (letter : Letter)
  | anchor (stretch : Stretch) (anchor : Anchor)
  | kind (stretch : Stretch) (negated : Bool) (kind : Kind)
  | property (stretch : Stretch) (negated : Bool) (name : String)

namespace Primitive

def stretch : Primitive → Stretch
  | letter l => l.stretch
  | anchor s _ | kind s .. | property s .. => s

def form : Primitive → Form
  | letter l => .letter l
  | anchor s a => .anchor s a
  | kind s negated k => .kind s negated k
  | property s negated name => .property s negated name

end Primitive

def hexValue? (c : Char) : Option Nat :=
  if c.isDigit then some (c.toNat - '0'.toNat)
  else if 'a' ≤ c.toLower ∧ c.toLower ≤ 'f' then some (c.toLower.toNat - 'a'.toNat + 10)
  else none

def isMeta (c : Char) : Bool := "\\.+*?()|[]\x7B\x7D^$#&-~".toList.contains c

/-- Characters that an escape leaves as they are: all of ASCII that may come to
mean something, and no letters or digits, which may come to mean something
escaped. -/
def isEscapable (c : Char) : Bool :=
  isMeta c || c.toNat < 0x80 && !c.isAlphanum && c != '<' && c != '>'

def lettered : List (Char × Char) :=
  [('a', '\x07'), ('f', '\x0C'), ('t', '\t'), ('n', '\n'), ('r', '\r'), ('v', '\x0B')]

def anchors : List (Char × Anchor) :=
  [('A', .textStart), ('z', .textEnd), ('b', .word .change), ('B', .word .same),
    ('<', .word .start), ('>', .word .finish)]

def edges : List (String × WordEdge) :=
  [("start", .start), ("end", .finish), ("start-half", .startHalf), ("end-half", .finishHalf)]

def kinds : List (Char × Bool × Kind) :=
  [('d', false, .digit), ('D', true, .digit), ('s', false, .blank), ('S', true, .blank),
    ('w', false, .word), ('W', true, .word)]

namespace Reading

def character (start stop : Position) (code : Nat) : Reading Char :=
  if code.isValidChar then return Char.ofNat code else fail start stop .hexInvalid

def hexDigits : (count value : Nat) → Reading Nat
  | 0, value => return value
  | count + 1, value => do
    match ← rest with
    | [] => failHere .escapeUnfinished
    | c :: _ => match hexValue? c with
      | none => failAhead .hexDigit
      | some digit =>
        advanceSkip
        hexDigits count (value * 16 + digit)

def hexInBraces : Reading Char := do
  let brace ← position
  advance
  let start ← position
  skip
  let digits ← takeWhile fun c => (hexValue? c).isSome
  let stop ← position
  match ← rest with
  | [] => failSince brace .escapeUnfinished
  | '\x7D' :: _ =>
    advanceSkip
    if digits.isEmpty then failSince brace .hexEmpty
    else character start stop ((digits.filterMap hexValue?).foldl (16 * · + ·) 0)
  | _ => failAhead .hexDigit

/-- A character by its number after one of the letters for that, which tell the
number of digits. -/
def hexadecimal (start : Position) (letter : Char) : Reading Letter := do
  advanceSkip
  let (char, isByte) ← match ← rest with
    | '\x7B' :: _ => pure (← hexInBraces, false)
    | _ =>
      let first ← position
      let code ← hexDigits (if letter = 'x' then 2 else if letter = 'u' then 4 else 8) 0
      pure (← character first (← position) code, letter == 'x')
  return { stretch := ⟨start, ← position⟩, char, isByte }

def propertyName : Reading String := do
  advanceSkip
  match ← rest with
  | [] => failHere .escapeUnfinished
  | '\x7B' :: _ =>
    advanceSkip
    let name ← takeWhile (· != '\x7D')
    if (← rest).isEmpty then failHere .escapeUnfinished
    advance
    return String.ofList name
  | c :: _ =>
    if c = '\\' then failAhead .propertyInvalid
    advanceSkip
    return String.singleton c

/-- The edge of a word that is named in braces. What begins like a number there
is none. -/
def namedEdge? (start : Position) : Reading (Option WordEdge) := do
  let before ← get
  let isNamed (c : Char) : Bool := c.isAlpha || c == '-'
  advanceSkip
  match ← rest with
  | [] => failSince start .edgeUnfinished
  | c :: _ =>
    if !isNamed c then
      set before
      return none
    let first ← position
    let name ← takeWhile isNamed
    let stop ← position
    if (← rest).head? ≠ some '\x7D' then fail before.position stop .edgeUnclosed
    advance
    match edges.lookup (String.ofList name) with
    | none => fail first stop .edgeUnknown
    | some edge => return some edge

def escape : Reading Primitive := do
  let start ← position
  advance
  match ← rest with
  | [] => failSince start .escapeUnfinished
  | c :: _ =>
    if c.isDigit then fail start (← ahead).stop .backreference
    if c = 'x' ∨ c = 'u' ∨ c = 'U' then return .letter (← hexadecimal start c)
    if c = 'p' ∨ c = 'P' then
      let name ← propertyName
      return .property ⟨start, ← position⟩ (c = 'P') name
    advance
    let stretch : Stretch := ⟨start, ← position⟩
    if isEscapable c then return .letter { stretch, char := c }
    match kinds.lookup c, lettered.lookup c, anchors.lookup c with
    | some (negated, kind), _, _ => return .kind stretch negated kind
    | _, some char, _ => return .letter { stretch, char }
    | _, _, some anchor =>
      if c = 'b' ∧ (← rest).head? = some '\x7B' then
        match ← namedEdge? start with
        | some edge => return .anchor ⟨start, ← position⟩ (.word edge)
        | none => return .anchor stretch anchor
      return .anchor stretch anchor
    | _, _, _ => failSince start .escapeUnknown

end Reading

end DriveBench.Log.Pattern
