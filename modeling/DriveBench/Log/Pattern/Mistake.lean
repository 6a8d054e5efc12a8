import DriveBench.Text.Pieces

/-!
# Mistakes in a written pattern

Where in the text a mistake is, what it is, and how it is shown: the lines of
the pattern, each with marks under what is wrong in it.
-/

namespace DriveBench.Log.Pattern

structure Position where
  offset : Nat
  line : Nat
  column : Nat
  deriving DecidableEq, Repr

namespace Position

def begin : Position := ⟨0, 1, 1⟩

def after (p : Position) (c : Char) : Position :=
  if c = '\n' then ⟨p.offset + 1, p.line + 1, 1⟩ else ⟨p.offset + 1, p.line, p.column + 1⟩

end Position

structure Stretch where
  start : Position
  stop : Position
  deriving DecidableEq, Repr

def deepest : Nat := 250

inductive Cause
  | bracketEscape
  | bracketRange
  | bracketBound
  | bracketUnclosed
  | decimalInvalid
  | hexEmpty
  | hexInvalid
  | hexDigit
  | escapeUnfinished
  | escapeUnknown
  | flagsDangling
  | flagTwice
  | negationTwice
  | flagsUnfinished
  | flagUnknown
  | nameTwice
  | nameEmpty
  | nameInvalid
  | nameUnclosed
  | groupUnclosed
  | groupUnopened
  | tooDeep
  | countsOrder
  | countMissing
  | countUnclosed
  | nothingToRepeat
  | edgeUnclosed
  | edgeUnknown
  | edgeUnfinished
  | propertyInvalid
  | backreference
  | lookAround
  | alphabetsNotAllowed
  | notText
  | propertyUnknown
  | propertyValueUnknown
  | alphabetsUnknown
  | casesUnknown
  deriving DecidableEq, Repr

def Cause.message : Cause → String
  | bracketEscape => "invalid escape sequence found in character class"
  | bracketRange => "invalid character class range, the start must be <= the end"
  | bracketBound => "invalid range boundary, must be a literal"
  | bracketUnclosed => "unclosed character class"
  | decimalInvalid => "decimal literal invalid"
  | hexEmpty => "hexadecimal literal empty"
  | hexInvalid => "hexadecimal literal is not a Unicode scalar value"
  | hexDigit => "invalid hexadecimal digit"
  | escapeUnfinished => "incomplete escape sequence, reached end of pattern prematurely"
  | escapeUnknown => "unrecognized escape sequence"
  | flagsDangling => "dangling flag negation operator"
  | flagTwice => "duplicate flag"
  | negationTwice => "flag negation operator repeated"
  | flagsUnfinished => "expected flag but got end of regex"
  | flagUnknown => "unrecognized flag"
  | nameTwice => "duplicate capture group name"
  | nameEmpty => "empty capture group name"
  | nameInvalid => "invalid capture group character"
  | nameUnclosed => "unclosed capture group name"
  | groupUnclosed => "unclosed group"
  | groupUnopened => "unopened group"
  | tooDeep => s!"exceed the maximum number of nested parentheses/brackets ({deepest})"
  | countsOrder => "invalid repetition count range, the start must be <= the end"
  | countMissing => "repetition quantifier expects a valid decimal"
  | countUnclosed => "unclosed counted repetition"
  | nothingToRepeat => "repetition operator missing expression"
  | edgeUnclosed =>
    "special word boundary assertion is either unclosed or contains an invalid character"
  | edgeUnknown =>
    "unrecognized special word boundary assertion, valid choices are: " ++
      "start, end, start-half or end-half"
  | edgeUnfinished =>
    "found either the beginning of a special word boundary or a bounded repetition on a \\b " ++
      "with an opening brace, but no closing brace"
  | propertyInvalid => "invalid Unicode character class"
  | backreference => "backreferences are not supported"
  | lookAround => "look-around, including look-ahead and look-behind, is not supported"
  | alphabetsNotAllowed => "Unicode not allowed here"
  | notText => "pattern can match invalid UTF-8"
  | propertyUnknown => "Unicode property not found"
  | propertyValueUnknown => "Unicode property value not found"
  | alphabetsUnknown =>
    "Unicode-aware Perl class not found (make sure the unicode-perl feature is enabled)"
  | casesUnknown =>
    "Unicode-aware case insensitivity matching is not available " ++
      "(make sure the unicode-case feature is enabled)"

/-- What is wrong, and where; in the second place too, if that is the same again. -/
structure Mistake where
  stretch : Stretch
  second : Option Stretch
  cause : Cause
  deriving DecidableEq, Repr

namespace Mistake

def repeatChar (c : Char) (count : Nat) : String := String.ofList (List.replicate count c)

def lines (text : String) : List (List Char) :=
  let all := pieces '\n' text.toList
  let whole := all.dropLast.map fun line =>
    if line.getLast? = some '\r' then line.dropLast else line
  whole ++ (all.getLast?.filter (!·.isEmpty)).toList

/-- Marks under the columns of some stretches of a line, of which `column` is
the first not yet written. A stretch of no columns has a mark. -/
def marks (column : Nat) : List Stretch → String
  | [] => ""
  | s :: rest =>
    let length := max 1 (s.stop.column - s.start.column)
    repeatChar ' ' (s.start.column - column) ++ repeatChar '^' length ++
      marks (max s.start.column column + length) rest

def stretches (m : Mistake) : List Stretch :=
  match m.second with
  | none => [m.stretch]
  | some s => if s.start.offset < m.stretch.start.offset then [s, m.stretch] else [m.stretch, s]

def markedLine (m : Mistake) (number : Nat) (margin line : String) : String :=
  match m.stretches.filter fun s => s.start.line = number ∧ s.stop.line = number with
  | [] => s!"{margin}{line}\n"
  | found => s!"{margin}{line}\n" ++ repeatChar ' ' margin.length ++ marks 1 found ++ "\n"

def acrossLines (s : Stretch) : String :=
  s!"on line {s.start.line} (column {s.start.column}) " ++
    s!"through line {s.stop.line} (column {s.stop.column - 1})\n"

def message (m : Mistake) (pattern : String) : String :=
  let several := pattern.toList.contains '\n'
  let lines := lines pattern
  let count := lines.length + if pattern.toList.getLast? = some '\n' then 1 else 0
  let width := (toString count).length
  let margin (number : Nat) : String :=
    if several then
      let number := toString number
      repeatChar ' ' (width - number.length) ++ number ++ ": "
    else "    "
  let text := String.join <| lines.mapIdx fun i line =>
    m.markedLine (i + 1) (margin (i + 1)) (String.ofList line)
  if several then
    let divider := repeatChar '~' 79 ++ "\n"
    let across := (m.stretches.filter fun s => s.start.line ≠ s.stop.line).map acrossLines
    s!"regex parse error:\n{divider}{text}{divider}{String.join across}error: {m.cause.message}"
  else s!"regex parse error:\n{text}error: {m.cause.message}"

end Mistake

end DriveBench.Log.Pattern
