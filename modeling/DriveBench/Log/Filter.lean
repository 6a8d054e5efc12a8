import DriveBench.Log
import DriveBench.Log.Pattern.Refusal
import DriveBench.Log.Pattern.Search
import DriveBench.Text.Blank
import DriveBench.Text.Pieces

/-!
# Filters for messages

A filter is directives between commas, each a level, a name, or both with an
equals sign between; of those whose name the source of a message begins with,
the longest decides. After a slash there may be a pattern. What makes no sense
is left out.
-/

namespace DriveBench.Log

/-- What passes from the sources that a name fits: messages up to a rank, none
at rank 0. -/
structure Directive where
  name : Option String
  rank : Nat
  deriving DecidableEq, Repr

namespace Directive

def everything : Nat := Level.trace.rank

def rank? (word : String) : Option Nat :=
  [("OFF", 0), ("ERROR", 1), ("WARN", 2), ("INFO", 3), ("DEBUG", 4), ("TRACE", 5)].lookup
    (word.map Char.toUpper)

def fits (d : Directive) (source : String) : Bool :=
  d.name.all fun name => name.toList.isPrefixOf source.toList

def weight (d : Directive) : Nat := d.name.elim 0 String.utf8ByteSize

def parse (text : List Char) : Except String Directive :=
  match pieces '=' text with
  | [only] =>
    match rank? (trimText (String.ofList only)) with
    | some rank => .ok ⟨none, rank⟩
    | none => .ok ⟨some (String.ofList only), everything⟩
  | [name, level] =>
    let level := trimText (String.ofList level)
    if level.isEmpty then .ok ⟨some (String.ofList name), everything⟩
    else match rank? level with
      | some rank => .ok ⟨some (String.ofList name), rank⟩
      | none => .error level
  | _ => .error (String.ofList text)

end Directive

structure Filter where
  directives : List Directive
  pattern : Option Pattern
  deriving Repr

inductive Complaint
  | slashes (text : String)
  | directive (part : String)
  | pattern (text : String) (refusal : Pattern.Refusal)
  deriving DecidableEq, Repr

def Complaint.message : Complaint → String
  | slashes text => s!"invalid logging spec '{text}' (too many '/'s)"
  | directive part => s!"invalid logging spec '{part}'"
  | pattern text refusal => s!"invalid regex filter - {refusal.message text}"

namespace Filter

/-- A directive among others; it takes the place of one of the same name. -/
def insert (d : Directive) (all : List Directive) : List Directive :=
  if all.any (·.name == d.name) then all.map fun e => if e.name == d.name then d else e
  else all ++ [d]

def parseDirectives (text : List Char) : List Directive × List Complaint :=
  let parts := ((pieces ',' text).map (trimEnds Blank.isChar)).filter (!·.isEmpty)
  parts.foldl (fun (all, left) part =>
    match Directive.parse part with
    | .ok d => (insert d all, left)
    | .error part => (all, left ++ [.directive part])) ([], [])

/-- Directives in the order of their weight. Without any, errors pass. -/
def ofDirectives (all : List Directive) (pattern : Option Pattern) : Filter :=
  let all := if all.isEmpty then [⟨none, Level.error.rank⟩] else all
  ⟨all.mergeSort fun a b => a.weight ≤ b.weight, pattern⟩

def parse (text : String) : Filter × List Complaint :=
  match pieces '/' text.toList with
  | [] => (ofDirectives [] none, [])
  | [names] =>
    let (all, left) := parseDirectives names
    (ofDirectives all none, left)
  | [names, pattern] =>
    let (all, left) := parseDirectives names
    let pattern := String.ofList pattern
    match Pattern.ofText pattern with
    | .ok p => (ofDirectives all (some p), left)
    | .error refusal => (ofDirectives all none, left ++ [.pattern pattern refusal])
  | _ => (ofDirectives [] none, [.slashes text])

/-- Whether the level of a message passes. Without a directive that fits, none
does. -/
def admits (f : Filter) (m : Message) : Bool :=
  match f.directives.reverse.find? (·.fits m.source.name) with
  | some d => m.level.rank ≤ d.rank
  | none => false

def passes (f : Filter) (m : Message) : Bool := f.admits m && f.pattern.all (·.isIn m.text)

end Filter

end DriveBench.Log
