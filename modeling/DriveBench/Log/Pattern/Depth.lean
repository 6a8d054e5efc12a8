import DriveBench.Log.Pattern.Form

/-!
# How deep a pattern nests

Brackets, repetitions, groups, sequences and choices nest. Of the parts that are
nested too deep the first is found, from without and from the left.
-/

namespace DriveBench.Log.Pattern

def nested (stretch : Stretch) (inside : Nat → Option Stretch) : Nat → Option Stretch
  | 0 => some stretch
  | levels + 1 => inside levels

mutual

def Chars.tooDeep? (levels : Nat) : Chars → Option Stretch
  | .bracket s _ inside => nested s (fun levels => inside.tooDeep? levels) levels
  | .union s parts => nested s (fun levels => Chars.tooDeepAmong? levels parts) levels
  | .operation s _ left right =>
    nested s (fun levels => (left.tooDeep? levels).or (right.tooDeep? levels)) levels
  | _ => none

def Chars.tooDeepAmong? (levels : Nat) : List Chars → Option Stretch
  | [] => none
  | part :: rest => (part.tooDeep? levels).or (Chars.tooDeepAmong? levels rest)

end

mutual

def Form.tooDeep? (levels : Nat) : Form → Option Stretch
  | .bracket s _ inside => nested s (fun levels => inside.tooDeep? levels) levels
  | .many s part _ _ => nested s (fun levels => part.tooDeep? levels) levels
  | .group s _ _ part => nested s (fun levels => part.tooDeep? levels) levels
  | .sequence s parts => nested s (fun levels => Form.tooDeepAmong? levels parts) levels
  | .choice s parts => nested s (fun levels => Form.tooDeepAmong? levels parts) levels
  | _ => none

def Form.tooDeepAmong? (levels : Nat) : List Form → Option Stretch
  | [] => none
  | part :: rest => (part.tooDeep? levels).or (Form.tooDeepAmong? levels rest)

end

end DriveBench.Log.Pattern
