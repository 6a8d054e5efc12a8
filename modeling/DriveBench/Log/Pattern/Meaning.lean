import DriveBench.Log.Pattern.Form

/-!
# What a written pattern means

Flags are set from the left, and those set in a group end with it. A pattern is
meant for all alphabets unless a flag says otherwise, but only kinds and cases
in ASCII are known here, so others make no sense.
-/

namespace DriveBench.Log.Pattern

structure Flags where
  anyCase : Bool := false
  lineAnchors : Bool := false
  dotAll : Bool := false
  alphabets : Bool := true
  returns : Bool := false
  deriving DecidableEq, Repr

namespace Flags

def set (flags : Flags) : FlagChange → Flags
  | (.anyCase, value) => { flags with anyCase := value }
  | (.lineAnchors, value) => { flags with lineAnchors := value }
  | (.dotAll, value) => { flags with dotAll := value }
  | (.alphabets, value) => { flags with alphabets := value }
  | (.returns, value) => { flags with returns := value }
  | (.swapGreed, _) | (.spaced, _) => flags

def change (flags : Flags) (changes : List FlagChange) : Flags := changes.foldl set flags

end Flags

def wrong (stretch : Stretch) (cause : Cause) : Except Mistake α :=
  .error ⟨stretch, none, cause⟩

namespace Kind

def set : Kind → CharSet
  | digit => digits
  | blank => .union (.range 9 13) (.single ' ')
  | word => .unions [digits, .range 65 90, .range 97 122, .single '_']
where
  digits : CharSet := .range '0'.toNat '9'.toNat

def mean (flags : Flags) (stretch : Stretch) (negated : Bool) (kind : Kind) :
    Except Mistake CharSet :=
  if flags.alphabets then wrong stretch .alphabetsUnknown
  else if negated then wrong stretch .notText
  else .ok kind.set

end Kind

namespace Property

/-- A name without case, blanks, lines, dashes, what is not ASCII, and a leading
"is". What is left of "isc" is that itself. -/
def plainName (name : String) : String :=
  let (is, rest) := match name.toList with
    | i :: s :: rest =>
      if i.toLower = 'i' ∧ s.toLower = 's' then (true, rest) else (false, i :: s :: rest)
    | rest => (false, rest)
  let rest := (rest.filter fun c => c.toNat < 0x80 && !(c == ' ' || c == '_' || c == '-')).map
    Char.toLower
  if is && rest == ['c'] then "isc" else String.ofList rest

def unknown (name : String) : Cause :=
  if name.toList.any (fun c => c == '=' || c == ':') then .propertyUnknown
  else if ["cf", "sc", "lc"].contains (plainName name) then .propertyValueUnknown
  else .propertyUnknown

def mean (flags : Flags) (stretch : Stretch) (name : String) : Except Mistake CharSet :=
  wrong stretch (if flags.alphabets then unknown name else .alphabetsNotAllowed)

end Property

namespace Letter

def mean (flags : Flags) (l : Letter) : Except Mistake Char :=
  if !flags.alphabets && l.isByte && 0x80 ≤ l.char.toNat then wrong l.stretch .notText
  else .ok l.char

def meanInside (flags : Flags) (l : Letter) : Except Mistake Nat := do
  let c ← l.mean flags
  if !flags.alphabets && 0x80 ≤ c.toNat then wrong l.stretch .alphabetsNotAllowed
  else .ok c.toNat

def meanAlone (flags : Flags) (l : Letter) : Except Mistake CharSet := do
  let c ← l.mean flags
  if !flags.anyCase then .ok (.single c)
  else if flags.alphabets then wrong l.stretch .casesUnknown
  else .ok (.anyCase (.single c))

end Letter

namespace Chars

def isLetter : Chars → Bool
  | letter _ | range .. => true
  | _ => false

/-- Whether letters stand here, be it side by side, and not only further in. -/
def hasLetters : Chars → Bool
  | union _ parts => parts.any isLetter
  | c => c.isLetter

def withCases (flags : Flags) (stretch : Stretch) (letters : Bool) (set : CharSet) :
    Except Mistake CharSet :=
  if !flags.anyCase then .ok set
  else if !flags.alphabets then .ok (.anyCase set)
  else if letters then wrong stretch .casesUnknown
  else .ok set

def close (flags : Flags) (stretch : Stretch) (letters negated : Bool) (set : CharSet) :
    Except Mistake CharSet := do
  let set ← withCases flags stretch letters set
  if !negated then .ok set
  else if flags.alphabets then .ok (.complement set)
  else wrong stretch .notText

def operate : SetOperator → CharSet → CharSet → CharSet
  | .both => .both
  | .without => .without
  | .either => .either

mutual

def mean (flags : Flags) : Chars → Except Mistake CharSet
  | nothing _ => .ok .empty
  | letter l => return .range (← l.meanInside flags) (← l.meanInside flags)
  | range _ low high => return .range (← low.meanInside flags) (← high.meanInside flags)
  | named stretch negated set => close flags stretch true negated set
  | kind stretch negated k => k.mean flags stretch negated
  | property stretch _ name => Property.mean flags stretch name
  | bracket stretch negated inside => do
    close flags stretch inside.hasLetters negated (← inside.mean flags)
  | union _ parts => return .unions (← meanAll flags parts)
  | operation _ operator left right => do
    let leftSet ← left.mean flags
    let rightSet ← right.mean flags
    let rightSet ← withCases flags right.stretch right.hasLetters rightSet
    let leftSet ← withCases flags left.stretch left.hasLetters leftSet
    return operate operator leftSet rightSet

def meanAll (flags : Flags) : List Chars → Except Mistake (List CharSet)
  | [] => .ok []
  | part :: rest => return (← part.mean flags) :: (← meanAll flags rest)

end

end Chars

def Anchor.mean (flags : Flags) : Anchor → Place
  | lineStart => if flags.lineAnchors then .lineStart flags.returns else .textStart
  | lineEnd => if flags.lineAnchors then .lineEnd flags.returns else .textEnd
  | textStart => .textStart
  | textEnd => .textEnd
  | word edge => .word edge (!flags.alphabets)

def meanDot (flags : Flags) (stretch : Stretch) : Except Mistake CharSet :=
  if !flags.alphabets then wrong stretch .notText
  else if flags.dotAll then .ok (.complement .empty)
  else if flags.returns then .ok (.complement (.union (.single '\n') (.single '\r')))
  else .ok (.complement (.single '\n'))

namespace Form

mutual

def mean (flags : Flags) : Form → Except Mistake (Pattern × Flags)
  | nothing _ => .ok (.nothing, flags)
  | .flags _ changes => .ok (.nothing, flags.change changes)
  | letter l => return (.one (← l.meanAlone flags), flags)
  | dot stretch => return (.one (← meanDot flags stretch), flags)
  | anchor _ a => .ok (.place (a.mean flags), flags)
  | kind stretch negated k => return (.one (← k.mean flags stretch negated), flags)
  | property stretch _ name => return (.one (← Property.mean flags stretch name), flags)
  | bracket stretch negated inside => do
    let set ← inside.mean flags
    return (.one (← Chars.close flags stretch inside.hasLetters negated set), flags)
  | many _ part low high => do
    let (p, after) ← part.mean flags
    return (p.repeated low high, after)
  | group _ remembers changes part => do
    let (p, _) ← part.mean (flags.change changes)
    return (if remembers then .group p else p, flags)
  | sequence _ parts => do
    let (ps, after) ← meanAll flags parts
    return (.sequences ps, after)
  | choice _ parts => do
    let (ps, after) ← meanAll flags parts
    return (.choices ps, after)

def meanAll (flags : Flags) : List Form → Except Mistake (List Pattern × Flags)
  | [] => .ok ([], flags)
  | part :: rest => do
    let (p, flags) ← part.mean flags
    let (ps, flags) ← meanAll flags rest
    return (p :: ps, flags)

end

end Form

end DriveBench.Log.Pattern
