import DriveBench.Path
import DriveBench.Storage.Filesystem

/-!
# Finding what a path names

A path is walked from the root or the working directory, one piece after the
other. What is wrong first on the way is reported, after what is wrong with the
text as a whole.
-/

namespace DriveBench

inductive Step
  | stay
  | up
  | name (name : String)
  deriving DecidableEq, Repr

namespace Step

def ofPiece : List Char → Step
  | [] | ['.'] => stay
  | ['.', '.'] => up
  | piece => name (String.ofList piece)

end Step

namespace Filesystem

def nameLimit : Nat := 255

def pathLimit : Nat := 4096

def textFault? (path : String) : Option Fault :=
  if path.toList.contains '\x00' then some .embeddedNul
  else if path.isEmpty then some .notFound
  else if pathLimit ≤ path.utf8ByteSize then some .nameTooLong
  else none

def step (fs : Filesystem) (location : Location) : Step → Except Fault Location
  | s =>
    if fs.get? location ≠ some .directory then .error .notDirectory
    else match s with
      | .stay => .ok location
      | .up => .ok location.tail
      | .name n =>
        if nameLimit < n.utf8ByteSize then .error .nameTooLong
        else if (fs.get? (n :: location)).isNone then .error .notFound
        else .ok (n :: location)

def walk (fs : Filesystem) (location : Location) : List Step → Except Fault Location
  | [] => .ok location
  | s :: rest => do fs.walk (← fs.step location s) rest

def origin (fs : Filesystem) (path : String) : Location :=
  if Path.isAbsolute path then [] else fs.workdir

def locate (fs : Filesystem) (path : String) : Except Fault Location :=
  match textFault? path with
  | some fault => .error fault
  | none => fs.walk (fs.origin path) ((Path.pieces path).map Step.ofPiece)

def lookup (fs : Filesystem) (path : String) : Except Fault Entry :=
  match fs.locate path with
  | .error fault => .error fault
  | .ok location => match fs.get? location with
    | some entry => .ok entry
    | none => .error .notFound

def isFile (fs : Filesystem) (path : String) : Bool :=
  match fs.lookup path with
  | .ok (.file _) => true
  | _ => false

def isDirectory (fs : Filesystem) (path : String) : Bool :=
  match fs.lookup path with
  | .ok .directory => true
  | _ => false

/-- What a path asks to make: a name in a directory that is there, with or
without a slash behind it, or something that has no new name. -/
inductive Target (fs : Filesystem)
  | fresh (name : String) (parent : Location) (inside : fs.get? parent = some .directory)
      (slash : Bool)
  | nameless

def target (fs : Filesystem) (path : String) : Except Fault (Target fs) :=
  match textFault? path with
  | some fault => .error fault
  | none =>
    let reversed := (Path.pieces path).reverse
    match reversed.dropWhile (·.isEmpty) with
    | [] => .ok .nameless
    | last :: front =>
      match fs.walk (fs.origin path) (front.reverse.map Step.ofPiece) with
      | .error fault => .error fault
      | .ok parent =>
        if inside : fs.get? parent = some .directory then
          match Step.ofPiece last with
          | .name n => .ok (.fresh n parent inside (reversed.head?.any (·.isEmpty)))
          | _ => .ok .nameless
        else .error .notDirectory

end Filesystem

end DriveBench
