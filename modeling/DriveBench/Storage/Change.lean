import DriveBench.Storage.Lookup

/-!
# Making, writing and removing

Each operation takes a path and either does all of what it is for or nothing,
and says why not; only `makeDirectories`, which makes several, can stop half
way. A file is written whole, and what is written to a file that could be opened
arrives there: no disk is full and none fails.
-/

namespace DriveBench.Filesystem

def makeDirectory (fs : Filesystem) (path : String) : Except Fault Filesystem :=
  match fs.target path with
  | .error fault => .error fault
  | .ok .nameless => .error .exists
  | .ok (.fresh name parent inside _) =>
    if nameLimit < name.utf8ByteSize then .error .nameTooLong
    else if (fs.get? (name :: parent)).isSome then .error .exists
    else .ok (fs.put name parent .directory inside fun _ => rfl)

def writeFile (fs : Filesystem) (path : String) (bytes : ByteArray) : Except Fault Filesystem :=
  match fs.target path with
  | .error fault => .error fault
  | .ok .nameless => .error .isDirectory
  | .ok (.fresh name parent inside slash) =>
    if slash then .error .isDirectory
    else if nameLimit < name.utf8ByteSize then .error .nameTooLong
    else if h : fs.get? (name :: parent) = some .directory then .error .isDirectory
    else .ok (fs.put name parent (.file bytes) inside fun heq => absurd heq h)

theorem get?_makeDirectory {fs made : Filesystem} {path : String}
    (h : fs.makeDirectory path = .ok made) :
    ∃ name parent inside slash, fs.target path = .ok (.fresh name parent inside slash) ∧
      name.utf8ByteSize ≤ nameLimit ∧ fs.get? (name :: parent) = none ∧
      made.workdir = fs.workdir ∧
      ∀ other, made.get? other =
        if other = name :: parent then some .directory else fs.get? other := by
  unfold makeDirectory at h
  split at h
  · cases h
  · cases h
  · rename_i name parent inside slash heq
    split at h
    · cases h
    · rename_i short
      split at h
      · cases h
      · rename_i free
        cases h
        exact ⟨name, parent, inside, slash, heq, Nat.le_of_not_lt short, by simpa using free, rfl,
          fun other => by simp⟩

/-- A file is written to one location, which the path asked for and where no
directory was; all else stays. -/
theorem get?_writeFile {fs written : Filesystem} {path : String} {bytes : ByteArray}
    (h : fs.writeFile path bytes = .ok written) :
    ∃ name parent inside, fs.target path = .ok (.fresh name parent inside false) ∧
      name.utf8ByteSize ≤ nameLimit ∧ fs.get? (name :: parent) ≠ some .directory ∧
      written.workdir = fs.workdir ∧
      ∀ other, written.get? other =
        if other = name :: parent then some (.file bytes) else fs.get? other := by
  unfold writeFile at h
  split at h
  · cases h
  · cases h
  · rename_i name parent inside slash heq
    split at h
    · cases h
    · rename_i bare
      split at h
      · cases h
      · rename_i short
        split at h
        · cases h
        · rename_i free
          cases h
          rw [Bool.eq_false_iff.2 bare] at heq
          exact ⟨name, parent, inside, heq, Nat.le_of_not_lt short, free, rfl, fun other => by simp⟩

/-- The first of `paths` made a directory, the others being the paths above it,
the nearest first. Those are made when something on the way is missing. A
directory that is there already will do. -/
def makeAll (fs : Filesystem) : List String → Filesystem × Except Fault Unit
  | [] => (fs, .ok ())
  | path :: above =>
    match fs.makeDirectory path with
    | .ok fs => (fs, .ok ())
    | .error .notFound =>
      match fs.makeAll above with
      | (fs, .error fault) => (fs, .error fault)
      | (fs, .ok ()) =>
        match fs.makeDirectory path with
        | .ok fs => (fs, .ok ())
        | .error fault => (fs, if fs.isDirectory path then .ok () else .error fault)
    | .error fault => (fs, if fs.isDirectory path then .ok () else .error fault)

/-- A directory and those above it, as far as they are missing. The empty path
asks for nothing. -/
def makeDirectories (fs : Filesystem) (path : String) : Filesystem × Except Fault Unit :=
  if path.isEmpty then (fs, .ok ()) else fs.makeAll (path :: Path.above path)

/-- An empty working directory, next to the root so that it has one above. -/
def workplace : Filesystem := (root.makeDirectories "/work").1.enter ["work"]

def remove (fs : Filesystem) (path : String) : Except Fault Filesystem :=
  match fs.locate path with
  | .error fault => .error fault
  | .ok location =>
    if location.isSuffixOf fs.workdir then .error (.other 16) else .ok (fs.prune location)

end DriveBench.Filesystem
