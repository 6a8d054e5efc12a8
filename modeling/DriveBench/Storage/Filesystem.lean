import DriveBench.Assoc
import DriveBench.Storage.Fault

/-!
# Files and directories

A filesystem without links says for every location whether there is nothing, a
directory, or a file with its bytes. Whatever is there has a directory above it.
A location lists names from the innermost outwards, so its tail is the location
that holds it.
-/

namespace DriveBench

abbrev Location := List String

inductive Entry
  | directory
  | file (bytes : ByteArray)

instance : DecidableEq Entry
  | .directory, .directory => isTrue rfl
  | .directory, .file _ => isFalse nofun
  | .file _, .directory => isFalse nofun
  | .file ⟨a⟩, .file ⟨b⟩ => decidable_of_iff (a.toList = b.toList) (by simp)

def Entry.at? (entries : List (Location × Entry)) (location : Location) : Option Entry :=
  if location = [] then some .directory else Assoc.find location entries

structure Filesystem where
  entries : List (Location × Entry)
  workdir : Location
  rooted : ∀ name parent, (Entry.at? entries (name :: parent)).isSome →
    Entry.at? entries parent = some .directory

namespace Filesystem

def get? (fs : Filesystem) (location : Location) : Option Entry := Entry.at? fs.entries location

def root : Filesystem where
  entries := []
  workdir := []
  rooted _ _ h := by simp [Entry.at?] at h

@[simp] theorem get?_nil (fs : Filesystem) : fs.get? [] = some .directory := rfl

theorem get?_parent (fs : Filesystem) {name : String} {parent : Location}
    (h : (fs.get? (name :: parent)).isSome) : fs.get? parent = some .directory :=
  fs.rooted name parent h

def enter (fs : Filesystem) (location : Location) : Filesystem := { fs with workdir := location }

theorem at?_set {entries : List (Location × Entry)} {name : String} {parent location : Location}
    {entry : Entry} : Entry.at? (Assoc.set (name :: parent) entry entries) location =
      if location = name :: parent then some entry else Entry.at? entries location := by
  cases location with
  | nil => simp [Entry.at?]
  | cons n p => simp [Entry.at?, Assoc.find_set]

/-- `entry` put under a name in a directory. A directory that is there already
stays one. -/
def put (fs : Filesystem) (name : String) (parent : Location) (entry : Entry)
    (inside : fs.get? parent = some .directory)
    (keep : fs.get? (name :: parent) = some .directory → entry = .directory) : Filesystem where
  entries := Assoc.set (name :: parent) entry fs.entries
  workdir := fs.workdir
  rooted n p h := by
    rw [at?_set] at h ⊢
    by_cases hn : n :: p = name :: parent
    · obtain ⟨-, rfl⟩ := List.cons.inj hn
      rw [if_neg (by simp)]; exact inside
    · rw [if_neg hn] at h
      have hp := fs.rooted n p h
      split
      · rename_i heq
        subst heq
        rw [keep hp]
      · exact hp

@[simp] theorem get?_put (fs : Filesystem) (name : String) (parent : Location) (entry : Entry)
    (inside keep) (location : Location) :
    (fs.put name parent entry inside keep).get? location =
      if location = name :: parent then some entry else fs.get? location := at?_set

def prune (fs : Filesystem) (location : Location) : Filesystem where
  entries := fs.entries.filter fun pair => !location.isSuffixOf pair.1
  workdir := fs.workdir
  rooted n p h := by
    simp only [Entry.at?, List.cons_ne_nil, if_false,
      Assoc.find_filter (fun l : Location => !location.isSuffixOf l)] at h ⊢
    split at h
    · rename_i hkeep
      have hp := fs.rooted n p (by simpa [Entry.at?] using h)
      cases p with
      | nil => rfl
      | cons m q =>
        have : (!location.isSuffixOf (m :: q)) = true := by
          simp only [Bool.not_eq_true', List.isSuffixOf_iff_suffix, ← Bool.not_eq_true] at hkeep ⊢
          exact fun hs => hkeep (hs.trans (List.suffix_cons _ _))
        simpa [this, Entry.at?] using hp
    · simp at h

/-- The order of what lies below a directory: by the first name on the way that
differs, and what holds something before what it holds. -/
def precedes : List String → List String → Bool
  | [], _ => true
  | _ :: _, [] => false
  | a :: as, b :: bs => if a = b then precedes as bs else a < b

/-- What lies below the working directory: the names on the way and the entry,
directories before their contents and names in order. -/
def below (fs : Filesystem) : List (List String × Entry) :=
  let inside := fs.entries.filterMap fun (location, entry) =>
    if fs.workdir.isSuffixOf location && location.length > fs.workdir.length then
      some ((location.take (location.length - fs.workdir.length)).reverse, entry)
    else none
  inside.mergeSort fun a b => precedes a.1 b.1

end Filesystem

end DriveBench
