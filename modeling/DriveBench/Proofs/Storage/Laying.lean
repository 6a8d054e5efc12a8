import DriveBench.Proofs.Samples
import DriveBench.Proofs.Storage.Directories

/-!
# Files laid into a directory

Under a name is the file that was laid there last, or else what was there
before. No file is laid over a directory, so what is in the way of a file is the
same before and after others have been laid.
-/

namespace DriveBench.Filesystem

/-- What is laid at a location. Of files of one name the first in the list counts. -/
def laid? (place : Location) (files : List (String × ByteArray)) : Location → Option Entry
  | [] => none
  | name :: parent => if parent = place then (Assoc.find name files).map .file else none

structure Lays (place : Location) (files : List (String × ByteArray)) (before after : Filesystem) :
    Prop where
  workdir : after.workdir = before.workdir
  view : ∀ location, after.get? location = (laid? place files location).or (before.get? location)
  free : ∀ location, (laid? place files location).isSome → before.get? location ≠ some .directory

variable {fs before middle after one other : Filesystem} {place location : Location}
  {files others : List (String × ByteArray)} {base name : String} {bytes : ByteArray} {fault : Fault}

theorem laid?_nil (place location : Location) : laid? place [] location = none := by
  cases location <;> simp [laid?]

theorem laid?_cons (place : Location) (name : String) (bytes : ByteArray)
    (files : List (String × ByteArray)) (location : Location) :
    laid? place ((name, bytes) :: files) location =
      if location = name :: place then some (.file bytes) else laid? place files location := by
  cases location with
  | nil => rfl
  | cons n parent =>
    by_cases hp : parent = place <;> by_cases hn : n = name <;> simp [laid?, Assoc.find, hp, hn]

theorem laid?_eq_some {entry : Entry} (h : laid? place files location = some entry) :
    ∃ name bytes, (name, bytes) ∈ files ∧ location = name :: place ∧ entry = .file bytes := by
  induction files with
  | nil =>
    rw [laid?_nil] at h
    cases h
  | cons pair files ih =>
    obtain ⟨name, bytes⟩ := pair
    rw [laid?_cons] at h
    split at h
    · rename_i hhere
      exact ⟨name, bytes, List.mem_cons_self, hhere, (Option.some.inj h).symm⟩
    · obtain ⟨n, b, hmem, hl, he⟩ := ih h
      exact ⟨n, b, List.mem_cons_of_mem _ hmem, hl, he⟩

namespace Lays

theorem nil : Lays place [] fs fs where
  workdir := rfl
  view location := by simp [laid?_nil]
  free location h := by simp [laid?_nil] at h

theorem of_same (h : Lays place files before middle) (same : middle.Same after) :
    Lays place files before after where
  workdir := same.workdir.trans h.workdir
  view location := (same.get? location).trans (h.view location)
  free := h.free

theorem directory_iff (h : Lays place files before after) :
    after.get? location = some .directory ↔ before.get? location = some .directory := by
  rw [h.view]
  cases hlaid : laid? place files location with
  | none => simp
  | some entry =>
    obtain ⟨_, bytes, -, -, rfl⟩ := laid?_eq_some hlaid
    have hfree := h.free location (by simp [hlaid])
    simp [hfree]

theorem keeps (h : Lays place files before after) : before.Keeps (fun _ => False) after where
  workdir := h.workdir
  directory _ hd := h.directory_iff.2 hd
  present location hs := by
    rw [h.view]
    cases laid? place files location <;> simp [hs]
  entry _ hk := hk.elim

theorem again (first : Lays place files before middle) (last : Lays place files middle after) :
    middle.Same after where
  workdir := last.workdir
  get? location := by
    rw [last.view, first.view]
    cases laid? place files location <;> rfl

theorem perm (perm : files.Perm others) (nodup : (files.map Prod.fst).Nodup)
    (h : Lays place files fs one) (h' : Lays place others fs other) : one.Same other where
  workdir := h'.workdir.trans h.workdir.symm
  get? location := by
    have hlaid : laid? place files location = laid? place others location := by
      cases location with
      | nil => rfl
      | cons name parent => rw [laid?, laid?, Assoc.find_perm perm nodup]
    rw [h.view, h'.view, hlaid]

end Lays

-- ---------------------------------------------------------------------------
-- Writing under a name
-- ---------------------------------------------------------------------------

section

variable (hl : fs.locate base = .ok place) (hd : fs.get? place = some .directory)
  (plain : IsPlainName name)
include hl hd plain

theorem writeFile_join_error_iff : fs.writeFile (Path.join base name) bytes = .error fault ↔
    textFault? (Path.join base name) = some fault ∨
      textFault? (Path.join base name) = none ∧
        (nameLimit < name.utf8ByteSize ∧ fault = .nameTooLong ∨
          name.utf8ByteSize ≤ nameLimit ∧ fs.get? (name :: place) = some .directory ∧
            fault = .isDirectory) := by
  unfold writeFile
  cases text : textFault? (Path.join base name) with
  | some wrong => simp [target, text]
  | none =>
    rw [target_join hl hd plain text]
    by_cases hlong : nameLimit < name.utf8ByteSize
    · simp [hlong, Nat.not_le.2 hlong, eq_comm]
    · by_cases hdir : fs.get? (name :: place) = some .directory
      · simp [hlong, Nat.not_lt.1 hlong, hdir, eq_comm]
      · simp [hlong, hdir]

theorem lookup_join_file_iff : fs.lookup (Path.join base name) = .ok (.file bytes) ↔
    textFault? (Path.join base name) = none ∧ name.utf8ByteSize ≤ nameLimit ∧
      fs.get? (name :: place) = some (.file bytes) := by
  cases text : textFault? (Path.join base name) with
  | some wrong => simp [lookup, locate, text]
  | none =>
    rw [lookup_ok, locate_join hl hd plain text]
    constructor
    · rintro ⟨location, hstep, hget⟩
      obtain ⟨-, short, -, rfl⟩ := step_name_ok.1 hstep
      exact ⟨rfl, short, hget⟩
    · rintro ⟨-, short, hget⟩
      exact ⟨_, step_name_ok.2 ⟨hd, short, by simp [hget], rfl⟩, hget⟩

end

theorem Lays.write (h : Lays place files before middle) (hl : middle.locate base = .ok place)
    (hd : middle.get? place = some .directory) (plain : IsPlainName name)
    (hwrite : middle.writeFile (Path.join base name) bytes = .ok after) :
    Lays place ((name, bytes) :: files) before after := by
  obtain ⟨n, parent, inside, target, -, free, workdir, view⟩ := get?_writeFile hwrite
  obtain ⟨_, _, _, _, _, _, _, text, _⟩ := target_fresh target
  rw [target_join hl hd plain text] at target
  obtain ⟨rfl, rfl, -⟩ := Target.fresh.inj (Except.ok.inj target)
  refine ⟨workdir.trans h.workdir, fun location => ?_, fun location => ?_⟩
  · rw [view, laid?_cons]
    split
    · rfl
    · exact h.view location
  · rw [laid?_cons]
    split
    · rename_i hhere
      rw [hhere]
      exact fun _ => mt h.directory_iff.2 free
    · exact h.free location

/-- What is in the way of a file is no matter of other files. -/
theorem Lays.writeFile_error_iff (h : Lays place files before after)
    (hl : before.locate base = .ok place) (hd : before.get? place = some .directory)
    (plain : IsPlainName name) : after.writeFile (Path.join base name) bytes = .error fault ↔
      before.writeFile (Path.join base name) bytes = .error fault := by
  rw [writeFile_join_error_iff (locate_of_keeps h.keeps hl) (h.directory_iff.2 hd) plain,
    writeFile_join_error_iff hl hd plain, h.directory_iff]

end DriveBench.Filesystem
