import DriveBench.Proofs.Storage.Keeping

/-!
# Filesystems that differ in bytes only

What can be made somewhere depends on what is a directory and what is there at
all, and not on what files hold.
-/

namespace DriveBench.Filesystem

/-- The same locations are taken, and the same ones are directories. -/
structure Alike (one other : Filesystem) : Prop where
  workdir : other.workdir = one.workdir
  directory : ∀ location, other.get? location = some .directory ↔ one.get? location = some .directory
  present : ∀ location, (other.get? location).isSome = (one.get? location).isSome

variable {fs one other before after : Filesystem} {path : String}

theorem Same.alike (h : Same before after) : Alike before after where
  workdir := h.workdir
  directory location := by rw [h.get?]
  present location := by rw [h.get?]

theorem step_of_alike (h : Alike one other) (location : Location) (s : Step) :
    other.step location s = one.step location s := by
  unfold step
  simp only [ne_eq, h.directory]
  cases s with
  | stay => rfl
  | up => rfl
  | name n =>
    have hnone : (other.get? (n :: location)).isNone = (one.get? (n :: location)).isNone := by
      rw [← Option.not_isSome, ← Option.not_isSome, h.present]
    simp only [hnone]

theorem walk_of_alike (h : Alike one other) (location : Location) (steps : List Step) :
    other.walk location steps = one.walk location steps := by
  induction steps generalizing location with
  | nil => rfl
  | cons s rest ih =>
    simp only [walk, step_of_alike h]
    cases one.step location s with
    | error fault => rfl
    | ok next => exact ih next

theorem origin_of_alike (h : Alike one other) (path : String) : other.origin path = one.origin path := by
  simp only [origin, h.workdir]

theorem locate_of_alike (h : Alike one other) (path : String) :
    other.locate path = one.locate path := by
  simp only [locate, origin_of_alike h, walk_of_alike h]

theorem lookup_of_same (h : Same before after) (path : String) :
    after.lookup path = before.lookup path := by
  simp only [lookup, locate_of_alike h.alike, h.get?]

theorem isDirectory_of_alike (h : Alike one other) (path : String) :
    other.isDirectory path = one.isDirectory path := by
  rw [Bool.eq_iff_iff, isDirectory_iff, isDirectory_iff, lookup_ok, lookup_ok, locate_of_alike h]
  simp only [h.directory]

inductive SameTarget : Except Fault (Target one) → Except Fault (Target other) → Prop
  | error (fault : Fault) : SameTarget (.error fault) (.error fault)
  | nameless : SameTarget (.ok .nameless) (.ok .nameless)
  | fresh (name : String) (parent : Location) (slash : Bool) {inside inside'} :
    SameTarget (.ok (.fresh name parent inside slash)) (.ok (.fresh name parent inside' slash))

theorem target_of_alike (h : Alike one other) (path : String) :
    SameTarget (one.target path) (other.target path) := by
  unfold target
  rw [origin_of_alike h]
  cases textFault? path with
  | some fault => exact .error fault
  | none =>
    dsimp only
    cases (Path.pieces path).reverse.dropWhile (·.isEmpty) with
    | nil => exact .nameless
    | cons last front =>
      dsimp only
      rw [walk_of_alike h]
      cases one.walk (one.origin path) (front.reverse.map Step.ofPiece) with
      | error fault => exact .error fault
      | ok parent =>
        dsimp only
        by_cases inside : one.get? parent = some .directory
        · rw [dif_pos inside, dif_pos ((h.directory parent).2 inside)]
          cases Step.ofPiece last with
          | stay => exact .nameless
          | up => exact .nameless
          | name n => exact .fresh n parent _
        · rw [dif_neg inside, dif_neg fun h' => inside ((h.directory parent).1 h')]
          exact .error _

inductive SameResult : Except Fault Filesystem → Except Fault Filesystem → Prop
  | error (fault : Fault) : SameResult (.error fault) (.error fault)
  | ok {one other : Filesystem} : Alike one other → SameResult (.ok one) (.ok other)

theorem makeDirectory_of_alike (h : Alike one other) (path : String) :
    SameResult (one.makeDirectory path) (other.makeDirectory path) := by
  have htarget := target_of_alike h path
  unfold makeDirectory
  generalize one.target path = asked, other.target path = asked' at htarget ⊢
  cases htarget with
  | error fault => exact .error fault
  | nameless => exact .error _
  | fresh name parent slash =>
    dsimp only
    rw [h.present]
    split
    · exact .error _
    · split
      · exact .error _
      · refine .ok ⟨h.workdir, fun location => ?_, fun location => ?_⟩
        · rw [get?_put, get?_put]
          split
          · rfl
          · exact h.directory location
        · rw [get?_put, get?_put]
          split
          · rfl
          · exact h.present location

theorem makeAll_of_alike (h : Alike one other) (paths : List String) :
    (other.makeAll paths).2 = (one.makeAll paths).2 ∧
      Alike (one.makeAll paths).1 (other.makeAll paths).1 := by
  induction paths generalizing one other with
  | nil => exact ⟨rfl, h⟩
  | cons path above ih =>
    -- at the end of each attempt that failed it is asked whether there is a directory
    have refused {one other : Filesystem} (h : Alike one other) (fault : Fault) :
        (if other.isDirectory path then Except.ok () else .error fault) =
          if one.isDirectory path then .ok () else .error fault := by
      rw [isDirectory_of_alike h]
    have hmake := makeDirectory_of_alike h path
    unfold makeAll
    generalize one.makeDirectory path = made, other.makeDirectory path = made' at hmake ⊢
    cases hmake with
    | ok hmade => exact ⟨rfl, hmade⟩
    | error fault =>
      by_cases hfault : fault = .notFound
      · subst hfault
        dsimp only
        obtain ⟨hresult, halike⟩ := ih h
        generalize one.makeAll above = all, other.makeAll above = all' at hresult halike ⊢
        obtain ⟨middle, result⟩ := all
        obtain ⟨middle', result'⟩ := all'
        obtain rfl : result' = result := hresult
        cases result' with
        | error fault => exact ⟨rfl, halike⟩
        | ok u =>
          dsimp only at halike ⊢
          have hmake := makeDirectory_of_alike halike path
          generalize middle.makeDirectory path = made, middle'.makeDirectory path = made' at hmake ⊢
          cases hmake with
          | ok hmade => exact ⟨rfl, hmade⟩
          | error fault => exact ⟨refused halike fault, halike⟩
      · cases fault <;> first | exact absurd rfl hfault | exact ⟨refused h _, h⟩

theorem makeDirectories_of_alike (h : Alike one other) (path : String) :
    (other.makeDirectories path).2 = (one.makeDirectories path).2 := by
  unfold makeDirectories
  split
  · rfl
  · exact (makeAll_of_alike h _).1

theorem alike_of_writeFile {bytes others : ByteArray} (h : fs.writeFile path bytes = .ok one)
    (h' : fs.writeFile path others = .ok other) : Alike one other := by
  obtain ⟨name, parent, inside, target, -, -, workdir, view⟩ := get?_writeFile h
  obtain ⟨name', parent', inside', target', -, -, workdir', view'⟩ := get?_writeFile h'
  rw [target, Except.ok.injEq, Target.fresh.injEq] at target'
  obtain ⟨rfl, rfl, -⟩ := target'
  refine ⟨workdir'.trans workdir.symm, fun location => ?_, fun location => ?_⟩
  · rw [view, view']
    split
    · simp
    · rfl
  · rw [view, view']
    split <;> rfl

end DriveBench.Filesystem
