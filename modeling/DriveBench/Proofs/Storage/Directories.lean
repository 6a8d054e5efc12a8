import DriveBench.Proofs.Storage.Above

/-!
# Making directories on the way

If making a directory and those above it succeeded, asking again changes
nothing; if it failed it fails again, whatever was made before it failed. In
both cases nothing has changed but that there are directories at locations on
the way where nothing was.
-/

namespace DriveBench.Filesystem

variable {fs made before after : Filesystem} {path upper : String}

-- ---------------------------------------------------------------------------
-- One directory
-- ---------------------------------------------------------------------------

theorem makeDirectory_of_isDirectory (h : fs.isDirectory path = true) :
    fs.makeDirectory path = .error .exists := by
  obtain ⟨location, hlocate, hget⟩ := lookup_ok.1 (isDirectory_iff.1 h)
  obtain ⟨text, hw⟩ := locate_ok.1 hlocate
  unfold makeDirectory target
  rw [text]
  dsimp only
  cases hdrop : (Path.pieces path).reverse.dropWhile (·.isEmpty) with
  | nil => rfl
  | cons last front =>
    obtain ⟨blank, hpieces, -⟩ := pieces_of_dropWhile hdrop
    rw [hpieces, List.map_append, walk_append] at hw
    cases hfront : fs.walk (fs.origin path) (front.reverse.map Step.ofPiece) with
    | error fault => rw [hfront] at hw; cases hw
    | ok parent =>
      rw [hfront] at hw
      have inside : fs.get? parent = some .directory := directory_of_walk hw hget
      simp only [hfront, inside, dite_true]
      cases hlast : Step.ofPiece last with
      | stay => rfl
      | up => rfl
      | name n =>
        simp only [List.map_cons, walk, hlast, bind, Except.bind] at hw
        cases hstep : fs.step parent (.name n) with
        | error fault => rw [hstep] at hw; cases hw
        | ok reached =>
          obtain ⟨-, short, present, -⟩ := step_name_ok.1 hstep
          dsimp only
          rw [if_neg (Nat.not_lt.2 short), if_pos present]

theorem locate_of_makeDirectory (h : before.makeDirectory path = .ok after) :
    ∃ location, after.locate path = .ok location ∧ before.get? location = none ∧
      after.get? location = some .directory ∧
      ∀ other, other ≠ location → after.get? other = before.get? other := by
  obtain ⟨name, parent, inside, slash, target, short, free, -, view⟩ := get?_makeDirectory h
  have keeps : Keeps (fun _ => False) before after := keeps_makeDirectory h
  refine ⟨name :: parent, ?_, free, by simp [view], fun other hother => by simp [view, hother]⟩
  exact locate_of_target keeps target short (by simp [view]) (by simp [view])

theorem isDirectory_of_makeDirectory (h : before.makeDirectory path = .ok after) :
    after.isDirectory path = true := by
  obtain ⟨location, hlocate, -, hget, -⟩ := locate_of_makeDirectory h
  exact isDirectory_iff.2 (lookup_ok.2 ⟨location, hlocate, hget⟩)

-- ---------------------------------------------------------------------------
-- A directory and those above it
-- ---------------------------------------------------------------------------

/-- The ways in which making a directory and those above it can end. -/
inductive MakesAll (fs : Filesystem) (path : String) (above : List String) :
    Filesystem × Except Fault Unit → Prop
  | made {made : Filesystem} : fs.makeDirectory path = .ok made →
      MakesAll fs path above (made, .ok ())
  | there : fs.isDirectory path = true → MakesAll fs path above (fs, .ok ())
  | refused {fault : Fault} : fs.makeDirectory path = .error fault → fault ≠ .notFound →
      fs.isDirectory path = false → MakesAll fs path above (fs, .error fault)
  | stopped {made : Filesystem} {fault : Fault} : fs.makeDirectory path = .error .notFound →
      fs.makeAll above = (made, .error fault) → MakesAll fs path above (made, .error fault)
  | madeBelow {middle made : Filesystem} : fs.makeDirectory path = .error .notFound →
      fs.makeAll above = (middle, .ok ()) → middle.makeDirectory path = .ok made →
      MakesAll fs path above (made, .ok ())
  | thereBelow {made : Filesystem} : fs.makeDirectory path = .error .notFound →
      fs.makeAll above = (made, .ok ()) → made.isDirectory path = true →
      MakesAll fs path above (made, .ok ())
  | refusedBelow {made : Filesystem} {fault : Fault} : fs.makeDirectory path = .error .notFound →
      fs.makeAll above = (made, .ok ()) → made.makeDirectory path = .error fault →
      made.isDirectory path = false → MakesAll fs path above (made, .error fault)

variable {paths above : List String} {fault : Fault}

theorem makeAll_cases (fs : Filesystem) (path : String) (above : List String) :
    MakesAll fs path above (fs.makeAll (path :: above)) := by
  unfold makeAll
  split
  · rename_i made hmade
    exact .made hmade
  · rename_i hnone
    split
    · rename_i made fault hstopped
      exact .stopped hnone hstopped
    · rename_i made habove
      split
      · rename_i hmade
        exact .madeBelow hnone habove hmade
      · rename_i fault hrefused
        cases hd : made.isDirectory path with
        | true => exact .thereBelow hnone habove hd
        | false => exact .refusedBelow hnone habove hrefused hd
  · rename_i fault hne hrefused
    cases hd : fs.isDirectory path with
    | true => exact .there hd
    | false => exact .refused hrefused hne hd

theorem makeAll_of_isDirectory (h : fs.isDirectory path = true) :
    fs.makeAll (path :: above) = (fs, .ok ()) := by
  unfold makeAll
  rw [makeDirectory_of_isDirectory h]
  simp [h]

theorem isDirectory_of_makeAll (h : fs.makeAll (path :: above) = (made, .ok ())) :
    made.isDirectory path = true := by
  have hcase := makeAll_cases fs path above
  rw [h] at hcase
  cases hcase with
  | made hmade => exact isDirectory_of_makeDirectory hmade
  | there hd => exact hd
  | madeBelow _ _ hmade => exact isDirectory_of_makeDirectory hmade
  | thereBelow _ _ hd => exact hd

theorem not_isDirectory_of_makeAll
    (chain : (path :: above).Pairwise fun lower upper => upper = "/" ∨ Path.Over upper lower)
    (h : fs.makeAll (path :: above) = (made, .error fault)) : made.isDirectory path = false := by
  induction above generalizing path made with
  | nil =>
    have hcase := makeAll_cases fs path []
    rw [h] at hcase
    cases hcase with
    | refused _ _ hd => exact hd
    | stopped _ hstopped => cases hstopped
    | refusedBelow _ _ _ hd => exact hd
  | cons upper above ih =>
    obtain ⟨hpath, hchain⟩ := List.pairwise_cons.1 chain
    have hcase := makeAll_cases fs path (upper :: above)
    rw [h] at hcase
    cases hcase with
    | refused _ _ hd => exact hd
    | stopped _ hstopped =>
      have hupper := ih hchain hstopped
      cases hd : made.isDirectory path with
      | true =>
        rw [isDirectory_above (hpath upper List.mem_cons_self) hd] at hupper
        cases hupper
      | false => rfl
    | refusedBelow _ _ _ hd => exact hd

theorem makeAll_again {again : Filesystem}
    (chain : paths.Pairwise fun lower upper => upper = "/" ∨ Path.Over upper lower)
    (h : fs.makeAll paths = (made, .error fault)) : made.makeAll paths ≠ (again, .ok ()) := by
  induction paths generalizing made again with
  | nil => cases h
  | cons path above ih =>
    have gone := not_isDirectory_of_makeAll chain h
    obtain ⟨hpath, hchain⟩ := List.pairwise_cons.1 chain
    -- the path itself is refused as before, the way to it being what it was
    have refuses : ∀ {next}, made.makeDirectory path ≠ .ok next := by
      intro next hnext
      have hcase := makeAll_cases fs path above
      rw [h] at hcase
      cases hcase with
      | refused hrefused _ _ => rw [hrefused] at hnext; cases hnext
      | stopped _ hstopped =>
        cases above with
        | nil => cases hstopped
        | cons upper above =>
          have hupper := not_isDirectory_of_makeAll hchain hstopped
          rw [isDirectory_above_of_makeDirectory (hpath upper List.mem_cons_self) hnext] at hupper
          cases hupper
      | refusedBelow _ _ hrefused _ => rw [hrefused] at hnext; cases hnext
    -- what was made above it is there, and what was not is not made now
    have stays : ∀ {middle}, made.makeAll above = (middle, .ok ()) →
        made.makeDirectory path = .error .notFound → middle = made := by
      intro middle hmiddle hnone
      have hcase := makeAll_cases fs path above
      rw [h] at hcase
      cases hcase with
      | refused hrefused hne _ => rw [hrefused] at hnone; cases hnone; exact absurd rfl hne
      | stopped _ hstopped => exact absurd hmiddle (ih hchain hstopped)
      | refusedBelow _ habove _ _ =>
        cases above with
        | nil => cases hmiddle; rfl
        | cons upper above =>
          rw [makeAll_of_isDirectory (isDirectory_of_makeAll habove)] at hmiddle
          exact (Prod.mk.inj hmiddle).1.symm
    intro hagain
    have hcase := makeAll_cases made path above
    rw [hagain] at hcase
    cases hcase with
    | made hmade => exact refuses hmade
    | there hd =>
      rw [gone] at hd
      cases hd
    | madeBelow hnone hmiddle hmade =>
      obtain rfl := stays hmiddle hnone
      exact refuses hmade
    | thereBelow hnone hmiddle hd =>
      obtain rfl := stays hmiddle hnone
      rw [gone] at hd
      cases hd

-- ---------------------------------------------------------------------------
-- What is added
-- ---------------------------------------------------------------------------

/-- Nothing has changed but that there are directories where nothing was, at
locations of `new`. -/
structure Adds (new : Location → Prop) (before after : Filesystem) : Prop where
  workdir : after.workdir = before.workdir
  view : ∀ location, after.get? location = before.get? location ∨
    new location ∧ before.get? location = none ∧ after.get? location = some .directory

variable {new more : Location → Prop} {middle : Filesystem}

theorem Adds.refl : Adds new fs fs := ⟨rfl, fun _ => .inl rfl⟩

theorem Adds.imp (h : Adds new before after)
    (himp : ∀ location, new location → before.get? location = none → more location) :
    Adds more before after where
  workdir := h.workdir
  view location := (h.view location).imp_right fun ⟨hnew, hnone, hdir⟩ =>
    ⟨himp location hnew hnone, hnone, hdir⟩

theorem Adds.trans (first : Adds new before middle) (last : Adds new middle after) :
    Adds new before after where
  workdir := last.workdir.trans first.workdir
  view location := by
    rcases last.view location with hlast | ⟨hnew, hnone, hdir⟩
    · rw [hlast]
      exact first.view location
    · rcases first.view location with hfirst | ⟨-, -, hmiddle⟩
      · exact .inr ⟨hnew, hfirst ▸ hnone, hdir⟩
      · rw [hnone] at hmiddle
        cases hmiddle

theorem Adds.keeps {kept : Location → Prop} (h : Adds new before after) : Keeps kept before after where
  workdir := h.workdir
  directory location hd := by
    rcases h.view location with hsame | ⟨-, -, hdir⟩
    · exact hsame.trans hd
    · exact hdir
  present location hs := by
    rcases h.view location with hsame | ⟨-, hnone, -⟩
    · exact hsame ▸ hs
    · simp [hnone] at hs
  entry location _ hs := by
    rcases h.view location with hsame | ⟨-, hnone, -⟩
    · exact hsame
    · simp [hnone] at hs

theorem Adds.file_iff {location : Location} {bytes : ByteArray} (h : Adds new before after) :
    after.get? location = some (.file bytes) ↔ before.get? location = some (.file bytes) := by
  rcases h.view location with hsame | ⟨-, hnone, hdir⟩
  · rw [hsame]
  · simp [hnone, hdir]

theorem adds_makeDirectory (h : before.makeDirectory path = .ok after) :
    Adds (fun location => after.locate path = .ok location) before after := by
  obtain ⟨location, hlocate, hnone, hdir, hother⟩ := locate_of_makeDirectory h
  have keeps : Keeps (fun _ => False) before after := keeps_makeDirectory h
  refine ⟨keeps.workdir, fun other => ?_⟩
  by_cases heq : other = location
  · subst heq
    exact .inr ⟨hlocate, hnone, hdir⟩
  · exact .inl (hother other heq)

theorem adds_makeAll (fs : Filesystem) (paths : List String) :
    Adds (fun location => ∃ path ∈ paths, (fs.makeAll paths).1.locate path = .ok location) fs
      (fs.makeAll paths).1 := by
  induction paths with
  | nil => exact .refl
  | cons path above ih =>
    have hcase := makeAll_cases fs path above
    have here {before after : Filesystem} (h : before.makeDirectory path = .ok after) :
        Adds (fun location => ∃ q ∈ path :: above, after.locate q = .ok location) before after :=
      (adds_makeDirectory h).imp fun _ hl _ => ⟨path, List.mem_cons_self, hl⟩
    have inherit {made last : Filesystem} {result : Except Fault Unit}
        (h : fs.makeAll above = (made, result)) (keeps : Keeps (fun _ => False) made last) :
        Adds (fun location => ∃ q ∈ path :: above, last.locate q = .ok location) fs made := by
      rw [h] at ih
      refine ih.imp fun location ⟨q, hq, hl⟩ _ => ⟨q, List.mem_cons_of_mem _ hq, ?_⟩
      exact locate_of_keeps keeps hl
    generalize fs.makeAll (path :: above) = answer at hcase ⊢
    cases hcase with
    | made hmade => exact here hmade
    | there _ => exact .refl
    | refused _ _ _ => exact .refl
    | stopped _ habove => exact inherit habove .refl
    | madeBelow _ habove hmade => exact (inherit habove (keeps_makeDirectory hmade)).trans (here hmade)
    | thereBelow _ habove _ => exact inherit habove .refl
    | refusedBelow _ habove _ _ => exact inherit habove .refl

/-- A location to which a beginning of a path leads. -/
def OnTheWay (fs : Filesystem) (path : String) (location : Location) : Prop :=
  ∃ front, front <+: Path.pieces path ∧
    fs.walk (fs.origin path) (front.map Step.ofPiece) = .ok location

theorem onTheWay_of_keeps {kept : Location → Prop} {location : Location}
    (h : Keeps kept before after) (hway : OnTheWay before path location) :
    OnTheWay after path location := by
  obtain ⟨front, hfront, hw⟩ := hway
  exact ⟨front, hfront, origin_of_keeps h path ▸ walk_of_keeps h hw⟩

theorem onTheWay_of_locate {location : Location} (h : upper = "/" ∨ Path.Over upper path)
    (hl : fs.locate upper = .ok location) (hne : location ≠ []) : OnTheWay fs path location := by
  obtain ⟨-, hw⟩ := locate_ok.1 hl
  obtain rfl | h := h
  · rw [locate_root, Except.ok.injEq] at hl
    exact absurd hl.symm hne
  · obtain ⟨rest, hpieces, -⟩ := h.pieces
    exact ⟨Path.pieces upper, hpieces ▸ List.prefix_append _ _, origin_of_over h ▸ hw⟩

-- ---------------------------------------------------------------------------
-- Directories of a path
-- ---------------------------------------------------------------------------

theorem adds_makeDirectories (fs : Filesystem) (path : String) :
    Adds (OnTheWay (fs.makeDirectories path).1 path) fs (fs.makeDirectories path).1 := by
  unfold makeDirectories
  split
  · exact .refl
  · refine (adds_makeAll fs (path :: Path.above path)).imp fun location ⟨upper, hu, hl⟩ hnone => ?_
    have hne : location ≠ [] := by
      rintro rfl
      simp at hnone
    rcases List.mem_cons.1 hu with rfl | hu
    · exact ⟨Path.pieces upper, List.prefix_rfl, (locate_ok.1 hl).2⟩
    · have habove := (List.pairwise_cons.1 (Path.pairwise_above path)).1 upper hu
      exact onTheWay_of_locate habove hl hne

theorem isDirectory_of_makeDirectories (hne : path ≠ "")
    (h : fs.makeDirectories path = (made, .ok ())) : made.isDirectory path = true := by
  unfold makeDirectories at h
  rw [if_neg (by simpa using hne)] at h
  exact isDirectory_of_makeAll h

theorem makeDirectories_of_isDirectory (h : fs.isDirectory path = true) :
    fs.makeDirectories path = (fs, .ok ()) := by
  unfold makeDirectories
  split
  · rfl
  · exact makeAll_of_isDirectory h

theorem makeDirectories_again (h : fs.makeDirectories path = (made, .error fault)) :
    ∃ other, (made.makeDirectories path).2 = .error other := by
  unfold makeDirectories at h ⊢
  split at h
  · cases h
  · rename_i hne
    rw [if_neg hne]
    cases hagain : made.makeAll (path :: Path.above path) with
    | mk again result =>
      cases result with
      | ok u => exact absurd hagain (makeAll_again (Path.pairwise_above path) h)
      | error other => exact ⟨other, rfl⟩

end DriveBench.Filesystem
