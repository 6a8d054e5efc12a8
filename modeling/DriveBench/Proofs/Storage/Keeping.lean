import DriveBench.Proofs.Path

/-!
# What storage keeps

Making directories and writing files take nothing away. `Keeps kept` carries
every walk over, so a path that led somewhere before leads there after, and a
file in a kept location is read as before.
-/

namespace DriveBench

namespace Filesystem

structure Same (before after : Filesystem) : Prop where
  workdir : after.workdir = before.workdir
  get? : ∀ location, after.get? location = before.get? location

/-- Nothing was taken away, and what is at a location of `kept` is as it was. -/
structure Keeps (kept : Location → Prop) (before after : Filesystem) : Prop where
  workdir : after.workdir = before.workdir
  directory : ∀ location, before.get? location = some .directory →
    after.get? location = some .directory
  present : ∀ location, (before.get? location).isSome → (after.get? location).isSome
  entry : ∀ location, kept location → (before.get? location).isSome →
    after.get? location = before.get? location

variable {kept : Location → Prop} {before middle after fs : Filesystem}

theorem Same.refl : Same fs fs := ⟨rfl, fun _ => rfl⟩

theorem Same.keeps (h : Same before after) : Keeps kept before after where
  workdir := h.workdir
  directory location hd := (h.get? location).trans hd
  present location hs := (h.get? location) ▸ hs
  entry location _ _ := h.get? location

theorem Keeps.refl : Keeps kept fs fs := ⟨rfl, fun _ h => h, fun _ h => h, fun _ _ _ => rfl⟩

theorem Keeps.trans (first : Keeps kept before middle) (last : Keeps kept middle after) :
    Keeps kept before after where
  workdir := last.workdir.trans first.workdir
  directory location h := last.directory location (first.directory location h)
  present location h := last.present location (first.present location h)
  entry location hk h :=
    (last.entry location hk (first.present location h)).trans (first.entry location hk h)

-- ---------------------------------------------------------------------------
-- Operations keep
-- ---------------------------------------------------------------------------

/-- A change to one location, which leaves a directory alone, keeps the rest. -/
theorem keeps_of_get? {location : Location} {entry : Entry} (workdir : after.workdir = before.workdir)
    (view : ∀ other, after.get? other = if other = location then some entry else before.get? other)
    (directory : before.get? location = some .directory → entry = .directory)
    (free : kept location → before.get? location = none) : Keeps kept before after where
  workdir
  directory other h := by
    rw [view]
    split
    · rename_i heq; rw [directory (heq ▸ h)]
    · exact h
  present other h := by
    rw [view]
    split
    · rfl
    · exact h
  entry other hk h := by
    rw [view]
    split
    · rename_i heq; subst heq; simp [free hk] at h
    · rfl

theorem keeps_makeDirectory {path : String} (h : before.makeDirectory path = .ok after) :
    Keeps kept before after := by
  obtain ⟨name, parent, inside, slash, -, -, free, workdir, view⟩ := get?_makeDirectory h
  exact keeps_of_get? workdir view (fun _ => rfl) (fun _ => free)

theorem keeps_writeFile {path : String} {bytes : ByteArray}
    (h : before.writeFile path bytes = .ok after)
    (other : ∀ name parent inside, before.target path = .ok (.fresh name parent inside false) →
      ¬ kept (name :: parent)) : Keeps kept before after := by
  obtain ⟨name, parent, inside, target, -, free, workdir, view⟩ := get?_writeFile h
  exact keeps_of_get? workdir view (fun hd => absurd hd free)
    (fun hk => absurd hk (other name parent inside target))

-- ---------------------------------------------------------------------------
-- Paths lead where they led
-- ---------------------------------------------------------------------------

theorem step_of_keeps (h : Keeps kept before after) {location reached : Location} {s : Step}
    (hs : before.step location s = .ok reached) : after.step location s = .ok reached := by
  unfold step at hs ⊢
  split at hs
  · cases hs
  · rename_i hd
    rw [if_neg (by simpa using h.directory location (by simpa using hd))]
    cases s with
    | stay => exact hs
    | up => exact hs
    | name n =>
      dsimp only at hs ⊢
      split at hs
      · cases hs
      · rename_i short
        split at hs
        · cases hs
        · rename_i present
          have hafter := h.present (n :: location) (by simpa [Option.isSome_iff_ne_none] using present)
          rw [if_neg short, if_neg (by simpa [Option.isSome_iff_ne_none] using hafter)]
          exact hs

theorem walk_of_keeps (h : Keeps kept before after) {location reached : Location} {steps : List Step}
    (hw : before.walk location steps = .ok reached) : after.walk location steps = .ok reached := by
  induction steps generalizing location with
  | nil => exact hw
  | cons s rest ih =>
    simp only [walk] at hw ⊢
    cases hs : before.step location s with
    | error fault => rw [hs] at hw; cases hw
    | ok next =>
      rw [hs] at hw
      rw [step_of_keeps h hs]
      exact ih hw

theorem origin_of_keeps (h : Keeps kept before after) (path : String) :
    after.origin path = before.origin path := by
  simp [origin, h.workdir]

theorem locate_of_keeps (h : Keeps kept before after) {path : String} {location : Location}
    (hl : before.locate path = .ok location) : after.locate path = .ok location := by
  obtain ⟨text, hw⟩ := locate_ok.1 hl
  exact locate_ok.2 ⟨text, origin_of_keeps h path ▸ walk_of_keeps h hw⟩

theorem lookup_ok {path : String} {entry : Entry} : fs.lookup path = .ok entry ↔
    ∃ location, fs.locate path = .ok location ∧ fs.get? location = some entry := by
  unfold lookup
  split
  · simp_all
  · rename_i location hl
    split <;> simp_all

theorem isDirectory_iff {path : String} :
    fs.isDirectory path = true ↔ fs.lookup path = .ok .directory := by
  unfold isDirectory
  split
  · simp_all
  · simp_all

theorem isFile_iff {path : String} :
    fs.isFile path = true ↔ ∃ bytes, fs.lookup path = .ok (.file bytes) := by
  unfold isFile
  split
  · simp_all
  · simp_all

theorem lookup_of_keeps (h : Keeps kept before after) {path : String} {entry : Entry}
    (hl : before.lookup path = .ok entry)
    (hk : ∀ location, before.locate path = .ok location → kept location) :
    after.lookup path = .ok entry := by
  obtain ⟨location, hlocate, hget⟩ := lookup_ok.1 hl
  refine lookup_ok.2 ⟨location, locate_of_keeps h hlocate, ?_⟩
  rw [h.entry location (hk location hlocate) (by simp [hget]), hget]

theorem walk_blank {location : Location} {blank : List (List Char)}
    (hd : fs.get? location = some .directory) (h : ∀ piece ∈ blank, piece = []) :
    fs.walk location (blank.map Step.ofPiece) = .ok location := by
  induction blank with
  | nil => rfl
  | cons piece rest ih =>
    obtain ⟨rfl, hrest⟩ := List.forall_mem_cons.1 h
    simp only [List.map_cons, walk, Step.ofPiece, step, hd, ne_eq, not_true_eq_false, if_false]
    exact ih hrest

theorem locate_of_target (keeps : Keeps kept before after) {path name : String} {parent : Location}
    {inside : before.get? parent = some .directory} {slash : Bool}
    (target : before.target path = .ok (.fresh name parent inside slash))
    (short : name.utf8ByteSize ≤ nameLimit) (present : (after.get? (name :: parent)).isSome)
    (opened : slash = true → after.get? (name :: parent) = some .directory) :
    after.locate path = .ok (name :: parent) := by
  obtain ⟨front, last, blank, hpieces, hblank, hslash, hlast, text, hwalk⟩ := target_fresh target
  have hname : after.step parent (.name name) = .ok (name :: parent) :=
    step_name_ok.2 ⟨keeps.directory parent inside, short, present, rfl⟩
  have hend : after.walk (name :: parent) (blank.map Step.ofPiece) = .ok (name :: parent) := by
    cases slash with
    | false => rw [hslash rfl]; rfl
    | true => exact walk_blank (opened rfl) hblank
  refine locate_ok.2 ⟨text, ?_⟩
  rw [hpieces, List.map_append, walk_append, origin_of_keeps keeps, walk_of_keeps keeps hwalk]
  simp only [List.map_cons, walk, hlast, hname, bind, Except.bind]
  exact hend

theorem isDirectory_of_keeps (h : Keeps kept before after) {path : String}
    (hd : before.isDirectory path = true) : after.isDirectory path = true := by
  obtain ⟨location, hlocate, hget⟩ := lookup_ok.1 (isDirectory_iff.1 hd)
  exact isDirectory_iff.2
    (lookup_ok.2 ⟨location, locate_of_keeps h hlocate, h.directory location hget⟩)

theorem locate_of_writeFile {path : String} {bytes : ByteArray}
    (h : before.writeFile path bytes = .ok after) :
    ∃ location, after.locate path = .ok location ∧ after.get? location = some (.file bytes) ∧
      ∀ other, other ≠ location → after.get? other = before.get? other := by
  obtain ⟨name, parent, inside, target, short, -, -, view⟩ := get?_writeFile h
  have keeps : Keeps (fun _ => False) before after := keeps_writeFile h (by simp)
  refine ⟨name :: parent, ?_, by simp [view], fun other hother => by simp [view, hother]⟩
  exact locate_of_target keeps target short (by simp [view]) fun hdir => by cases hdir

theorem lookup_of_writeFile {path : String} {bytes : ByteArray}
    (h : before.writeFile path bytes = .ok after) : after.lookup path = .ok (.file bytes) := by
  obtain ⟨location, hlocate, hget, -⟩ := locate_of_writeFile h
  exact lookup_ok.2 ⟨location, hlocate, hget⟩

-- ---------------------------------------------------------------------------
-- A name in a directory
-- ---------------------------------------------------------------------------

theorem walk_front_join (fs : Filesystem) (base : String) {name : String} (plain : IsPlainName name) :
    ∃ front, Path.pieces (Path.join base name) = front ++ [name.toList] ∧
      ∀ location, fs.get? location = some .directory →
        (fs.walk (fs.origin (Path.join base name)) (front.map Step.ofPiece) = .ok location ↔
          fs.walk (fs.origin base) ((Path.pieces base).map Step.ofPiece) = .ok location) := by
  have hhead (rest : String) (hne : base.toList ≠ []) : fs.origin (base ++ rest) = fs.origin base := by
    obtain ⟨c, more, hcons⟩ := List.exists_cons_of_ne_nil hne
    simp [origin, Path.isAbsolute, hcons]
  rw [Path.join_of_plain plain]
  split
  · rename_i hslash
    obtain hnil | ⟨front, last, hbase⟩ := List.eq_nil_or_concat base.toList
    · -- an empty text is the working directory, by one piece that leads nowhere
      obtain rfl := String.toList_eq_nil_iff.1 hnil
      have horigin : fs.origin ("" ++ name) = fs.origin "" := by
        rw [String.empty_append, origin, Path.not_isAbsolute_of_plain plain]
        rfl
      have hpieces : (Path.pieces "").map Step.ofPiece = [.stay] := rfl
      refine ⟨[], by simp [Path.pieces, pieces_of_notMem plain.slash], fun location hd => ?_⟩
      rw [horigin, hpieces, ← List.nil_append [Step.stay], walk_concat_ok]
      simp only [List.map_nil, walk, Except.ok.injEq, step_stay_ok, exists_eq_left']
      exact ⟨fun h => ⟨h ▸ hd, h.symm⟩, fun h => h.2.symm⟩
    · -- the slash is there: the piece behind it was empty and led nowhere
      rw [List.concat_eq_append] at hbase
      obtain rfl : last = '/' := by simpa [hbase] using hslash
      have hpieces : Path.pieces base = pieces '/' front ++ [[]] := by
        rw [Path.pieces, hbase, pieces_separator]; rfl
      refine ⟨pieces '/' front, ?_, fun location hd => ?_⟩
      · rw [Path.pieces, String.toList_append, hbase, List.append_assoc, List.singleton_append,
          pieces_separator, pieces_of_notMem plain.slash]
      · rw [hhead name (by simp [hbase]), hpieces, List.map_append, List.map_cons, List.map_nil,
          Step.ofPiece, walk_concat_ok]
        simp only [step_stay_ok]
        constructor
        · exact fun h => ⟨location, h, hd, rfl⟩
        · rintro ⟨_, h, -, rfl⟩
          exact h
  · rename_i hslash
    have hne : base.toList ≠ [] := by
      intro hnil
      simp [hnil] at hslash
    refine ⟨Path.pieces base, ?_, fun location _ => ?_⟩
    · have : (base ++ "/" ++ name).toList = base.toList ++ '/' :: name.toList := by simp
      rw [Path.pieces, this, pieces_separator, pieces_of_notMem plain.slash]; rfl
    · rw [String.append_assoc, hhead _ hne]

theorem walk_join {base name : String} (there : fs.isDirectory base = true)
    (plain : IsPlainName name) :
    ∃ front location, Path.pieces (Path.join base name) = front ++ [name.toList] ∧
      fs.walk (fs.origin (Path.join base name)) (front.map Step.ofPiece) = .ok location ∧
      fs.locate base = .ok location ∧ fs.get? location = some .directory := by
  obtain ⟨location, hlocate, hget⟩ := lookup_ok.1 (isDirectory_iff.1 there)
  obtain ⟨front, hpieces, hwalk⟩ := walk_front_join fs base plain
  exact ⟨front, location, hpieces, (hwalk location hget).2 (locate_ok.1 hlocate).2, hlocate, hget⟩

theorem ofPiece_of_plain {name : String} (plain : IsPlainName name) :
    Step.ofPiece name.toList = .name name := by
  unfold Step.ofPiece
  split
  · rename_i h
    exact absurd (String.toList_eq_nil_iff.1 h) plain.ne_empty
  · rename_i h
    exact absurd (String.toList_inj.1 h) plain.ne_dot
  · rename_i h
    exact absurd (String.toList_inj.1 h) plain.ne_dots
  · rw [String.ofList_toList]

theorem locate_join {base name : String} {location : Location} (hl : fs.locate base = .ok location)
    (hd : fs.get? location = some .directory) (plain : IsPlainName name)
    (text : textFault? (Path.join base name) = none) :
    fs.locate (Path.join base name) = fs.step location (.name name) := by
  have there : fs.isDirectory base = true := isDirectory_iff.2 (lookup_ok.2 ⟨location, hl, hd⟩)
  obtain ⟨front, reached, hpieces, hwalk, hl', -⟩ := walk_join there plain
  obtain rfl : location = reached := by simpa [hl] using hl'
  unfold locate
  rw [text]
  dsimp only
  rw [hpieces, List.map_append, walk_append, hwalk]
  simp only [List.map_cons, List.map_nil, walk, ofPiece_of_plain plain, bind, Except.bind]
  cases fs.step location (.name name) <;> rfl

/-- A file written under one name is no matter of the other names. -/
theorem lookup_join_of_writeFile {base name other : String} {bytes : ByteArray}
    (there : before.isDirectory base = true) (plain : IsPlainName name) (plain' : IsPlainName other)
    (hne : other ≠ name) (h : before.writeFile (Path.join base name) bytes = .ok after) :
    after.lookup (Path.join base other) = before.lookup (Path.join base other) := by
  obtain ⟨location, hl, hd⟩ := lookup_ok.1 (isDirectory_iff.1 there)
  have keeps : Keeps (fun _ => False) before after := keeps_writeFile h (by simp)
  have hl' := locate_of_keeps keeps hl
  have hd' := keeps.directory location hd
  obtain ⟨written, hwritten, -, view⟩ := locate_of_writeFile h
  obtain rfl : written = name :: location := by
    rw [locate_join hl' hd' plain (locate_ok.1 hwritten).1] at hwritten
    exact (step_name_ok.1 hwritten).2.2.2
  have hother : after.get? (other :: location) = before.get? (other :: location) :=
    view _ (by simp [hne])
  cases text : textFault? (Path.join base other) with
  | some fault => simp [lookup, locate, text]
  | none =>
    unfold lookup
    rw [locate_join hl' hd' plain' text, locate_join hl hd plain' text]
    have hstep : after.step location (.name other) = before.step location (.name other) := by
      simp [step, hd, hd', hother]
    rw [hstep]
    cases hreached : before.step location (.name other) with
    | error fault => rfl
    | ok reached =>
      obtain ⟨-, -, -, rfl⟩ := step_name_ok.1 hreached
      simp only [hother]

theorem target_join {base name : String} {location : Location} (hl : fs.locate base = .ok location)
    (hd : fs.get? location = some .directory) (plain : IsPlainName name)
    (text : textFault? (Path.join base name) = none) :
    fs.target (Path.join base name) = .ok (.fresh name location hd false) := by
  have there : fs.isDirectory base = true := isDirectory_iff.2 (lookup_ok.2 ⟨location, hl, hd⟩)
  obtain ⟨front, reached, hpieces, hwalk, hl', -⟩ := walk_join there plain
  obtain rfl : location = reached := by simpa [hl] using hl'
  have hname : name.toList.isEmpty = false := by simpa using plain.ne_empty
  have hreversed : (Path.pieces (Path.join base name)).reverse = name.toList :: front.reverse := by
    simp [hpieces]
  unfold target
  rw [text]
  simp only [hreversed, List.dropWhile_cons, hname, Bool.false_eq_true, if_false,
    List.reverse_reverse, hwalk, hd, dite_true, ofPiece_of_plain plain, List.head?_cons, Option.any_some]

theorem textFault?_ne_notFound {path : String} (h : path ≠ "") : textFault? path ≠ some .notFound := by
  unfold textFault?
  split
  · simp
  · rw [if_neg (by simpa using h)]
    split <;> simp

theorem makeDirectory_join_ne_notFound {base name : String} (there : fs.isDirectory base = true)
    (plain : IsPlainName name) : fs.makeDirectory (Path.join base name) ≠ .error .notFound := by
  obtain ⟨location, hl, hd⟩ := lookup_ok.1 (isDirectory_iff.1 there)
  have named : Path.join base name ≠ "" := by
    intro hempty
    obtain ⟨front, hjoin⟩ := Path.join_toList base name
    rw [hempty] at hjoin
    exact plain.ne_empty (by simpa using (List.append_eq_nil_iff.1 hjoin.symm).2)
  intro hnone
  unfold makeDirectory at hnone
  cases text : textFault? (Path.join base name) with
  | some fault =>
    rw [target, text] at hnone
    obtain rfl := Except.error.inj hnone
    exact textFault?_ne_notFound named text
  | none =>
    rw [target_join hl hd plain text] at hnone
    dsimp only at hnone
    split at hnone
    · cases hnone
    · split at hnone
      · cases hnone
      · cases hnone

/-- A directory below one that is there is made, or nothing is. -/
theorem makeDirectories_join_unchanged {base name : String} {fault : Fault}
    (there : fs.isDirectory base = true) (plain : IsPlainName name)
    (h : (fs.makeDirectories (Path.join base name)).2 = .error fault) :
    (fs.makeDirectories (Path.join base name)).1 = fs := by
  unfold makeDirectories at h ⊢
  split
  · rfl
  · rename_i hne
    rw [if_neg hne] at h
    unfold makeAll at h ⊢
    split
    · rename_i heq; rw [heq] at h; cases h
    · rename_i heq; exact absurd heq (makeDirectory_join_ne_notFound there plain)
    · rfl

end Filesystem

end DriveBench
