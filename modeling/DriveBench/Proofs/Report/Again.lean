import DriveBench.Proofs.Report.Routine

/-!
# A report run again

The second of two runs begins with what the first left. What was made is no
recording, so the plans are those of the first run; no image is in the way of
another, so the answers are the same, and the same images are laid once more.
-/

namespace DriveBench.Report

open Rendering (Backend Exchange Failure Request Routine)

variable {σ τ : Type} {settings : Settings} {routine : Routine} {initial files : Filesystem}
  {path : String} {exchanges : List Exchange} {o : Outcome σ}

-- ---------------------------------------------------------------------------
-- Recordings after a run
-- ---------------------------------------------------------------------------

theorem endsIn_of_laid {place location : Location}
    (h : (Filesystem.laid? place (routine.images exchanges) location).isSome) :
    location.EndsIn imageSuffix := by
  obtain ⟨entry, hentry⟩ := Option.isSome_iff_exists.1 h
  obtain ⟨name, bytes, hmem, rfl, -⟩ := Filesystem.laid?_eq_some hentry
  obtain ⟨e, -, he⟩ := List.mem_filterMap.1 (List.mem_reverse.1 hmem)
  unfold Routine.image? at he
  split at he
  · obtain ⟨rfl, -⟩ := Prod.mk.inj (Option.some.inj he)
    exact ⟨_, place, rfl, e.request.figure.title.toList, by simp⟩
  · cases he

theorem Told.get?_table (told : Told settings routine initial exchanges o) {location : Location}
    (table : location.EndsIn tableSuffix) :
    o.world.files.get? location = initial.get? location ∨
      initial.get? location = none ∧ o.world.files.get? location = some .directory := by
  by_cases hnone : exchanges = []
  · rw [told.unprepared hnone]
    exact .inl rfl
  · obtain ⟨-, place, -, -, lays⟩ := told.prepared hnone
    have hlaid : Filesystem.laid? place (routine.images exchanges) location = none := by
      by_contra hsome
      have himage := endsIn_of_laid (Option.isSome_iff_ne_none.2 hsome)
      exact absurd (table.eq himage rfl) (by decide)
    have hview := lays.view location
    rw [hlaid, Option.none_or] at hview
    rw [hview]
    have adds := Filesystem.adds_makeDirectories initial settings.plotsDir
    exact (adds.view location).imp_right fun ⟨_, hadded⟩ => hadded

theorem Told.lookup_table (told : Told settings routine initial exchanges o)
    (there : initial.isDirectory settings.resultsDir = true) {name : String} (h : IsTableName name)
    (bytes : ByteArray) : o.world.files.lookup (settings.inputPath name) = .ok (.file bytes) ↔
      initial.lookup (settings.inputPath name) = .ok (.file bytes) := by
  obtain ⟨location, hl, hd⟩ := Filesystem.lookup_ok.1 (Filesystem.isDirectory_iff.1 there)
  have hl' := Filesystem.locate_of_keeps told.keeps hl
  have hd' := told.keeps.directory location hd
  have table : Location.EndsIn tableSuffix (name :: location) := by
    obtain ⟨base, rfl⟩ := h.table
    exact ⟨_, location, rfl, base.toList, by simp⟩
  have hfile : o.world.files.get? (name :: location) = some (.file bytes) ↔
      initial.get? (name :: location) = some (.file bytes) := by
    rcases told.get?_table table with hsame | ⟨hnone, hdir⟩
    · rw [hsame]
    · simp [hnone, hdir]
  rw [Settings.inputPath, Filesystem.lookup_join_file_iff hl' hd' h.plain,
    Filesystem.lookup_join_file_iff hl hd h.plain, hfile]

theorem plan_congr
    (found : ∀ bytes, files.lookup path = .ok (.file bytes) ↔ initial.lookup path = .ok (.file bytes))
    (makes : (files.makeDirectories settings.plotsDir).2 =
      (initial.makeDirectories settings.plotsDir).2) :
    settings.plan files path = settings.plan initial path := by
  cases hfound : initial.isFile path with
  | true =>
    obtain ⟨bytes, hbytes⟩ := Filesystem.isFile_iff.1 hfound
    rw [Settings.plan, Settings.plan, hbytes, (found bytes).2 hbytes, makes]
  | false =>
    have hfiles : files.isFile path = false := by
      by_contra hfile
      obtain ⟨bytes, hbytes⟩ := Filesystem.isFile_iff.1 (by simpa using hfile)
      rw [Filesystem.isFile_iff.2 ⟨bytes, (found bytes).1 hbytes⟩] at hfound
      cases hfound
    rw [plan_missing hfound, plan_missing hfiles]

-- ---------------------------------------------------------------------------
-- The directory of the images after a run
-- ---------------------------------------------------------------------------

theorem Told.makeDirectories (told : Told settings routine initial exchanges o)
    (hsome : exchanges ≠ []) :
    o.world.files.makeDirectories settings.plotsDir = (o.world.files, .ok ()) := by
  obtain ⟨-, place, hl, hd, lays⟩ := told.prepared hsome
  have hl' := Filesystem.locate_of_keeps lays.keeps hl
  exact Filesystem.makeDirectories_of_isDirectory (Filesystem.isDirectory_iff.2
    (Filesystem.lookup_ok.2 ⟨place, hl', lays.directory_iff.2 hd⟩))

theorem Told.plans (told : Told settings routine initial exchanges o)
    (there : initial.isDirectory settings.resultsDir = true)
    (names : ∀ name ∈ settings.expectedFiles, IsTableName name) :
    settings.plans o.world.files = settings.plans initial := by
  have makes : (o.world.files.makeDirectories settings.plotsDir).2 =
      (initial.makeDirectories settings.plotsDir).2 := by
    by_cases hnone : exchanges = []
    · rw [told.unprepared hnone]
    · rw [told.makeDirectories hnone, (told.prepared hnone).1]
  refine List.map_congr_left fun name hname => ?_
  rw [plan_congr (told.lookup_table there (names name hname)) makes]

theorem Told.answer (told : Told settings routine initial exchanges o) {request : Request}
    (planned : (path, .render request) ∈ settings.plans initial) :
    routine.answer (settings.prepared o.world.files) request =
      routine.answer (settings.prepared initial) request := by
  by_cases hnone : exchanges = []
  · rw [told.unprepared hnone]
  · obtain ⟨-, place, hl, hd, lays⟩ := told.prepared hnone
    obtain ⟨name, -, hplan⟩ := List.mem_map.1 planned
    obtain ⟨houtput, -⟩ := request_of_plan (Prod.mk.inj hplan).2
    rw [Settings.prepared, told.makeDirectories hnone]
    exact answer_of_lays lays hl hd houtput

-- ---------------------------------------------------------------------------
-- The same plans with the same answers
-- ---------------------------------------------------------------------------

theorem Follows.unique {answer : Request → Except Failure Unit} {plans : List (String × Plan)}
    {exchanges exchanges' : List Exchange} {status status' : Status}
    {processed processed' : List Processed} (h : Follows plans exchanges status processed)
    (h' : Follows plans exchanges' status' processed')
    (answers : ∀ e ∈ exchanges, e.answer = answer e.request)
    (answers' : ∀ e ∈ exchanges', e.answer = answer e.request) :
    exchanges' = exchanges ∧ status' = status ∧ processed' = processed := by
  -- where a request was sent, its answer leaves one of the three ways on
  induction h generalizing exchanges' status' processed' with
  | nil =>
    cases h'
    exact ⟨rfl, rfl, rfl⟩
  | skipped _ ih =>
    cases h' with
    | skipped h' =>
      obtain ⟨rfl, rfl, rfl⟩ := ih h' answers answers'
      exact ⟨rfl, rfl, rfl⟩
  | written _ ih =>
    obtain ⟨hanswer, hrest⟩ := List.forall_mem_cons.1 answers
    cases h' with
    | written h' =>
      obtain ⟨rfl, rfl, rfl⟩ := ih h' hrest (List.forall_mem_cons.1 answers').2
      exact ⟨rfl, rfl, rfl⟩
    | failed _ _ | aborted _ =>
      cases hanswer.trans (List.forall_mem_cons.1 answers').1.symm
  | failed hfatal _ ih =>
    obtain ⟨hanswer, hrest⟩ := List.forall_mem_cons.1 answers
    cases h' with
    | written _ => cases hanswer.trans (List.forall_mem_cons.1 answers').1.symm
    | failed _ h' =>
      cases hanswer.trans (List.forall_mem_cons.1 answers').1.symm
      obtain ⟨rfl, rfl, rfl⟩ := ih h' hrest (List.forall_mem_cons.1 answers').2
      exact ⟨rfl, rfl, rfl⟩
    | aborted hfatal' =>
      cases hanswer.trans (List.forall_mem_cons.1 answers').1.symm
      rw [hfatal] at hfatal'
      cases hfatal'
  | aborted hfatal =>
    have hanswer := (List.forall_mem_cons.1 answers).1
    cases h' with
    | written _ => cases hanswer.trans (List.forall_mem_cons.1 answers').1.symm
    | failed hfatal' _ =>
      cases hanswer.trans (List.forall_mem_cons.1 answers').1.symm
      rw [hfatal] at hfatal'
      cases hfatal'
    | aborted _ =>
      cases hanswer.trans (List.forall_mem_cons.1 answers').1.symm
      exact ⟨rfl, rfl, rfl⟩

theorem Told.again (told : Told settings routine initial exchanges o)
    (there : initial.isDirectory settings.resultsDir = true)
    (names : ∀ name ∈ settings.expectedFiles, IsTableName name) {exchanges' : List Exchange}
    {o' : Outcome τ} (told' : Told settings routine o.world.files exchanges' o') :
    o'.status = o.status ∧ o'.processed = o.processed ∧ o.world.files.Same o'.world.files := by
  have hfollows := told'.follows
  rw [told.plans there names] at hfollows
  have answers' : ∀ e ∈ exchanges', e.answer = routine.answer (settings.prepared initial) e.request := by
    intro e he
    obtain ⟨path, planned⟩ := hfollows.planned e he
    exact (told'.answers e he).trans (told.answer planned)
  obtain ⟨rfl, hstatus, hprocessed⟩ := told.follows.unique hfollows told.answers answers'
  refine ⟨hstatus, hprocessed, ?_⟩
  -- the images of the second run lie over those of the first, which are the same
  by_cases hnone : exchanges' = []
  · rw [told'.unprepared hnone]
    exact .refl
  · obtain ⟨-, place, hl, -, lays⟩ := told.prepared hnone
    obtain ⟨-, place', hl', -, lays'⟩ := told'.prepared hnone
    rw [Settings.prepared, told.makeDirectories hnone] at hl' lays'
    obtain rfl : place = place' :=
      Except.ok.inj ((Filesystem.locate_of_keeps lays.keeps hl).symm.trans hl')
    exact lays.again lays'

/-- A report run again with a backend that keeps to a routine says the same and
changes nothing. -/
theorem run_again (settings : Settings) (routine : Routine) (backend : Backend σ)
    (initial : Filesystem) (state state' : σ)
    (names : ∀ name ∈ settings.expectedFiles, IsTableName name)
    (plain : IsPlainName settings.plotsSubdir) (keeps : backend.KeepsTo routine) :
    ∃ first second, run settings (.ready backend) state initial = .ok first ∧
      run settings (.ready backend) state' first.world.files = .ok second ∧
      second.status = first.status ∧ second.written = first.written ∧
      second.skipped = first.skipped ∧ first.world.files.Same second.world.files := by
  cases there : initial.isDirectory settings.resultsDir with
  | false =>
    exact ⟨_, _, if_neg (by simp [there]), if_neg (by simp [there]), rfl, rfl, rfl, .refl⟩
  | true =>
    obtain ⟨first, exchanges, hfirst, told⟩ := exists_told routine names plain keeps there state
    have there' := Filesystem.isDirectory_of_keeps told.keeps there
    obtain ⟨second, exchanges', hsecond, told'⟩ :=
      exists_told routine names plain keeps there' state'
    obtain ⟨hstatus, hprocessed, hsame⟩ := told.again there names told'
    refine ⟨first, second, hfirst, hsecond, hstatus, ?_, ?_, hsame⟩
    · rw [Outcome.written, hprocessed, Outcome.written]
    · rw [Outcome.skipped, hprocessed, Outcome.skipped]

/-- There is a directory where an image should go, a recording that is not
drawn, and one at which the run ends. -/
theorem run_again_obstructed :
    let settings : Settings := { expectedFiles := ["a.csv", "b.csv", "c.csv", "d.csv", "e.csv"] }
    let initial := ((withResults (settings.expectedFiles.map (·, "time,id\n0,1\n"))).makeDirectories
      "results/plots/b.png").1
    let routine : Routine :=
      { draw := fun request => match request.figure.title with
          | "c" => .error (.drawing "boom")
          | "d" => .error (.unavailable "no font" "install one")
          | title => .ok title.toUTF8
        excuse := fun request fault => .saving request.output (.storage fault) }
    (∀ name ∈ settings.expectedFiles, IsTableName name) ∧ IsPlainName settings.plotsSubdir ∧
      routine.backend.KeepsTo routine ∧
      ∃ first second, run settings (.ready routine.backend) () initial = .ok first ∧
        run settings (.ready routine.backend) () first.world.files = .ok second ∧
        second.status = first.status ∧ second.written = first.written ∧
        second.skipped = first.skipped ∧ first.world.files.Same second.world.files := by
  intro settings initial routine
  have names : ∀ name ∈ settings.expectedFiles, IsTableName name := by decide +kernel
  have plain : IsPlainName settings.plotsSubdir := by decide
  refine ⟨names, plain, routine.keepsTo_backend, ?_⟩
  exact run_again settings routine routine.backend initial () () names plain
    routine.keepsTo_backend

end DriveBench.Report
