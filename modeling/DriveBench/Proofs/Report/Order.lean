import DriveBench.Proofs.Report.Routine

/-!
# The order of the expected files

Where no failure is of all figures, what comes of a plan is a matter of the plan
and of the answer alone. So files expected in another order have the same said
of them in that order.
-/

namespace DriveBench

namespace Rendering

/-- No failure that the routine knows is of all figures. -/
structure Routine.Lenient (routine : Routine) : Prop where
  draw {request : Request} {failure : Failure} : routine.draw request = .error failure →
    failure.isFatal = false
  excuse (request : Request) (fault : Fault) : (routine.excuse request fault).isFatal = false

theorem Routine.Lenient.answer {routine : Routine} (lenient : routine.Lenient) {files : Filesystem}
    {request : Request} {failure : Failure} (h : routine.answer files request = .error failure) :
    failure.isFatal = false := by
  unfold Routine.answer at h
  split at h
  · rename_i hdraw
    cases h
    exact lenient.draw hdraw
  · split at h
    · cases h
      exact lenient.excuse _ _
    · cases h

end Rendering

namespace Report

open Filesystem (Lays)
open Rendering (Backend Exchange Failure Request Routine)

variable {σ τ : Type} {settings : Settings} {routine : Routine} {initial : Filesystem}
  {others : List String} {plans : List (String × Plan)} {exchanges exchanges' : List Exchange}
  {status : Status} {processed : List Processed} {answer : Request → Except Failure Unit}
  {o : Outcome σ} {o' : Outcome τ}

-- ---------------------------------------------------------------------------
-- Each plan by itself
-- ---------------------------------------------------------------------------

def Plan.exchange? (answer : Request → Except Failure Unit) : Plan → Option Exchange
  | .skip _ => none
  | .render request => some ⟨request, answer request⟩

def Plan.verdict (answer : Request → Except Failure Unit) : Plan → Verdict
  | .skip reason => .skipped reason
  | .render request => match answer request with
    | .ok () => .written request.output
    | .error failure => .skipped (.notRendered failure)

theorem Follows.eq_map (h : Follows plans exchanges status processed)
    (answers : ∀ e ∈ exchanges, e.answer = answer e.request)
    (lenient : ∀ request failure, answer request = .error failure → failure.isFatal = false) :
    status = .success ∧ exchanges = plans.filterMap (fun plan => plan.2.exchange? answer) ∧
      processed = plans.map fun plan => ⟨plan.1, plan.2.verdict answer⟩ := by
  induction h with
  | nil => exact ⟨rfl, rfl, rfl⟩
  | skipped _ ih =>
    obtain ⟨hstatus, hexchanges, hprocessed⟩ := ih answers
    exact ⟨hstatus, hexchanges, by rw [hprocessed]; rfl⟩
  | written _ ih | failed _ _ ih =>
    obtain ⟨hanswer, hrest⟩ := List.forall_mem_cons.1 answers
    obtain ⟨hstatus, hexchanges, hprocessed⟩ := ih hrest
    dsimp only at hanswer
    refine ⟨hstatus, ?_, ?_⟩
    · rw [List.filterMap_cons, Plan.exchange?, ← hanswer, hexchanges]
    · simp only [List.map_cons, Plan.verdict, ← hanswer, hprocessed]
  | aborted hfatal =>
    rw [lenient _ _ (answers _ List.mem_cons_self).symm] at hfatal
    cases hfatal

theorem plans_expecting (settings : Settings) (initial : Filesystem) (names : List String) :
    (settings.expecting names).plans initial = names.map fun name =>
      (settings.inputPath name, settings.plan initial (settings.inputPath name)) := rfl

theorem plans_perm (perm : settings.expectedFiles.Perm others) :
    (settings.plans initial).Perm ((settings.expecting others).plans initial) := by
  rw [plans_expecting]
  exact perm.map _

-- ---------------------------------------------------------------------------
-- The names of the images
-- ---------------------------------------------------------------------------

theorem imageNames_cons (exchange : Exchange) (exchanges : List Exchange) :
    ((exchange :: exchanges).filterMap routine.image?).map Prod.fst =
      ((routine.image? exchange).map Prod.fst).toList ++
        (exchanges.filterMap routine.image?).map Prod.fst := by
  rw [List.filterMap_cons]
  cases routine.image? exchange <;> rfl

theorem imageName_sublist {path : String} {exchange : Exchange}
    (title : exchange.request.figure.title = Path.stem path) :
    ((routine.image? exchange).map Prod.fst).toList.Sublist [imageName path] := by
  unfold Routine.image?
  split <;> simp [imageName, title]

theorem Follows.names_sublist (h : Follows plans exchanges status processed)
    (titles : ∀ path request, (path, .render request) ∈ plans →
      request.figure.title = Path.stem path) :
    ((exchanges.filterMap routine.image?).map Prod.fst).Sublist
      (plans.map fun plan => imageName plan.1) := by
  induction h with
  | nil => exact .refl _
  | skipped _ ih =>
    exact (ih fun path request hp => titles path request (List.mem_cons_of_mem _ hp)).cons _
  | written _ ih | failed _ _ ih =>
    rw [imageNames_cons]
    exact (imageName_sublist (titles _ _ List.mem_cons_self)).append
      (ih fun path request hp => titles path request (List.mem_cons_of_mem _ hp))
  | aborted _ =>
    rw [imageNames_cons]
    exact (imageName_sublist (titles _ _ List.mem_cons_self)).append (List.nil_sublist _)

theorem imageName_inputPath {name : String} (h : IsTableName name) :
    imageName (settings.inputPath name) = Path.stem name ++ ".png" := by
  rw [imageName, Settings.inputPath, Path.stem_join_of_plain h.plain]

theorem Told.nodup_images (told : Told settings routine initial exchanges o)
    (names : ∀ name ∈ settings.expectedFiles, IsTableName name)
    (apart : (settings.expectedFiles.map Path.stem).Nodup) :
    ((routine.images exchanges).map Prod.fst).Nodup := by
  have himages : (settings.plans initial).map (fun plan => imageName plan.1) =
      (settings.expectedFiles.map Path.stem).map (· ++ ".png") := by
    simp only [Settings.plans, List.map_map]
    exact List.map_congr_left fun name hname => imageName_inputPath (names name hname)
  have distinct : ((settings.plans initial).map fun plan => imageName plan.1).Nodup := by
    rw [himages]
    exact apart.map fun stem stem' heq => by simpa [← String.toList_inj] using heq
  rw [Routine.images, List.map_reverse, List.nodup_reverse]
  refine distinct.sublist (told.follows.names_sublist fun path request hp => ?_)
  obtain ⟨name, -, hplan⟩ := List.mem_map.1 hp
  obtain ⟨hpath, hplan⟩ := Prod.mk.inj hplan
  rw [← hpath]
  exact (request_of_plan hplan).2

-- ---------------------------------------------------------------------------
-- Runs
-- ---------------------------------------------------------------------------

theorem Told.reordered (told : Told settings routine initial exchanges o)
    (told' : Told (settings.expecting others) routine initial exchanges' o')
    (lenient : routine.Lenient) (names : ∀ name ∈ settings.expectedFiles, IsTableName name)
    (apart : (settings.expectedFiles.map Path.stem).Nodup)
    (perm : settings.expectedFiles.Perm others) :
    o'.status = o.status ∧ o'.processed.Perm o.processed ∧
      o.world.files.Same o'.world.files := by
  obtain ⟨hstatus, hexchanges, hprocessed⟩ :=
    told.follows.eq_map told.answers fun _ _ => lenient.answer
  obtain ⟨hstatus', hexchanges', hprocessed'⟩ :=
    told'.follows.eq_map told'.answers fun _ _ => lenient.answer
  have plans : (settings.plans initial).Perm ((settings.expecting others).plans initial) :=
    plans_perm perm
  have sent : exchanges.Perm exchanges' := by
    rw [hexchanges, hexchanges']
    exact plans.filterMap _
  refine ⟨hstatus'.trans hstatus.symm, ?_, ?_⟩
  · rw [hprocessed, hprocessed']
    exact (plans.map _).symm
  · -- both runs make the same directory or none, and lay the same images into it
    by_cases hnone : exchanges = []
    · subst hnone
      rw [told.unprepared rfl, told'.unprepared sent.symm.eq_nil]
      exact .refl
    · have hsome : exchanges' ≠ [] := fun hnil => hnone (hnil ▸ sent).eq_nil
      obtain ⟨-, place, hl, -, lays⟩ := told.prepared hnone
      obtain ⟨-, place', hl', -, lays'⟩ := told'.prepared hsome
      obtain rfl : place = place' := Except.ok.inj (hl.symm.trans hl')
      have laid : (routine.images exchanges).Perm (routine.images exchanges') :=
        (List.reverse_perm _).trans ((sent.filterMap _).trans (List.reverse_perm _).symm)
      exact Lays.perm laid (told.nodup_images names apart) lays lays'

/-- Files expected in another order are dealt with alike, if their images have
distinct names and no failure of the backend is of all figures. -/
theorem run_reordered (settings : Settings) (others : List String) (routine : Routine)
    (backend : Backend σ) (initial : Filesystem) (state state' : σ)
    (names : ∀ name ∈ settings.expectedFiles, IsTableName name)
    (apart : (settings.expectedFiles.map Path.stem).Nodup)
    (plain : IsPlainName settings.plotsSubdir) (keeps : backend.KeepsTo routine)
    (lenient : routine.Lenient) (perm : settings.expectedFiles.Perm others) :
    ∃ first second, run settings (.ready backend) state initial = .ok first ∧
      run (settings.expecting others) (.ready backend) state' initial = .ok second ∧
      second.status = first.status ∧ second.written.Perm first.written ∧
      second.skipped.Perm first.skipped ∧ first.world.files.Same second.world.files := by
  cases there : initial.isDirectory settings.resultsDir with
  | false =>
    have gone : initial.isDirectory (settings.expecting others).resultsDir = false := there
    exact ⟨_, _, if_neg (by simp [there]), if_neg (by simp [gone]), rfl, .refl _, .refl _, .refl⟩
  | true =>
    obtain ⟨first, exchanges, hfirst, told⟩ := exists_told routine names plain keeps there state
    have names' : ∀ name ∈ (settings.expecting others).expectedFiles, IsTableName name :=
      fun name hname => names name (perm.mem_iff.2 hname)
    have plain' : IsPlainName (settings.expecting others).plotsSubdir := plain
    obtain ⟨second, exchanges', hsecond, told'⟩ := exists_told routine names' plain' keeps there state'
    obtain ⟨hstatus, hprocessed, hsame⟩ := told.reordered told' lenient names apart perm
    exact ⟨first, second, hfirst, hsecond, hstatus, hprocessed.filterMap _, hprocessed.filterMap _,
      hsame⟩

/-- Four files expected backwards: there is a directory where an image should
go, one recording is not drawn, and one is missing. -/
theorem run_reordered_backwards :
    let settings : Settings := { expectedFiles := ["a.csv", "b.csv", "c.csv", "d.csv"] }
    let others := settings.expectedFiles.reverse
    let initial := ((withResults
      [("a.csv", "time,id\n0,1\n"), ("b.csv", "time,iq\n0,1\n"), ("c.csv", "time,id\n0,1\n")]
      ).makeDirectories "results/plots/b.png").1
    let routine : Routine :=
      { draw := fun request => if request.figure.title = "c" then .error (.drawing "boom")
          else .ok request.figure.title.toUTF8
        excuse := fun request fault => .saving request.output (.storage fault) }
    (∀ name ∈ settings.expectedFiles, IsTableName name) ∧
      (settings.expectedFiles.map Path.stem).Nodup ∧ IsPlainName settings.plotsSubdir ∧
      routine.backend.KeepsTo routine ∧ routine.Lenient ∧ settings.expectedFiles.Perm others ∧
      ∃ first second, run settings (.ready routine.backend) () initial = .ok first ∧
        run (settings.expecting others) (.ready routine.backend) () initial = .ok second ∧
        second.status = first.status ∧ second.written.Perm first.written ∧
        second.skipped.Perm first.skipped ∧ first.world.files.Same second.world.files := by
  intro settings others initial routine
  have names : ∀ name ∈ settings.expectedFiles, IsTableName name := by decide +kernel
  have apart : (settings.expectedFiles.map Path.stem).Nodup := by decide +kernel
  have plain : IsPlainName settings.plotsSubdir := by decide
  have lenient : routine.Lenient := by
    refine ⟨fun {request failure} hdraw => ?_, fun _ _ => rfl⟩
    by_cases htitle : request.figure.title = "c"
    · simp only [routine, if_pos htitle, Except.error.injEq] at hdraw
      rw [← hdraw]
      rfl
    · simp [routine, if_neg htitle] at hdraw
  have perm : settings.expectedFiles.Perm others := (List.reverse_perm _).symm
  refine ⟨names, apart, plain, routine.keepsTo_backend, lenient, perm, ?_⟩
  exact run_reordered settings others routine routine.backend initial () () names apart plain
    routine.keepsTo_backend lenient perm

end Report

end DriveBench
