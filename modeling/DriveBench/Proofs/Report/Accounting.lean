import DriveBench.Proofs.Report.Attempt

/-!
# The accounts of a run

Each file that a run dealt with stands in exactly one of the two lists of the
outcome, at its turn, repeats included, and the messages say the same. Where a
run is ended early, the file at which it ended is in neither list, and whatever
stands behind it makes no difference.
-/

namespace DriveBench.Report

open Rendering (Failure Overflow Rendered Renderer)

/-- Paths parted, in order, into the images written for them and those skipped. -/
inductive Split (settings : Settings) :
    List String → List String → List (String × SkipReason) → Prop
  | nil : Split settings [] [] []
  | written : Split settings paths written skipped →
      Split settings (path :: paths) (settings.outputPath path :: written) skipped
  | skipped : Split settings paths written skipped →
      Split settings (path :: paths) written ((path, reason) :: skipped)

def logged (level : Log.Level) (log : List Log.Message) : List Log.Message :=
  log.filter (·.level = level)

theorem logged_append (level : Log.Level) (front back : List Log.Message) :
    logged level (front ++ back) = logged level front ++ logged level back :=
  List.filter_append ..

def wrote (output : String) : Log.Message := say .info s!"Wrote {output}"

variable {σ : Type} {settings : Settings} {renderer : Renderer σ} {path : String} {w : World σ}

theorem logged_announced {level : Log.Level} (h : level ≠ .debug) (figure : Figure) :
    logged level (announced renderer figure) = [] := by
  cases renderer <;> simp [announced, logged, Ne.symm h]

theorem logged_read {level : Log.Level} (h : level ≠ .debug) (recording : Recording)
    (log : List Log.Message) : logged level (parsed recording path :: log) = logged level log := by
  simp [logged, parsed, Ne.symm h]

theorem attempts_verdict {verdict : Verdict} {log : List Log.Message} {next : World σ}
    (h : Attempts settings renderer path w ⟨.ok verdict, log, next⟩) :
    logged .error log = [] ∧
      ((∃ reason, verdict = .skipped reason ∧ (logged .warn log).length = 1 ∧ logged .info log = []) ∨
        verdict = .written (settings.outputPath path) ∧ logged .warn log = [] ∧
          logged .info log = [wrote (settings.outputPath path)]) := by
  have hwarn : (Log.Level.warn ≠ .debug) := by decide
  have hinfo : (Log.Level.info ≠ .debug) := by decide
  have herror : (Log.Level.error ≠ .debug) := by decide
  cases h with
  | unreadable _ => exact ⟨rfl, .inl ⟨_, rfl, rfl, rfl⟩⟩
  | noRecords _ _ => exact ⟨rfl, .inl ⟨_, rfl, rfl, rfl⟩⟩
  | noFields _ _ _ => exact ⟨rfl, .inl ⟨_, rfl, rfl, rfl⟩⟩
  | unprepared _ _ => exact ⟨rfl, .inl ⟨_, rfl, rfl, rfl⟩⟩
  | failed _ _ _ _ _ =>
    simp only [List.cons_append, logged_read hwarn, logged_read hinfo, logged_read herror,
      logged_append, logged_announced hwarn, logged_announced hinfo, logged_announced herror]
    exact ⟨rfl, .inl ⟨_, rfl, rfl, rfl⟩⟩
  | written _ _ _ _ =>
    simp only [List.cons_append, logged_read hwarn, logged_read hinfo, logged_read herror,
      logged_append, logged_announced hwarn, logged_announced hinfo, logged_announced herror]
    exact ⟨rfl, .inr ⟨trivial, rfl, rfl⟩⟩

theorem attempts_failure {failure : Failure} {log : List Log.Message} {next : World σ}
    (h : Attempts settings renderer path w ⟨.error failure, log, next⟩) :
    ∃ reason hint, failure = .unavailable reason hint ∧
      (∀ level, level ≠ .debug → logged level log = []) ∧
      ∃ recording figure state files,
        renderer.render recording figure (settings.outputPath path) state files =
          .ok ⟨.error (.unavailable reason hint), next.state, next.files⟩ := by
  cases h with
  | @aborted recording ready rendered _ _ _ hr hresult hfatal =>
    obtain ⟨reason, hint, rfl⟩ := Failure.isFatal_iff.1 hfatal
    refine ⟨reason, hint, rfl, fun level hlevel => ?_, recording, settings.figureOf recording,
      ready.state, ready.files, ?_⟩
    · rw [logged_read hlevel, logged_announced hlevel]
    · rw [← hresult]
      exact hr

-- ---------------------------------------------------------------------------
-- Over the expected files
-- ---------------------------------------------------------------------------

variable {expected : List Expected} {o : Outcome σ}

theorem runs_length (h : Runs settings renderer expected w o) :
    o.processed.length ≤ expected.length ∧
      (o.status = .success ∧ o.processed.length = expected.length ∨
        o.status = .plottingUnavailable ∧ o.processed.length < expected.length) := by
  induction h with
  | nil => simp
  | missing _ _ ih | done _ _ _ ih => simpa using ih
  | aborted _ _ => simp

theorem runs_split (h : Runs settings renderer expected w o) :
    Split settings ((expected.take o.processed.length).map Expected.path) o.written o.skipped := by
  induction h with
  | nil => exact .nil
  | missing _ _ ih => exact .skipped ih
  | done _ ha _ ih =>
    obtain ⟨-, ⟨reason, rfl, -, -⟩ | ⟨rfl, -, -⟩⟩ := attempts_verdict (attempts_of_attempt ha)
    · exact .skipped ih
    · exact .written ih
  | aborted _ _ => exact .nil

theorem runs_warnings (h : Runs settings renderer expected w o) :
    (logged .warn o.log).length = o.skipped.length := by
  induction h with
  | nil => rfl
  | missing _ _ ih => simpa [logged_append, Outcome.skipped, logged, say] using ih
  | done _ ha _ ih =>
    rw [Outcome.log_after, logged_append, List.length_append, ih]
    obtain ⟨-, ⟨reason, rfl, hwarn, -⟩ | ⟨rfl, hwarn, -⟩⟩ := attempts_verdict (attempts_of_attempt ha)
    · rw [hwarn, Nat.add_comm]; rfl
    · rw [hwarn, List.length_nil, Nat.zero_add]; rfl
  | aborted _ ha =>
    obtain ⟨reason, hint, rfl, hnone, -⟩ := attempts_failure (attempts_of_attempt ha)
    rw [logged_append, hnone _ (by decide)]
    rfl

theorem runs_infos (h : Runs settings renderer expected w o) :
    logged .info o.log =
      o.written.map wrote ++ if o.status = .success then [say .info "Done"] else [] := by
  induction h with
  | nil => rfl
  | missing _ _ ih => rw [Outcome.log_after, logged_append, ih]; rfl
  | done _ ha _ ih =>
    rw [Outcome.log_after, logged_append, ih]
    obtain ⟨-, ⟨reason, rfl, -, hinfo⟩ | ⟨rfl, -, hinfo⟩⟩ := attempts_verdict (attempts_of_attempt ha)
    · rw [hinfo]; rfl
    · rw [hinfo]; rfl
  | aborted _ ha =>
    obtain ⟨reason, hint, rfl, hnone, -⟩ := attempts_failure (attempts_of_attempt ha)
    rw [logged_append, hnone _ (by decide)]
    rfl

theorem runs_errors_success (h : Runs settings renderer expected w o) (hs : o.status = .success) :
    logged .error o.log = [] := by
  induction h with
  | nil => rfl
  | missing _ _ ih => rw [Outcome.log_after, logged_append, ih hs]; rfl
  | done _ ha _ ih =>
    rw [Outcome.log_after, logged_append, ih hs, (attempts_verdict (attempts_of_attempt ha)).1]
    rfl
  | aborted _ _ => cases hs

theorem runs_unavailable (h : Runs settings renderer expected w o)
    (hs : o.status = .plottingUnavailable) :
    ∃ e reason hint, expected[o.processed.length]? = some e ∧
      logged .error o.log =
        [say .error s!"Plot generation failed: plotting unavailable: {reason}", say .error hint] ∧
      (∃ recording figure state files,
        renderer.render recording figure (settings.outputPath e.path) state files =
          .ok ⟨.error (.unavailable reason hint), o.world.state, o.world.files⟩) ∧
      ∀ others, processAll settings renderer
        (expected.take o.processed.length ++ e :: others) w = .ok o := by
  induction h with
  | nil => cases hs
  | missing hmissing _ ih =>
    obtain ⟨e, reason, hint, hget, herror, hanswer, hcut⟩ := ih hs
    refine ⟨e, reason, hint, by simpa using hget, ?_, hanswer, fun others => ?_⟩
    · rw [Outcome.log_after, logged_append, herror]; rfl
    · simp only [Outcome.processed_after, List.length_cons, List.take_succ_cons, List.cons_append,
        processAll_missing hmissing, hcut others]
      rfl
  | done hthere ha _ ih =>
    obtain ⟨e, reason, hint, hget, herror, hanswer, hcut⟩ := ih hs
    refine ⟨e, reason, hint, by simpa using hget, ?_, hanswer, fun others => ?_⟩
    · rw [Outcome.log_after, logged_append, herror,
        (attempts_verdict (attempts_of_attempt ha)).1]
      rfl
    · simp only [Outcome.processed_after, List.length_cons, List.take_succ_cons, List.cons_append,
        processAll_found hthere, ha, bind, Except.bind, hcut others]
      rfl
  | @aborted e rest w failure log next hthere ha =>
    obtain ⟨reason, hint, rfl, hnone, hanswer⟩ := attempts_failure (attempts_of_attempt ha)
    refine ⟨e, reason, hint, rfl, ?_, hanswer, fun others => ?_⟩
    · rw [logged_append, hnone _ (by decide)]; rfl
    · simp only [List.length_nil, List.take_zero, List.nil_append, processAll_found hthere, ha,
        bind, Except.bind]

-- ---------------------------------------------------------------------------
-- Runs
-- ---------------------------------------------------------------------------

def Settings.expecting (settings : Settings) (names : List String) : Settings :=
  { settings with expectedFiles := names }

theorem processAll_expecting (names : List String) (expected : List Expected) (w : World σ) :
    processAll (settings.expecting names) renderer expected w =
      processAll settings renderer expected w := by
  have hattempt : ∀ path w, attempt (settings.expecting names) renderer path w =
      attempt settings renderer path w := fun _ _ => rfl
  induction expected generalizing w with
  | nil => rfl
  | cons e rest ih =>
    cases hfound : e.found with
    | false => rw [processAll_missing hfound, processAll_missing hfound, ih]
    | true => simp only [processAll_found hfound, hattempt, ih]

theorem breaks_at {overflow : Overflow} {w : World σ}
    (hb : Breaks settings renderer overflow expected w) :
    ∃ front e back o, expected = front ++ e :: back ∧ processAll settings renderer front w = .ok o ∧
      o.status = .success ∧ BreaksOff settings renderer e.path o.world overflow := by
  induction hb with
  | here _ hoff => exact ⟨[], _, _, _, rfl, rfl, rfl, hoff⟩
  | @missing first rest w hmissing _ ih =>
    obtain ⟨front, e, back, o, rfl, ho, hs, hoff⟩ := ih
    have hfront : processAll settings renderer (first :: front) w = _ := processAll_missing hmissing front
    rw [ho] at hfront
    exact ⟨first :: front, e, back, _, rfl, hfront, hs, hoff⟩
  | @done first rest w verdict log next hthere ha _ ih =>
    obtain ⟨front, e, back, o, rfl, ho, hs, hoff⟩ := ih
    have hfront : processAll settings renderer (first :: front) w = _ := processAll_found hthere front
    simp only [ha, bind, Except.bind, ho] at hfront
    exact ⟨first :: front, e, back, _, rfl, hfront, hs, hoff⟩

/-- A run that is broken off by its request for one of the expected files, after
those in front of that were dealt with in full. -/
def RunBreaksOff (settings : Settings) (renderer : Renderer σ) (state : σ) (files : Filesystem)
    (overflow : Overflow) : Prop :=
  ∃ front name back o, settings.expectedFiles = front ++ name :: back ∧
    run (settings.expecting front) renderer state files = .ok o ∧ o.status = .success ∧
    BreaksOff settings renderer (settings.inputPath name) o.world overflow

theorem runBreaksOff_of_error {state : σ} {files : Filesystem} {overflow : Overflow}
    (broken : run settings renderer state files = .error overflow) :
    RunBreaksOff settings renderer state files overflow := by
  obtain ⟨-, o, ho, -⟩ | ⟨there, ⟨o, ho, -⟩ | ⟨other, ho, hbreaks⟩⟩ :=
    run_cases settings renderer state files
  · cases ho.symm.trans broken
  · cases ho.symm.trans broken
  · cases ho.symm.trans broken
    obtain ⟨front, e, back, o, hexpected, hfront, hs, hoff⟩ := breaks_at hbreaks
    obtain ⟨names, rest, hnames, rfl, hrest⟩ := List.map_eq_append_iff.1 hexpected
    obtain ⟨name, others, rfl, rfl, -⟩ := List.map_eq_cons_iff.1 hrest
    refine ⟨names, name, others, o, hnames, ?_, hs, hoff⟩
    exact (if_pos there).trans ((processAll_expecting ..).trans hfront)

/-- The accounts of a run that dealt with the first `k` of the expected files. -/
structure Accounts (settings : Settings) (renderer : Renderer σ) (state : σ) (files : Filesystem)
    (k : Nat) (o : Outcome σ) : Prop where
  within : k ≤ settings.expectedFiles.length
  split : Split settings ((settings.expectedFiles.take k).map settings.inputPath) o.written o.skipped
  success : o.status = .success ↔
    files.isDirectory settings.resultsDir = true ∧ k = settings.expectedFiles.length
  noResultsDir : o.status = .noResultsDir ↔ files.isDirectory settings.resultsDir = false
  nothing : o.status = .noResultsDir → o.written = [] ∧ o.skipped = []
  ended : o.status = .plottingUnavailable → ∃ name reason hint,
    settings.expectedFiles[k]? = some name ∧
    logged .error o.log =
      [say .error s!"Plot generation failed: plotting unavailable: {reason}", say .error hint] ∧
    (∃ recording figure state files,
      renderer.render recording figure (settings.outputPath (settings.inputPath name)) state files =
        .ok ⟨.error (.unavailable reason hint), o.world.state, o.world.files⟩) ∧
    ∀ others, run (settings.expecting (settings.expectedFiles.take k ++ name :: others)) renderer
      state files = .ok o
  warnings : (logged .warn o.log).length = o.skipped.length
  infos : logged .info o.log = match o.status with
    | .success => o.written.map wrote ++ [say .info "Done"]
    | .noResultsDir => [say .info s!"No {settings.resultsDir}/ directory found. Run tests first."]
    | .plottingUnavailable => o.written.map wrote
  errors : o.status ≠ .plottingUnavailable → logged .error o.log = []

theorem accounts_of_runs {state : σ} {files : Filesystem}
    (there : files.isDirectory settings.resultsDir = true)
    (h : Runs settings renderer (discover settings files) ⟨files, state, false⟩ o) :
    Accounts settings renderer state files o.processed.length o := by
  have hcount : (discover settings files).length = settings.expectedFiles.length := by
    simp [discover]
  obtain ⟨hle, hstatus⟩ := runs_length h
  rw [hcount] at hle hstatus
  have hne : o.status ≠ .noResultsDir := by
    obtain ⟨hs, -⟩ | ⟨hs, -⟩ := hstatus <;> simp [hs]
  refine ⟨hle, ?_, ?_, by simp [hne, there], fun hs => absurd hs hne, fun hs => ?_,
    runs_warnings h, ?_, fun hs => ?_⟩
  · have hsplit := runs_split h
    rw [discover, ← List.map_take, List.map_map] at hsplit
    exact hsplit
  · obtain ⟨hs, hk⟩ | ⟨hs, hk⟩ := hstatus
    · simp [hs, hk, there]
    · simp [hs, Nat.ne_of_lt hk]
  · obtain ⟨e, reason, hint, hget, herror, hanswer, hcut⟩ := runs_unavailable h hs
    simp only [discover, List.getElem?_map, Option.map_eq_some_iff] at hget
    obtain ⟨name, hname, rfl⟩ := hget
    refine ⟨name, reason, hint, hname, herror, hanswer, fun others => ?_⟩
    have hothers := hcut (discover (settings.expecting others) files)
    rw [discover, ← List.map_take] at hothers
    have hdiscover : discover (settings.expecting (settings.expectedFiles.take o.processed.length ++
        name :: others)) files =
          (settings.expectedFiles.take o.processed.length).map (fun name =>
              ⟨settings.inputPath name, files.isFile (settings.inputPath name)⟩) ++
            ⟨settings.inputPath name, files.isFile (settings.inputPath name)⟩ ::
              discover (settings.expecting others) files := by
      simp [discover, Settings.expecting, Settings.inputPath]
    exact (if_pos there).trans ((processAll_expecting ..).trans (hdiscover ▸ hothers))
  · rw [runs_infos h]
    obtain ⟨hs, -⟩ | ⟨hs, -⟩ := hstatus <;> simp [hs]
  · obtain ⟨hsuccess, -⟩ | ⟨hended, -⟩ := hstatus
    · exact runs_errors_success h hsuccess
    · exact absurd hended hs

theorem accounts_nowhere {state : σ} {files : Filesystem}
    (gone : files.isDirectory settings.resultsDir = false) :
    Accounts settings renderer state files 0 ⟨.noResultsDir, [],
      [say .info s!"No {settings.resultsDir}/ directory found. Run tests first."],
      ⟨files, state, false⟩⟩ where
  within := Nat.zero_le _
  split := .nil
  success := by simp [gone]
  noResultsDir := by simp [gone]
  nothing _ := ⟨rfl, rfl⟩
  ended h := nomatch h
  warnings := rfl
  infos := rfl
  errors _ := rfl

/-- Every run renders an account of a beginning of the expected files, unless one
of its requests to the renderer is broken off. -/
theorem run_accounts (settings : Settings) (renderer : Renderer σ) (state : σ)
    (files : Filesystem) :
    (∃ o k, run settings renderer state files = .ok o ∧
      Accounts settings renderer state files k o) ∨
    ∃ overflow, run settings renderer state files = .error overflow ∧
      RunBreaksOff settings renderer state files overflow := by
  cases there : files.isDirectory settings.resultsDir with
  | false => exact .inl ⟨_, 0, if_neg (by simp [there]), accounts_nowhere there⟩
  | true =>
    have hrun : run settings renderer state files =
        processAll settings renderer (discover settings files) ⟨files, state, false⟩ := if_pos there
    obtain ⟨o, ho, hruns⟩ | ⟨overflow, ho, -⟩ :=
      processAll_cases settings renderer (discover settings files) ⟨files, state, false⟩
    · exact .inl ⟨o, _, hrun.trans ho, accounts_of_runs there hruns⟩
    · exact .inr ⟨overflow, hrun.trans ho, runBreaksOff_of_error (hrun.trans ho)⟩

/-- Where nothing is expected and there is no directory of recordings, a run
deals with all that is expected and yet is no success. -/
theorem nothing_expected_nowhere :
    let settings : Settings := { expectedFiles := [] }
    ∃ o, run settings (.unavailable "no font" "install one") () Filesystem.workplace = .ok o ∧
      o.written.length + o.skipped.length = settings.expectedFiles.length ∧ o.status ≠ .success := by
  intro settings
  have gone : Filesystem.workplace.isDirectory settings.resultsDir = false := by decide +kernel
  refine ⟨⟨.noResultsDir, [],
    [say .info s!"No {settings.resultsDir}/ directory found. Run tests first."],
    ⟨.workplace, (), false⟩⟩, ?_, rfl, by simp⟩
  exact if_neg (by simp [gone])

end DriveBench.Report
