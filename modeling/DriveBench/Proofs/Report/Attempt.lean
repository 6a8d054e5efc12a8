import DriveBench.Report.Run

/-!
# What becomes of one file

Proofs about runs go through `attempt_cases`, `processAll_cases` and `run_cases`
and do not open `attempt` or `processAll` again.
-/

namespace DriveBench.Report

open Rendering (Failure Overflow Rendered Renderer)

variable {σ : Type} {settings : Settings} {renderer : Renderer σ} {path : String} {w : World σ}

def Settings.fieldsOf (settings : Settings) (recording : Recording) : List String :=
  recording.fieldsToPlot settings.canonicalFields settings.fallbackFieldCount settings.timeColumn

def Settings.figureOf (settings : Settings) (recording : Recording) : Figure :=
  Figure.ofRecording recording (settings.fieldsOf recording) settings.timeColumn settings.xLabel

def Settings.request (settings : Settings) (renderer : Renderer σ) (path : String)
    (recording : Recording) (w : World σ) : Except Overflow (Rendered σ) :=
  renderer.render recording (settings.figureOf recording) (settings.outputPath path) w.state w.files

def World.taking (w : World σ) (rendered : Rendered σ) : World σ :=
  { w with files := rendered.files, state := rendered.state }

inductive Prepares (settings : Settings) (w : World σ) : World σ → Except Fault Unit → Prop
  | known : w.plotsReady = true → Prepares settings w w (.ok ())
  | made {files : Filesystem} : w.plotsReady = false →
      w.files.makeDirectories settings.plotsDir = (files, .ok ()) →
      Prepares settings w ⟨files, w.state, true⟩ (.ok ())
  | refused {files : Filesystem} {fault : Fault} : w.plotsReady = false →
      w.files.makeDirectories settings.plotsDir = (files, .error fault) →
      Prepares settings w ⟨files, w.state, false⟩ (.error fault)

theorem prepares_of_preparePlots {ready : World σ} {made : Except Fault Unit}
    (h : w.preparePlots settings = (ready, made)) : Prepares settings w ready made := by
  unfold World.preparePlots at h
  split at h
  · rename_i known
    obtain ⟨rfl, rfl⟩ := Prod.mk.inj h
    exact .known known
  · rename_i unknown
    cases hmake : w.files.makeDirectories settings.plotsDir with
    | mk files result =>
      rw [hmake] at h
      obtain ⟨rfl, rfl⟩ := Prod.mk.inj h
      cases result with
      | ok u => exact .made (by simpa using unknown) hmake
      | error fault => exact .refused (by simpa using unknown) hmake

theorem Prepares.state {ready : World σ} {made : Except Fault Unit}
    (h : Prepares settings w ready made) : ready.state = w.state := by
  cases h <;> rfl

/-- A recording of the file at a path from which a figure can be made. -/
structure Plottable (settings : Settings) (files : Filesystem) (path : String)
    (recording : Recording) : Prop where
  loaded : Recording.load files path settings.timeColumn = .ok recording
  records : recording.isEmpty = false
  fields : settings.fieldsOf recording ≠ []

inductive Attempts (settings : Settings) (renderer : Renderer σ) (path : String) (w : World σ) :
    Attempt σ → Prop
  | unreadable {failure : Loading.Failure} : Recording.load w.files path settings.timeColumn = .error failure →
      Attempts settings renderer path w (w.skip (.unreadable failure)
        [say .warn s!"Failed to read {path}: {failure.message}"])
  | noRecords {recording : Recording} : Recording.load w.files path settings.timeColumn = .ok recording →
      recording.isEmpty = true →
      Attempts settings renderer path w (w.skip .noRecords
        [parsed recording path, say .warn s!"No records in {path}"])
  | noFields {recording : Recording} : Recording.load w.files path settings.timeColumn = .ok recording →
      recording.isEmpty = false → settings.fieldsOf recording = [] →
      Attempts settings renderer path w (w.skip .noFields
        [parsed recording path, say .warn s!"No plottable fields in {path}"])
  | unprepared {recording : Recording} {ready : World σ} {fault : Fault} :
      Plottable settings w.files path recording →
      w.preparePlots settings = (ready, .error fault) →
      Attempts settings renderer path w (ready.skip (.notRendered (.making settings.plotsDir fault))
        [parsed recording path,
          say .warn s!"Plot generation failed: {(Failure.making settings.plotsDir fault).message}"])
  | aborted {recording : Recording} {ready : World σ} {rendered : Rendered σ} {failure : Failure} :
      Plottable settings w.files path recording →
      w.preparePlots settings = (ready, .ok ()) →
      settings.request renderer path recording ready = .ok rendered →
      rendered.result = .error failure → failure.isFatal = true →
      Attempts settings renderer path w ⟨.error failure,
        parsed recording path :: announced renderer (settings.figureOf recording),
        ready.taking rendered⟩
  | failed {recording : Recording} {ready : World σ} {rendered : Rendered σ} {failure : Failure} :
      Plottable settings w.files path recording →
      w.preparePlots settings = (ready, .ok ()) →
      settings.request renderer path recording ready = .ok rendered →
      rendered.result = .error failure → failure.isFatal = false →
      Attempts settings renderer path w ((ready.taking rendered).skip (.notRendered failure)
        (parsed recording path :: announced renderer (settings.figureOf recording) ++
          [say .warn s!"Plot generation failed: {failure.message}"]))
  | written {recording : Recording} {ready : World σ} {rendered : Rendered σ} :
      Plottable settings w.files path recording →
      w.preparePlots settings = (ready, .ok ()) →
      settings.request renderer path recording ready = .ok rendered →
      rendered.result = .ok () →
      Attempts settings renderer path w ⟨.ok (.written (settings.outputPath path)),
        parsed recording path :: announced renderer (settings.figureOf recording) ++
          [say .info s!"Wrote {settings.outputPath path}"],
        ready.taking rendered⟩

def BreaksOff (settings : Settings) (renderer : Renderer σ) (path : String) (w : World σ)
    (overflow : Overflow) : Prop :=
  ∃ recording ready, Plottable settings w.files path recording ∧
    w.preparePlots settings = (ready, .ok ()) ∧
    settings.request renderer path recording ready = .error overflow

theorem attempt_cases (settings : Settings) (renderer : Renderer σ) (path : String) (w : World σ) :
    (∃ a, attempt settings renderer path w = .ok a ∧ Attempts settings renderer path w a) ∨
      ∃ overflow, attempt settings renderer path w = .error overflow ∧
        BreaksOff settings renderer path w overflow := by
  unfold attempt
  cases hload : Recording.load w.files path settings.timeColumn with
  | error failure => exact .inl ⟨_, rfl, .unreadable hload⟩
  | ok recording =>
    dsimp only
    cases hempty : recording.isEmpty with
    | true => exact .inl ⟨_, rfl, .noRecords hload hempty⟩
    | false =>
      by_cases hfields : settings.fieldsOf recording = []
      · rw [Settings.fieldsOf] at hfields
        simp only [hfields]
        exact .inl ⟨_, rfl, .noFields hload hempty hfields⟩
      · have plottable : Plottable settings w.files path recording := ⟨hload, hempty, hfields⟩
        rw [if_neg (by simp), if_neg (by simpa [Settings.fieldsOf] using hfields)]
        split
        · rename_i ready fault hready
          exact .inl ⟨_, rfl, .unprepared plottable hready⟩
        · rename_i ready hready
          cases hrender : settings.request renderer path recording ready with
          | error overflow =>
            refine .inr ⟨overflow, ?_, recording, ready, plottable, hready, hrender⟩
            rw [Settings.request, Settings.figureOf, Settings.fieldsOf] at hrender
            rw [hrender]
            rfl
          | ok rendered =>
            have hrender' := hrender
            rw [Settings.request, Settings.figureOf, Settings.fieldsOf] at hrender'
            rw [hrender']
            cases hresult : rendered.result with
            | error failure =>
              cases hfatal : failure.isFatal with
              | true =>
                refine .inl ⟨_, ?_, .aborted plottable hready hrender hresult hfatal⟩
                simp [bind, Except.bind, hresult, World.fail, hfatal, World.taking,
                  Settings.figureOf, Settings.fieldsOf, pure, Except.pure]
              | false =>
                refine .inl ⟨_, ?_, .failed plottable hready hrender hresult hfatal⟩
                simp [bind, Except.bind, hresult, World.fail, hfatal, World.taking,
                  Settings.figureOf, Settings.fieldsOf, pure, Except.pure]
            | ok u =>
              refine .inl ⟨_, ?_, .written plottable hready hrender hresult⟩
              simp [bind, Except.bind, hresult, World.taking,
                Settings.figureOf, Settings.fieldsOf, pure, Except.pure]

theorem attempts_of_attempt {a : Attempt σ} (h : attempt settings renderer path w = .ok a) :
    Attempts settings renderer path w a := by
  obtain ⟨a', ha, hattempts⟩ | ⟨overflow, ha, -⟩ := attempt_cases settings renderer path w
  · rw [h, Except.ok.injEq] at ha
    exact ha ▸ hattempts
  · rw [h] at ha; cases ha

-- ---------------------------------------------------------------------------
-- Runs over the expected files
-- ---------------------------------------------------------------------------

def ending (failure : Failure) : List Log.Message :=
  say .error s!"Plot generation failed: {failure.message}" :: failure.hint?.toList.map (say .error)

inductive Runs (settings : Settings) (renderer : Renderer σ) :
    List Expected → World σ → Outcome σ → Prop
  | nil {w : World σ} : Runs settings renderer [] w ⟨.success, [], [say .info "Done"], w⟩
  | missing {e : Expected} {rest : List Expected} {w : World σ} {o : Outcome σ} :
      e.found = false → Runs settings renderer rest w o →
      Runs settings renderer (e :: rest) w
        (o.after ⟨e.path, .skipped .missing⟩ [say .warn s!"Skipping missing {e.path}"])
  | done {e : Expected} {rest : List Expected} {w : World σ} {verdict : Verdict}
      {log : List Log.Message} {next : World σ} {o : Outcome σ} :
      e.found = true → attempt settings renderer e.path w = .ok ⟨.ok verdict, log, next⟩ →
      Runs settings renderer rest next o →
      Runs settings renderer (e :: rest) w (o.after ⟨e.path, verdict⟩ log)
  | aborted {e : Expected} {rest : List Expected} {w : World σ} {failure : Failure}
      {log : List Log.Message} {next : World σ} :
      e.found = true → attempt settings renderer e.path w = .ok ⟨.error failure, log, next⟩ →
      Runs settings renderer (e :: rest) w
        ⟨.plottingUnavailable, [], log ++ ending failure, next⟩

/-- A run over the expected files that comes to a request which is broken off. -/
inductive Breaks (settings : Settings) (renderer : Renderer σ) (overflow : Overflow) :
    List Expected → World σ → Prop
  | here {e : Expected} {rest : List Expected} {w : World σ} :
      e.found = true → BreaksOff settings renderer e.path w overflow →
      Breaks settings renderer overflow (e :: rest) w
  | missing {e : Expected} {rest : List Expected} {w : World σ} :
      e.found = false → Breaks settings renderer overflow rest w →
      Breaks settings renderer overflow (e :: rest) w
  | done {e : Expected} {rest : List Expected} {w : World σ} {verdict : Verdict}
      {log : List Log.Message} {next : World σ} :
      e.found = true → attempt settings renderer e.path w = .ok ⟨.ok verdict, log, next⟩ →
      Breaks settings renderer overflow rest next → Breaks settings renderer overflow (e :: rest) w

theorem processAll_missing {expected : Expected} (h : expected.found = false) (rest : List Expected) :
    processAll settings renderer (expected :: rest) w =
      (processAll settings renderer rest w).map fun o => o.after ⟨expected.path, .skipped .missing⟩
        [say .warn s!"Skipping missing {expected.path}"] := by
  simp only [processAll, h, Bool.false_eq_true, if_false]
  cases processAll settings renderer rest w <;> rfl

theorem processAll_found {expected : Expected} (h : expected.found = true) (rest : List Expected) :
    processAll settings renderer (expected :: rest) w =
      attempt settings renderer expected.path w >>= fun a =>
        match a.result with
        | .error failure => .ok ⟨.plottingUnavailable, [], a.log ++ ending failure, a.world⟩
        | .ok verdict => (processAll settings renderer rest a.world).map
            fun o => o.after ⟨expected.path, verdict⟩ a.log := by
  simp only [processAll, h, if_true, bind, Except.bind]
  cases attempt settings renderer expected.path w with
  | error overflow => rfl
  | ok a =>
    dsimp only
    cases a.result with
    | error failure => rfl
    | ok verdict => cases processAll settings renderer rest a.world <;> rfl

theorem processAll_cases (settings : Settings) (renderer : Renderer σ) (expected : List Expected)
    (w : World σ) :
    (∃ o, processAll settings renderer expected w = .ok o ∧ Runs settings renderer expected w o) ∨
      ∃ overflow, processAll settings renderer expected w = .error overflow ∧
        Breaks settings renderer overflow expected w := by
  induction expected generalizing w with
  | nil => exact .inl ⟨_, rfl, .nil⟩
  | cons e rest ih =>
    cases hfound : e.found with
    | false =>
      rw [processAll_missing hfound]
      obtain ⟨o, ho, hruns⟩ | ⟨overflow, ho, hbreaks⟩ := ih w
      · exact .inl ⟨_, by rw [ho]; rfl, .missing hfound hruns⟩
      · exact .inr ⟨overflow, by rw [ho]; rfl, .missing hfound hbreaks⟩
    | true =>
      rw [processAll_found hfound]
      obtain ⟨⟨result, log, next⟩, ha, -⟩ | ⟨overflow, ha, hbroken⟩ :=
        attempt_cases settings renderer e.path w
      · rw [ha]
        cases result with
        | error failure => exact .inl ⟨_, rfl, .aborted hfound ha⟩
        | ok verdict =>
          obtain ⟨o, ho, hruns⟩ | ⟨overflow, ho, hbreaks⟩ := ih next
          · refine .inl ⟨o.after ⟨e.path, verdict⟩ log, ?_, .done hfound ha hruns⟩
            simp only [bind, Except.bind, ho]
            rfl
          · refine .inr ⟨overflow, ?_, .done hfound ha hbreaks⟩
            simp only [bind, Except.bind, ho]
            rfl
      · exact .inr ⟨overflow, by rw [ha]; rfl, .here hfound hbroken⟩

theorem run_cases (settings : Settings) (renderer : Renderer σ) (state : σ) (files : Filesystem) :
    files.isDirectory settings.resultsDir = false ∧ (∃ o, run settings renderer state files = .ok o ∧
        o.status = .noResultsDir ∧ o.processed = [] ∧ o.world = ⟨files, state, false⟩) ∨
      files.isDirectory settings.resultsDir = true ∧
        ((∃ o, run settings renderer state files = .ok o ∧
            Runs settings renderer (discover settings files) ⟨files, state, false⟩ o) ∨
          ∃ overflow, run settings renderer state files = .error overflow ∧
            Breaks settings renderer overflow (discover settings files) ⟨files, state, false⟩) := by
  unfold run
  cases there : files.isDirectory settings.resultsDir with
  | false => exact .inl ⟨rfl, _, rfl, rfl, rfl, rfl⟩
  | true => exact .inr ⟨rfl, processAll_cases settings renderer _ _⟩

end DriveBench.Report
