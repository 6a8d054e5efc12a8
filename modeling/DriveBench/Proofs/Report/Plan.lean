import DriveBench.Proofs.Report.Projection
import DriveBench.Proofs.Storage.Directories
import DriveBench.Rendering.Script

/-!
# A run carries out a plan

What is to be done about an expected file is settled by the files as they were
at the beginning. No image is written over a recording, and what is made takes
nothing away.
-/

namespace DriveBench

namespace Rendering

structure Request where
  recording : Recording
  figure : Figure
  output : String

structure Exchange where
  request : Request
  answer : Except Failure Unit

namespace Backend

def traced (backend : Backend σ) : Backend (σ × List Exchange) where
  name := backend.name
  render recording figure output state files := do
    let rendered ← backend.render recording figure output state.1 files
    return ⟨rendered.result,
      (rendered.state, state.2 ++ [⟨⟨recording, figure, output⟩, rendered.result⟩]), rendered.files⟩

/-- A success writes at most the output, and a failure nothing. -/
structure Tame (backend : Backend σ) : Prop where
  success {recording figure output state files state' files'} :
    backend.render recording figure output state files = .ok ⟨.ok (), state', files'⟩ →
      files.Same files' ∨
        ∃ bytes written, files.writeFile output bytes = .ok written ∧ written.Same files'
  failure {recording figure output state files failure state' files'} :
    backend.render recording figure output state files = .ok ⟨.error failure, state', files'⟩ →
      files.Same files'

end Backend

end Rendering

namespace Report

open Rendering (Backend Exchange Failure Overflow Rendered Renderer Request)

inductive Plan
  | skip (reason : SkipReason)
  | render (request : Request)

def Settings.plan (settings : Settings) (files : Filesystem) (path : String) : Plan :=
  match files.lookup path with
  | .ok (.file bytes) =>
    match Recording.ofBytes path bytes settings.timeColumn with
    | .error failure => .skip (.unreadable failure)
    | .ok recording =>
      if recording.samples = [] then .skip .noRecords
      else if settings.fieldsOf recording = [] then .skip .noFields
      else match (files.makeDirectories settings.plotsDir).2 with
        | .error fault => .skip (.notRendered (.making settings.plotsDir fault))
        | .ok () => .render
          { recording
            figure :=
              { title := Path.stem path
                fields := settings.fieldsOf recording
                x := recording.series settings.timeColumn
                xLabel := settings.xLabel }
            output := settings.outputPath path }
  | _ => .skip .missing

def Settings.plans (settings : Settings) (files : Filesystem) : List (String × Plan) :=
  settings.expectedFiles.map fun name =>
    (settings.inputPath name, settings.plan files (settings.inputPath name))

/-- Plans carried out: the exchanges that they led to, the status in the end,
and the files that were dealt with. -/
inductive Follows : List (String × Plan) → List Exchange → Status → List Processed → Prop
  | nil : Follows [] [] .success []
  | skipped : Follows rest exchanges status processed →
      Follows ((path, .skip reason) :: rest) exchanges status (⟨path, .skipped reason⟩ :: processed)
  | written : Follows rest exchanges status processed →
      Follows ((path, .render request) :: rest) (⟨request, .ok ()⟩ :: exchanges) status
        (⟨path, .written request.output⟩ :: processed)
  | failed {failure : Failure} : failure.isFatal = false → Follows rest exchanges status processed →
      Follows ((path, .render request) :: rest) (⟨request, .error failure⟩ :: exchanges) status
        (⟨path, .skipped (.notRendered failure)⟩ :: processed)
  | aborted {failure : Failure} : failure.isFatal = true →
      Follows ((path, .render request) :: rest) [⟨request, .error failure⟩] .plottingUnavailable []

-- ---------------------------------------------------------------------------
-- Plans of files that are there
-- ---------------------------------------------------------------------------

variable {σ : Type} {settings : Settings} {initial : Filesystem} {path : String}

theorem plan_unreadable {failure : Loading.Failure} (found : initial.isFile path = true)
    (h : Recording.load initial path settings.timeColumn = .error failure) :
    settings.plan initial path = .skip (.unreadable failure) := by
  obtain ⟨bytes, hbytes⟩ := Filesystem.isFile_iff.1 found
  rw [Recording.load_of_lookup hbytes] at h
  simp [Settings.plan, hbytes, h]

theorem plan_noRecords {recording : Recording} (found : initial.isFile path = true)
    (h : Recording.load initial path settings.timeColumn = .ok recording)
    (empty : recording.isEmpty = true) : settings.plan initial path = .skip .noRecords := by
  obtain ⟨bytes, hbytes⟩ := Filesystem.isFile_iff.1 found
  rw [Recording.load_of_lookup hbytes] at h
  have hnone : recording.samples = [] := by simpa [Recording.isEmpty] using empty
  simp [Settings.plan, hbytes, h, hnone]

theorem plan_noFields {recording : Recording} (found : initial.isFile path = true)
    (h : Recording.load initial path settings.timeColumn = .ok recording)
    (some : recording.isEmpty = false) (none : settings.fieldsOf recording = []) :
    settings.plan initial path = .skip .noFields := by
  obtain ⟨bytes, hbytes⟩ := Filesystem.isFile_iff.1 found
  rw [Recording.load_of_lookup hbytes] at h
  have hsome : recording.samples ≠ [] := by simpa [Recording.isEmpty] using some
  simp [Settings.plan, hbytes, h, hsome, none]

theorem plan_plottable {recording : Recording} (found : initial.isFile path = true)
    (h : Plottable settings initial path recording) :
    settings.plan initial path = match (initial.makeDirectories settings.plotsDir).2 with
      | .error fault => .skip (.notRendered (.making settings.plotsDir fault))
      | .ok () => .render ⟨recording, settings.figureOf recording, settings.outputPath path⟩ := by
  obtain ⟨bytes, hbytes⟩ := Filesystem.isFile_iff.1 found
  have htitle := Recording.title_of_load h.loaded
  have hload := h.loaded
  rw [Recording.load_of_lookup hbytes] at hload
  have hsome : recording.samples ≠ [] := by simpa [Recording.isEmpty] using h.records
  simp only [Settings.plan, hbytes, hload, hsome, h.fields, if_false]
  simp only [Settings.figureOf, Figure.ofRecording, htitle]

theorem plan_missing (missing : initial.isFile path = false) :
    settings.plan initial path = .skip .missing := by
  unfold Settings.plan
  split
  · rename_i bytes hbytes
    simp [Filesystem.isFile_iff.2 ⟨bytes, hbytes⟩] at missing
  · rfl

-- ---------------------------------------------------------------------------
-- What a run finds on its way
-- ---------------------------------------------------------------------------

abbrev tableSuffix : List Char := ['.', 'c', 's', 'v']

abbrev imageSuffix : List Char := ['.', 'p', 'n', 'g']

/-- A world that a run has come to: recordings are as they were, and it is
known whether the directory of the images could be made at the beginning. -/
structure Underway (settings : Settings) (initial : Filesystem) (w : World σ) : Prop where
  keeps : initial.Keeps (Location.EndsIn tableSuffix) w.files
  unprepared : w.plotsReady = false → w.files = initial
  prepared : w.plotsReady = true → (initial.makeDirectories settings.plotsDir).2 = .ok ()

theorem Underway.begin (settings : Settings) (initial : Filesystem) (state : σ) :
    Underway settings initial ⟨initial, state, false⟩ where
  keeps := .refl
  unprepared _ := rfl
  prepared h := by cases h

theorem Underway.preparePlots {w ready : World σ} {made : Except Fault Unit}
    (h : Underway settings initial w) (there : initial.isDirectory settings.resultsDir = true)
    (plain : IsPlainName settings.plotsSubdir) (hready : w.preparePlots settings = (ready, made)) :
    (initial.makeDirectories settings.plotsDir).2 = made ∧ Underway settings initial ready ∧
      ready.state = w.state ∧ (made = .ok () → ready.plotsReady = true) := by
  cases prepares_of_preparePlots hready with
  | known known => exact ⟨h.prepared known, h, rfl, fun _ => known⟩
  | made unknown hmake =>
    rw [h.unprepared unknown] at hmake
    have adds := Filesystem.adds_makeDirectories initial settings.plotsDir
    rw [hmake] at adds ⊢
    refine ⟨rfl, ⟨adds.keeps, fun hfailed => ?_, fun _ => by rw [hmake]⟩, rfl, fun _ => rfl⟩
    cases hfailed
  | refused unknown hmake =>
    rw [h.unprepared unknown] at hmake
    have unchanged : (initial.makeDirectories settings.plotsDir).1 = initial :=
      Filesystem.makeDirectories_join_unchanged there plain (congrArg Prod.snd hmake)
    rw [hmake] at unchanged ⊢
    obtain rfl := unchanged
    refine ⟨rfl, ⟨.refl, fun _ => rfl, fun hok => ?_⟩, rfl, fun hok => ?_⟩
    · cases hok
    · cases hok

theorem outputPath_toList (settings : Settings) (path : String) :
    ∃ front, (settings.outputPath path).toList = front ++ imageSuffix := by
  obtain ⟨front, h⟩ := Path.join_toList settings.plotsDir (Path.stem path ++ ".png")
  exact ⟨front ++ (Path.stem path).toList, by simp [Settings.outputPath, h]⟩

theorem inputPath_toList (settings : Settings) (base : String) :
    ∃ front, (settings.inputPath (base ++ ".csv")).toList = front ++ tableSuffix := by
  obtain ⟨front, h⟩ := Path.join_toList settings.resultsDir (base ++ ".csv")
  exact ⟨front ++ base.toList, by simp [Settings.inputPath, h]⟩

theorem keeps_writeOutput {files written : Filesystem} {bytes : ByteArray}
    (h : files.writeFile (settings.outputPath path) bytes = .ok written) :
    files.Keeps (Location.EndsIn tableSuffix) written := by
  refine Filesystem.keeps_writeFile h fun name parent inside target htable => ?_
  obtain ⟨front, htext⟩ := outputPath_toList settings path
  have himage := Filesystem.endsIn_of_target (by decide +kernel) htext target
  exact absurd (htable.eq himage rfl) (by decide)

theorem keeps_request {backend : Backend σ} (tame : backend.Tame) {recording : Recording}
    {w : World σ} {rendered : Rendered σ}
    (h : settings.request (.ready backend) path recording w = .ok rendered) :
    w.files.Keeps (Location.EndsIn tableSuffix) rendered.files := by
  obtain ⟨result, state, files⟩ := rendered
  cases result with
  | error failure => exact (tame.failure h).keeps
  | ok u =>
    obtain hsame | ⟨bytes, written, hwrite, hsame⟩ := tame.success h
    · exact hsame.keeps
    · exact (keeps_writeOutput hwrite).trans hsame.keeps

theorem load_of_underway {w : World σ} (h : Underway settings initial w)
    (found : initial.isFile path = true) (table : ∃ front, path.toList = front ++ tableSuffix)
    (timeColumn : String) :
    Recording.load w.files path timeColumn = Recording.load initial path timeColumn := by
  obtain ⟨bytes, hbytes⟩ := Filesystem.isFile_iff.1 found
  obtain ⟨front, htext⟩ := table
  have hlater := Filesystem.lookup_of_keeps h.keeps hbytes fun location hl =>
    Filesystem.endsIn_of_locate (by decide +kernel) htext hl
  rw [Recording.load_of_lookup hlater, Recording.load_of_lookup hbytes]

theorem plottable_of_underway {w : World σ} {recording : Recording}
    (h : Underway settings initial w) (found : initial.isFile path = true)
    (table : ∃ front, path.toList = front ++ tableSuffix)
    (hp : Plottable settings w.files path recording) : Plottable settings initial path recording :=
  ⟨load_of_underway h found table _ ▸ hp.loaded, hp.records, hp.fields⟩

-- ---------------------------------------------------------------------------
-- Following the plans
-- ---------------------------------------------------------------------------

def Plan.conclude (request : Request) : Except Failure Unit → Except Failure Verdict
  | .ok () => .ok (.written request.output)
  | .error failure =>
    if failure.isFatal then .error failure else .ok (.skipped (.notRendered failure))

variable {backend : Backend σ}

theorem traced_eq_noting (backend : Backend σ) : backend.traced = backend.noting
    fun recording figure output _ rendered => [⟨⟨recording, figure, output⟩, rendered.result⟩] :=
  rfl

theorem request_traced {recording : Recording} {w : World (σ × List Exchange)}
    {rendered : Rendered (σ × List Exchange)}
    (h : settings.request (.ready backend.traced) path recording w = .ok rendered) :
    ∃ own, backend.render recording (settings.figureOf recording) (settings.outputPath path)
        w.state.1 w.files = .ok own ∧
      rendered = ⟨own.result, (own.state, w.state.2 ++
        [⟨⟨recording, settings.figureOf recording, settings.outputPath path⟩, own.result⟩]),
        own.files⟩ := by
  rw [traced_eq_noting] at h
  exact request_noting h

theorem tame_traced (tame : backend.Tame) : backend.traced.Tame where
  success {recording figure output state files state' files'} h := by
    simp only [Backend.traced, bind, Except.bind, pure, Except.pure] at h
    cases hown : backend.render recording figure output state.1 files with
    | error overflow => rw [hown] at h; cases h
    | ok own =>
      obtain ⟨result, state', files'⟩ := own
      rw [hown] at h
      cases h
      exact tame.success hown
  failure {recording figure output state files failure state' files'} h := by
    simp only [Backend.traced, bind, Except.bind, pure, Except.pure] at h
    cases hown : backend.render recording figure output state.1 files with
    | error overflow => rw [hown] at h; cases h
    | ok own =>
      obtain ⟨result, state', files'⟩ := own
      rw [hown] at h
      cases h
      exact tame.failure hown

section

variable (there : initial.isDirectory settings.resultsDir = true)
  (plain : IsPlainName settings.plotsSubdir) (tame : backend.Tame)
include there plain tame

/-- One file that was there: its plan is carried out, and the next file finds
the recordings as they were. -/
theorem attempts_follow {w : World (σ × List Exchange)} {a : Attempt (σ × List Exchange)}
    (h : Underway settings initial w) (found : initial.isFile path = true)
    (table : ∃ front, path.toList = front ++ tableSuffix)
    (ha : Attempts settings (.ready backend.traced) path w a) :
    Underway settings initial a.world ∧
      ((∃ reason, settings.plan initial path = .skip reason ∧ a.result = .ok (.skipped reason) ∧
          a.world.state.2 = w.state.2) ∨
        ∃ request answer, settings.plan initial path = .render request ∧
          a.result = Plan.conclude request answer ∧
          a.world.state.2 = w.state.2 ++ [⟨request, answer⟩]) := by
  have hload := load_of_underway h found table settings.timeColumn
  -- every answered request leaves the next file where it was
  have hrequest {recording ready rendered} (hp : Plottable settings w.files path recording)
      (hready : w.preparePlots settings = (ready, .ok ()))
      (hr : settings.request (.ready backend.traced) path recording ready = .ok rendered) :
      Underway settings initial (ready.taking rendered) ∧ ∃ request,
        settings.plan initial path = .render request ∧ request.output = settings.outputPath path ∧
        (ready.taking rendered).state.2 = w.state.2 ++ [⟨request, rendered.result⟩] := by
    obtain ⟨hmade, hunder, hstate, hknown⟩ := h.preparePlots there plain hready
    have hplan := plan_plottable found (plottable_of_underway h found table hp)
    rw [hmade] at hplan
    have hkeeps := keeps_request (tame_traced tame) hr
    obtain ⟨own, -, rfl⟩ := request_traced hr
    refine ⟨⟨hunder.keeps.trans hkeeps, fun hf => ?_, hunder.prepared⟩, _, hplan, rfl, ?_⟩
    · exact absurd (hknown rfl) (by simpa [World.taking] using hf)
    · simp [World.taking, hstate]
  cases ha with
  | unreadable hfail =>
    exact ⟨h, .inl ⟨_, plan_unreadable found (hload ▸ hfail), rfl, rfl⟩⟩
  | noRecords hok hempty =>
    exact ⟨h, .inl ⟨_, plan_noRecords found (hload ▸ hok) hempty, rfl, rfl⟩⟩
  | noFields hok hsome hnone =>
    exact ⟨h, .inl ⟨_, plan_noFields found (hload ▸ hok) hsome hnone, rfl, rfl⟩⟩
  | unprepared hp hready =>
    obtain ⟨hmade, hunder, hstate, -⟩ := h.preparePlots there plain hready
    have hplan := plan_plottable found (plottable_of_underway h found table hp)
    rw [hmade] at hplan
    exact ⟨hunder, .inl ⟨_, hplan, rfl, congrArg Prod.snd hstate⟩⟩
  | aborted hp hready hr hresult hfatal =>
    obtain ⟨hunder, request, hplan, -, hstate⟩ := hrequest hp hready hr
    refine ⟨hunder, .inr ⟨request, _, hplan, ?_, hstate⟩⟩
    simp [Plan.conclude, hresult, hfatal]
  | failed hp hready hr hresult hfatal =>
    obtain ⟨hunder, request, hplan, -, hstate⟩ := hrequest hp hready hr
    refine ⟨hunder, .inr ⟨request, _, hplan, ?_, hstate⟩⟩
    simp [Plan.conclude, hresult, hfatal, World.skip]
  | written hp hready hr hresult =>
    obtain ⟨hunder, request, hplan, houtput, hstate⟩ := hrequest hp hready hr
    refine ⟨hunder, .inr ⟨request, _, hplan, ?_, hstate⟩⟩
    simp [Plan.conclude, hresult, houtput]

theorem runs_follow {expected : List Expected} {w : World (σ × List Exchange)}
    {o : Outcome (σ × List Exchange)} (h : Underway settings initial w)
    (looked : ∀ e ∈ expected, e.found = initial.isFile e.path ∧
      ∃ front, e.path.toList = front ++ tableSuffix)
    (hr : Runs settings (.ready backend.traced) expected w o) :
    ∃ exchanges, o.world.state.2 = w.state.2 ++ exchanges ∧
      Follows (expected.map fun e => (e.path, settings.plan initial e.path)) exchanges o.status
        o.processed := by
  induction hr with
  | nil => exact ⟨[], by simp, .nil⟩
  | @missing e rest w o hmissing _ ih =>
    obtain ⟨hfound, -⟩ := looked e List.mem_cons_self
    obtain ⟨exchanges, hstate, hfollows⟩ := ih h fun e he => looked e (List.mem_cons_of_mem _ he)
    refine ⟨exchanges, hstate, ?_⟩
    rw [List.map_cons, plan_missing (hfound ▸ hmissing)]
    exact .skipped hfollows
  | @done e rest w verdict log next o hthere ha _ ih =>
    obtain ⟨hfound, table⟩ := looked e List.mem_cons_self
    obtain ⟨hnext, hcase⟩ := attempts_follow there plain tame h (hfound ▸ hthere) table
      (attempts_of_attempt ha)
    obtain ⟨exchanges, hstate, hfollows⟩ :=
      ih hnext fun e he => looked e (List.mem_cons_of_mem _ he)
    obtain ⟨reason, hplan, hresult, hsame⟩ | ⟨request, answer, hplan, hresult, hmore⟩ := hcase
    · obtain rfl : verdict = .skipped reason := by simpa using hresult
      refine ⟨exchanges, hstate.trans (by rw [hsame]), ?_⟩
      rw [List.map_cons, hplan]
      exact .skipped hfollows
    · refine ⟨⟨request, answer⟩ :: exchanges, hstate.trans (by rw [hmore]; simp), ?_⟩
      rw [List.map_cons, hplan]
      cases answer with
      | ok u =>
        obtain rfl : verdict = .written request.output := by simpa [Plan.conclude] using hresult
        exact .written hfollows
      | error failure =>
        cases hfatal : failure.isFatal with
        | true => simp [Plan.conclude, hfatal] at hresult
        | false =>
          obtain rfl : verdict = .skipped (.notRendered failure) := by
            simpa [Plan.conclude, hfatal] using hresult
          exact .failed hfatal hfollows
  | @aborted e rest w failure log next hthere ha =>
    obtain ⟨hfound, table⟩ := looked e List.mem_cons_self
    obtain ⟨-, hcase⟩ := attempts_follow there plain tame h (hfound ▸ hthere) table
      (attempts_of_attempt ha)
    obtain ⟨reason, -, hresult, -⟩ | ⟨request, answer, hplan, hresult, hmore⟩ := hcase
    · cases hresult
    · refine ⟨[⟨request, answer⟩], hmore, ?_⟩
      rw [List.map_cons, hplan]
      cases answer with
      | ok u => simp [Plan.conclude] at hresult
      | error other =>
        cases hfatal : other.isFatal with
        | true => exact .aborted hfatal
        | false => simp [Plan.conclude, hfatal] at hresult

theorem breaks_planned {overflow : Overflow} {expected : List Expected}
    {w : World (σ × List Exchange)} (h : Underway settings initial w)
    (looked : ∀ e ∈ expected, e.found = initial.isFile e.path ∧
      ∃ front, e.path.toList = front ++ tableSuffix)
    (hb : Breaks settings (.ready backend.traced) overflow expected w) :
    ∃ e ∈ expected, ∃ request, settings.plan initial e.path = .render request ∧
      ∃ state files, backend.render request.recording request.figure request.output state files =
        .error overflow := by
  induction hb with
  | @here e rest w hthere hoff =>
    obtain ⟨recording, ready, hp, hready, hr⟩ := hoff
    obtain ⟨hfound, table⟩ := looked e List.mem_cons_self
    obtain ⟨hmade, -, -, -⟩ := h.preparePlots there plain hready
    have hplan := plan_plottable (hfound ▸ hthere)
      (plottable_of_underway h (hfound ▸ hthere) table hp)
    rw [hmade] at hplan
    refine ⟨e, List.mem_cons_self, _, hplan, ready.state.1, ready.files, ?_⟩
    simp only [Settings.request, Renderer.render, Backend.traced, bind, Except.bind] at hr
    cases hown : backend.render recording (settings.figureOf recording)
        (settings.outputPath e.path) ready.state.1 ready.files with
    | error other =>
      rw [hown] at hr
      cases hr
      rfl
    | ok own => rw [hown] at hr; cases hr
  | missing _ _ ih =>
    obtain ⟨e, he, hplan⟩ := ih h fun e he => looked e (List.mem_cons_of_mem _ he)
    exact ⟨e, List.mem_cons_of_mem _ he, hplan⟩
  | @done e rest w verdict log next hthere ha _ ih =>
    obtain ⟨hfound, table⟩ := looked e List.mem_cons_self
    obtain ⟨hnext, -⟩ := attempts_follow there plain tame h (hfound ▸ hthere) table
      (attempts_of_attempt ha)
    obtain ⟨e, he, hplan⟩ := ih hnext fun e he => looked e (List.mem_cons_of_mem _ he)
    exact ⟨e, List.mem_cons_of_mem _ he, hplan⟩

end

theorem Follows.planned {plans : List (String × Plan)} {exchanges : List Exchange}
    {status : Status} {processed : List Processed}
    (h : Follows plans exchanges status processed) :
    ∀ exchange ∈ exchanges, ∃ path, (path, .render exchange.request) ∈ plans := by
  induction h with
  | nil => intro _ h; cases h
  | skipped _ ih =>
    intro exchange he
    obtain ⟨path, hp⟩ := ih exchange he
    exact ⟨path, List.mem_cons_of_mem _ hp⟩
  | written _ ih | failed _ _ ih =>
    intro exchange he
    rcases List.mem_cons.1 he with rfl | he
    · exact ⟨_, List.mem_cons_self⟩
    · obtain ⟨path, hp⟩ := ih exchange he
      exact ⟨path, List.mem_cons_of_mem _ hp⟩
  | aborted =>
    intro exchange he
    obtain rfl := List.mem_singleton.1 he
    exact ⟨_, List.mem_cons_self⟩

theorem x_of_plan_render {request : Request} (h : settings.plan initial path = .render request) :
    request.figure.x = request.recording.series settings.timeColumn := by
  unfold Settings.plan at h
  split at h
  · split at h
    · cases h
    · split at h
      · cases h
      · split at h
        · cases h
        · split at h
          · cases h
          · cases h; rfl
  · cases h

-- ---------------------------------------------------------------------------
-- The record of exchanges changes nothing
-- ---------------------------------------------------------------------------

def World.untraced (w : World (σ × List Exchange)) : World σ := { w with state := w.state.1 }

def Outcome.untraced (o : Outcome (σ × List Exchange)) : Outcome σ :=
  { o with world := o.world.untraced }

theorem run_untraced (backend : Backend σ) (state : σ) (exchanges : List Exchange) :
    run settings (.ready backend) state initial =
      (run settings (.ready backend.traced) (state, exchanges) initial).map Outcome.untraced := by
  rw [traced_eq_noting]
  exact run_through (through_noting (.ready backend)) (state, exchanges) initial

-- ---------------------------------------------------------------------------
-- Runs
-- ---------------------------------------------------------------------------

/-- A run with a tame backend carries out the plans made of the files at the
beginning, unless the backend breaks off a planned request. -/
theorem run_follows_plans (settings : Settings) (backend : Backend σ) (state : σ)
    (initial : Filesystem) (tables : ∀ name ∈ settings.expectedFiles, ∃ base, name = base ++ ".csv")
    (plain : IsPlainName settings.plotsSubdir)
    (there : initial.isDirectory settings.resultsDir = true) (tame : backend.Tame) :
    (∃ o, run settings (.ready backend.traced) (state, []) initial = .ok o ∧
      run settings (.ready backend) state initial = .ok o.untraced ∧
      Follows (settings.plans initial) o.world.state.2 o.status o.processed ∧
      ∀ exchange ∈ o.world.state.2, ∀ field ∈ exchange.request.figure.fields,
        (exchange.request.recording.series field).length = exchange.request.figure.x.length) ∨
    ∃ overflow request, run settings (.ready backend) state initial = .error overflow ∧
      .render request ∈ (settings.plans initial).map Prod.snd ∧
      ∃ state files, backend.render request.recording request.figure request.output state files =
        .error overflow := by
  have looked : ∀ e ∈ discover settings initial, e.found = initial.isFile e.path ∧
      ∃ front, e.path.toList = front ++ tableSuffix := by
    intro e he
    obtain ⟨name, hname, rfl⟩ := List.mem_map.1 he
    obtain ⟨base, rfl⟩ := tables name hname
    exact ⟨rfl, inputPath_toList settings base⟩
  have hplans : (discover settings initial).map (fun e => (e.path, settings.plan initial e.path)) =
      settings.plans initial := by
    simp [discover, Settings.plans, Function.comp_def]
  have hbegin := Underway.begin settings initial (state, ([] : List Exchange))
  have hrun : run settings (.ready backend.traced) (state, []) initial =
      processAll settings (.ready backend.traced) (discover settings initial)
        ⟨initial, (state, []), false⟩ := by
    simp [run, there]
  rw [run_untraced backend state [], hrun]
  obtain ⟨o, ho, hruns⟩ | ⟨overflow, ho, hbreaks⟩ :=
    processAll_cases settings (.ready backend.traced) (discover settings initial)
      ⟨initial, (state, []), false⟩
  · obtain ⟨exchanges, hstate, hfollows⟩ := runs_follow there plain tame hbegin looked hruns
    obtain rfl : o.world.state.2 = exchanges := by simpa using hstate
    rw [hplans] at hfollows
    refine .inl ⟨o, ho, by rw [ho]; rfl, hfollows, fun exchange he field _ => ?_⟩
    obtain ⟨path, hp⟩ := hfollows.planned exchange he
    obtain ⟨name, -, hname⟩ := List.mem_map.1 hp
    rw [x_of_plan_render (Prod.mk.inj hname).2, Recording.length_series, Recording.length_series]
  · obtain ⟨e, he, request, hplan, hbroken⟩ := breaks_planned there plain tame hbegin looked hbreaks
    refine .inr ⟨overflow, request, by rw [ho]; rfl, ?_, hbroken⟩
    rw [← hplans, List.map_map]
    exact List.mem_map.2 ⟨e, he, hplan⟩

theorem tame_script : Rendering.Script.backend.Tame where
  success {recording figure output state files state' files'} h := by
    simp only [Rendering.Script.backend] at h
    split at h
    · cases h
    · split at h
      · cases h
      · rename_i written hwrite
        cases h
        exact .inr ⟨_, _, hwrite, ⟨rfl, fun _ => rfl⟩⟩
  failure {recording figure output state files failure state' files'} h := by
    simp only [Rendering.Script.backend] at h
    split at h
    · cases h; exact ⟨rfl, fun _ => rfl⟩
    · split at h
      · cases h; exact ⟨rfl, fun _ => rfl⟩
      · cases h

theorem render_script (recording : Recording) (figure : Figure) (output : String)
    (script : Rendering.Script) (files : Filesystem) :
    ∃ rendered, Rendering.Script.backend.render recording figure output script files = .ok rendered ∧
      rendered.state = ⟨script.calls ++ [⟨figure, output, figure.fields.map recording.series⟩],
        script.outcomes.tail⟩ := by
  simp only [Rendering.Script.backend]
  split
  · exact ⟨_, rfl, rfl⟩
  · split <;> exact ⟨_, rfl, rfl⟩

theorem render_script_ne_error {recording : Recording} {figure : Figure} {output : String}
    {script : Rendering.Script} {files : Filesystem} {overflow : Overflow} :
    Rendering.Script.backend.render recording figure output script files ≠ .error overflow := by
  obtain ⟨rendered, hrender, -⟩ := render_script recording figure output script files
  simp [hrender]

def withResults (files : List (String × String)) : Filesystem :=
  files.foldl (fun fs file =>
      (fs.writeFile (Path.join "results" file.1) file.2.toUTF8).toOption.getD fs)
    (Filesystem.workplace.makeDirectories "results").1

/-- Two recordings, of which the first is drawn and the second cannot be, one
that spells no number, and one that is missing. -/
theorem run_follows_plans_four_files :
    let settings : Settings := { expectedFiles := ["a.csv", "b.csv", "c.csv", "d.csv"] }
    let initial := withResults
      [("a.csv", "time,id\n0,1\n"), ("b.csv", "time,id\n0,x\n"), ("d.csv", "time,iq\n0,1\n")]
    let script := Rendering.Script.ofOutcomes [.ok (), .error (.drawing "boom")]
    (∀ name ∈ settings.expectedFiles, ∃ base, name = base ++ ".csv") ∧
      IsPlainName settings.plotsSubdir ∧ initial.isDirectory settings.resultsDir = true ∧
      Rendering.Script.backend.Tame ∧
      ∃ o, run settings (.ready Rendering.Script.backend.traced) (script, []) initial = .ok o ∧
        run settings (.ready Rendering.Script.backend) script initial = .ok o.untraced ∧
        Follows (settings.plans initial) o.world.state.2 o.status o.processed := by
  intro settings initial script
  have tables : ∀ name ∈ settings.expectedFiles, ∃ base, name = base ++ ".csv" := by
    simp only [settings, List.mem_cons, List.not_mem_nil, or_false]
    rintro name (rfl | rfl | rfl | rfl)
    · exact ⟨"a", rfl⟩
    · exact ⟨"b", rfl⟩
    · exact ⟨"c", rfl⟩
    · exact ⟨"d", rfl⟩
  have there : initial.isDirectory settings.resultsDir = true := by decide +kernel
  refine ⟨tables, by decide, there, tame_script, ?_⟩
  obtain ⟨o, htraced, hrun, hfollows, -⟩ | ⟨_, _, -, -, _, _, hbroken⟩ :=
    run_follows_plans settings Rendering.Script.backend script initial tables (by decide) there
      tame_script
  · exact ⟨o, htraced, hrun, hfollows⟩
  · exact absurd hbroken render_script_ne_error

end Report

end DriveBench
