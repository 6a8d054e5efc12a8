import DriveBench.Proofs.Report.Accounting
import DriveBench.Proofs.Report.Plan

/-!
# What a backend is asked for

A run asks for one image at most for each expected file, in their order: the
figure of a recording that it read from the file, under the output path of the
file. A job is a request with all that came of it.
-/

namespace DriveBench

namespace Rendering

structure Job extends Exchange where
  before : Filesystem
  after : Filesystem

def Renderer.observed : Renderer σ → Renderer (σ × List Job) :=
  Renderer.noting fun recording figure output files rendered =>
    [⟨⟨⟨recording, figure, output⟩, rendered.result⟩, files, rendered.files⟩]

/-- In some state the renderer does a job in this way. -/
def Renderer.Does (renderer : Renderer σ) (job : Job) : Prop :=
  ∃ state state', renderer.render job.request.recording job.request.figure job.request.output state
    job.before = .ok ⟨job.answer, state', job.after⟩

end Rendering

namespace Report

open Rendering (Job Overflow Rendered Renderer)

structure JobFor (settings : Settings) (renderer : Renderer σ) (path : String) (job : Job) : Prop where
  output : job.request.output = settings.outputPath path
  figure : job.request.figure = settings.figureOf job.request.recording
  recording : ∃ files, Plottable settings files path job.request.recording
  does : renderer.Does job

/-- Jobs for some of the expected files, in their order. -/
inductive Serves (settings : Settings) (renderer : Renderer σ) : List Expected → List Job → Prop
  | nothing : Serves settings renderer expected []
  | passed : Serves settings renderer rest jobs → Serves settings renderer (e :: rest) jobs
  | served : JobFor settings renderer e.path job → Serves settings renderer rest jobs →
      Serves settings renderer (e :: rest) (job :: jobs)

variable {σ : Type} {settings : Settings} {renderer : Renderer σ} {path : String}
  {expected : List Expected} {jobs : List Job}

theorem Serves.jobFor (h : Serves settings renderer expected jobs) :
    ∀ job ∈ jobs, ∃ e ∈ expected, JobFor settings renderer e.path job := by
  induction h with
  | nothing => exact fun _ hj => nomatch hj
  | passed _ ih =>
    intro job hj
    obtain ⟨e, he, hfor⟩ := ih job hj
    exact ⟨e, List.mem_cons_of_mem _ he, hfor⟩
  | served hfor _ ih =>
    intro job hj
    rcases List.mem_cons.1 hj with rfl | hj
    · exact ⟨_, List.mem_cons_self, hfor⟩
    · obtain ⟨e, he, hfor⟩ := ih job hj
      exact ⟨e, List.mem_cons_of_mem _ he, hfor⟩

theorem Serves.outputs_sublist (h : Serves settings renderer expected jobs) :
    (jobs.map (·.request.output)).Sublist
      ((expected.map Expected.path).map settings.outputPath) := by
  induction h with
  | nothing => exact List.nil_sublist _
  | passed _ ih => exact ih.cons _
  | served hfor _ ih =>
    rw [List.map_cons, List.map_cons, List.map_cons, hfor.output]
    exact ih.cons_cons _

-- ---------------------------------------------------------------------------
-- Runs
-- ---------------------------------------------------------------------------

section

variable {w : World (σ × List Job)} {o : Outcome (σ × List Job)}

theorem request_observed {recording : Recording} {files : Filesystem}
    {rendered : Rendered (σ × List Job)} (plottable : Plottable settings files path recording)
    (h : settings.request renderer.observed path recording w = .ok rendered) :
    rendered.state.2 = w.state.2 ∨
      ∃ job, JobFor settings renderer path job ∧ rendered.state.2 = w.state.2 ++ [job] := by
  cases renderer with
  | unavailable reason hint =>
    cases h
    exact .inl rfl
  | ready backend =>
    obtain ⟨own, hown, rfl⟩ := request_noting h
    -- an output that is only a name is compared at once
    generalize houtput : settings.outputPath path = output at hown ⊢
    refine .inr ⟨⟨⟨⟨recording, _, output⟩, own.result⟩, w.files, own.files⟩, ?_, rfl⟩
    exact ⟨houtput.symm, rfl, ⟨files, plottable⟩, w.state.1, own.state, hown⟩

theorem attempts_serve {a : Attempt (σ × List Job)}
    (ha : Attempts settings renderer.observed path w a) :
    a.world.state.2 = w.state.2 ∨
      ∃ job, JobFor settings renderer path job ∧ a.world.state.2 = w.state.2 ++ [job] := by
  cases ha with
  | unreadable _ | noRecords _ _ | noFields _ _ _ => exact .inl rfl
  | unprepared _ hready =>
    exact .inl (congrArg Prod.snd (prepares_of_preparePlots hready).state)
  | aborted hp hready hr _ _ | failed hp hready hr _ _ | written hp hready hr _ =>
    have hstate := (prepares_of_preparePlots hready).state
    have hserved := request_observed hp hr
    rw [hstate] at hserved
    exact hserved

theorem runs_serve (hr : Runs settings renderer.observed expected w o) :
    ∃ jobs, o.world.state.2 = w.state.2 ++ jobs ∧ Serves settings renderer expected jobs := by
  induction hr with
  | nil => exact ⟨[], by simp, .nothing⟩
  | missing _ _ ih =>
    obtain ⟨jobs, hstate, hserves⟩ := ih
    exact ⟨jobs, hstate, .passed hserves⟩
  | done _ ha _ ih =>
    obtain ⟨jobs, hstate, hserves⟩ := ih
    obtain hsame | ⟨job, hfor, hmore⟩ := attempts_serve (attempts_of_attempt ha)
    · exact ⟨jobs, hstate.trans (by rw [hsame]), .passed hserves⟩
    · exact ⟨job :: jobs, hstate.trans (by rw [hmore]; simp), .served hfor hserves⟩
  | aborted _ ha =>
    obtain hsame | ⟨job, hfor, hmore⟩ := attempts_serve (attempts_of_attempt ha)
    · exact ⟨[], hsame.trans (by simp), .nothing⟩
    · exact ⟨[job], hmore, .served hfor .nothing⟩

end

/-- The jobs of a run, or where it was broken off. -/
theorem run_serves (settings : Settings) (renderer : Renderer σ) (state : σ) (initial : Filesystem) :
    (∃ o, run settings renderer.observed (state, []) initial = .ok o ∧
      run settings renderer state initial = .ok (o.mapState Prod.fst) ∧
      Serves settings renderer (discover settings initial) o.world.state.2) ∨
    ∃ overflow, run settings renderer state initial = .error overflow ∧
      RunBreaksOff settings renderer state initial overflow := by
  have hplain : run settings renderer state initial =
      (run settings renderer.observed (state, []) initial).map (Outcome.mapState Prod.fst) :=
    run_through (through_noting renderer) (state, []) initial
  obtain ⟨-, o, ho, -, -, hworld⟩ | ⟨there, ⟨o, ho, hruns⟩ | ⟨overflow, ho, -⟩⟩ :=
    run_cases settings renderer.observed (state, []) initial
  · refine .inl ⟨o, ho, by rw [hplain, ho]; rfl, ?_⟩
    rw [hworld]
    exact .nothing
  · obtain ⟨jobs, hstate, hserves⟩ := runs_serve hruns
    obtain rfl : o.world.state.2 = jobs := by simpa using hstate
    exact .inl ⟨o, ho, by rw [hplain, ho]; rfl, hserves⟩
  · have hbroken : run settings renderer state initial = .error overflow := by rw [hplain, ho]; rfl
    exact .inr ⟨overflow, hbroken, runBreaksOff_of_error hbroken⟩

end Report

end DriveBench
