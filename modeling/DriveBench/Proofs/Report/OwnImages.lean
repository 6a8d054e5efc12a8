import DriveBench.Proofs.Report.Frame
import DriveBench.Proofs.Report.Requests

/-!
# An image for each recording

An image has the name of its recording without the directory and without what
follows the last dot, so recordings that differ in nothing else have one image
between them.
-/

namespace DriveBench

namespace Rendering

def Job.deed? (job : Job) : Option Deed :=
  match job.answer with
  | .ok () => some ⟨job.request.output, job.before, job.after⟩
  | .error _ => none

end Rendering

namespace Report

open Rendering (Backend Deed Job Rendered Renderer)

variable {σ τ : Type} {settings : Settings} {renderer : Renderer σ} {initial : Filesystem}
  {path other : String} {paths written : List String} {skipped : List (String × SkipReason)}
  {expected : List Expected} {jobs : List Job}

theorem outputPath_inj : settings.outputPath path = settings.outputPath other ↔
    Path.stem path = Path.stem other := by
  have names : imageName path = imageName other ↔ Path.stem path = Path.stem other := by
    simp [imageName, ← String.toList_inj]
  rw [← names]
  exact Path.join_inj_of_plain (isPlainName_imageName path) (isPlainName_imageName other)

theorem nodup_outputs (apart : (paths.map Path.stem).Nodup) :
    (paths.map settings.outputPath).Nodup := by
  rw [List.Nodup, List.pairwise_map] at apart ⊢
  exact apart.imp fun hne => mt outputPath_inj.1 hne

theorem Split.written_sublist (h : Split settings paths written skipped) :
    written.Sublist (paths.map settings.outputPath) := by
  induction h with
  | nil => exact .refl _
  | written _ ih => exact ih.cons_cons _
  | skipped _ ih => exact ih.cons _

theorem runs_written_sublist {w : World σ} {o : Outcome σ}
    (hr : Runs settings renderer expected w o) :
    o.written.Sublist ((expected.map Expected.path).map settings.outputPath) := by
  have hsplit := (runs_split hr).written_sublist
  rw [List.map_take] at hsplit
  exact hsplit.trans ((List.take_sublist _ _).map _)

theorem through_observed (renderer : Renderer σ) :
    Through (fun state => (state.1, state.2.filterMap Job.deed?)) renderer.observed
      renderer.watched := by
  cases renderer with
  | unavailable reason hint => exact ⟨fun _ => rfl, fun _ _ _ _ _ => rfl⟩
  | ready backend =>
    refine ⟨fun _ => rfl, fun recording figure output state files => ?_⟩
    simp only [Renderer.render, Renderer.observed, Renderer.watched, Renderer.noting, Backend.noting]
    cases backend.render recording figure output state.1 files with
    | error overflow => rfl
    | ok rendered =>
      obtain ⟨result, state', files'⟩ := rendered
      cases result <;> simp [Job.deed?, Except.isOk, Except.toBool, Except.map, Rendered.mapState,
        bind, Except.bind, pure, Except.pure]

/-- Each image that a run says it wrote is that of one expected file, and the
one job that asked for it was for that file. -/
structure OwnImages (settings : Settings) (renderer : Renderer σ) (jobs : List Job)
    (o : Outcome τ) : Prop where
  written : o.written.Nodup
  asked : (jobs.map (·.request.output)).Nodup
  kept : renderer.Tame → ∀ output ∈ o.written, ∃ name ∈ settings.expectedFiles, ∃ job ∈ jobs,
    JobFor settings renderer (settings.inputPath name) job ∧ job.request.output = output ∧
      job.answer = .ok () ∧ o.world.files.lookup output = job.after.lookup output

theorem kept_of_runs {o : Outcome (σ × List Job)} {state : σ}
    (tame : renderer.Tame) (there : initial.isDirectory settings.resultsDir = true)
    (ho : processAll settings renderer.observed expected ⟨initial, (state, []), false⟩ = .ok o) :
    ∀ output ∈ o.written, ∃ job ∈ o.world.state.2, job.request.output = output ∧
      job.answer = .ok () ∧ o.world.files.lookup output = job.after.lookup output := by
  have hwatched : processAll settings renderer.watched expected ⟨initial, (state, []), false⟩ = _ :=
    processAll_through (through_observed renderer) expected ⟨initial, (state, []), false⟩
  rw [ho] at hwatched
  obtain ⟨o', ho', hruns⟩ | ⟨_, hbroken, -⟩ := processAll_cases settings renderer.watched expected
    ⟨initial, (state, []), false⟩
  · obtain rfl := Except.ok.inj (hwatched.symm.trans ho')
    -- the run with deeds is this run, so its frame says where an image was made
    have frame := frame_of_runs tame (plotsDir_ne_empty there) hruns
    intro output houtput
    obtain ⟨front, d, back, hdeeds, rfl, -, hlook, -⟩ := frame.images output houtput
    have hd : d ∈ o.world.state.2.filterMap Job.deed? := by
      have hmem : d ∈ front ++ d :: back := by simp
      rw [← hdeeds] at hmem
      exact hmem
    obtain ⟨job, hjob, hdeed⟩ := List.mem_filterMap.1 hd
    unfold Job.deed? at hdeed
    split at hdeed
    · rename_i hanswer
      obtain rfl := Option.some.inj hdeed
      exact ⟨job, hjob, rfl, hanswer, hlook⟩
    · cases hdeed
  · cases hwatched.symm.trans hbroken

/-- Recordings of distinct stems have images of their own. -/
theorem run_own_images (settings : Settings) (renderer : Renderer σ) (state : σ)
    (initial : Filesystem)
    (apart : (settings.expectedFiles.map fun name => Path.stem (settings.inputPath name)).Nodup) :
    (∃ o, run settings renderer.observed (state, []) initial = .ok o ∧
      run settings renderer state initial = .ok (o.mapState Prod.fst) ∧
      OwnImages settings renderer o.world.state.2 (o.mapState Prod.fst)) ∨
    ∃ overflow, run settings renderer state initial = .error overflow ∧
      RunBreaksOff settings renderer state initial overflow := by
  have through : Through Prod.fst renderer.observed renderer := through_noting renderer
  have hplain : run settings renderer state initial =
      (run settings renderer.observed (state, []) initial).map (Outcome.mapState Prod.fst) :=
    run_through through (state, []) initial
  have outputs : (((discover settings initial).map Expected.path).map settings.outputPath).Nodup :=
    nodup_outputs (by simpa [discover, Function.comp_def] using apart)
  obtain ⟨-, o, ho, -, hprocessed, hworld⟩ | ⟨there, ⟨o, ho, hruns⟩ | ⟨overflow, ho, -⟩⟩ :=
    run_cases settings renderer.observed (state, []) initial
  · have hwritten : (o.mapState Prod.fst).written = [] := by
      rw [Outcome.written, Outcome.mapState, hprocessed]
      rfl
    refine .inl ⟨o, ho, by rw [hplain, ho]; rfl, ?_, ?_, fun _ output houtput => ?_⟩
    · rw [hwritten]
      exact List.nodup_nil
    · rw [hworld]
      exact List.nodup_nil
    · rw [hwritten] at houtput
      cases houtput
  · obtain ⟨jobs, hstate, hserves⟩ := runs_serve hruns
    obtain rfl : o.world.state.2 = jobs := by simpa using hstate
    refine .inl ⟨o, ho, by rw [hplain, ho]; rfl, (runs_written_sublist hruns).nodup outputs,
      hserves.outputs_sublist.nodup outputs, fun tame output houtput => ?_⟩
    rw [run, if_pos there] at ho
    obtain ⟨job, hjob, hasked, hanswer, hlook⟩ := kept_of_runs tame there ho output houtput
    obtain ⟨e, he, hfor⟩ := hserves.jobFor job hjob
    obtain ⟨name, hname, rfl⟩ := List.mem_map.1 he
    exact ⟨name, hname, job, hjob, hfor, hasked, hanswer, hlook⟩
  · have broken : run settings renderer state initial = .error overflow := by rw [hplain, ho]; rfl
    exact .inr ⟨overflow, broken, runBreaksOff_of_error broken⟩

theorem run_own_images_four_files :
    let settings : Settings := { expectedFiles := ["a.csv", "b.txt", "sub/a.b.csv", "c"] }
    let initial := withResults
      [("a.csv", "time,id\n0,1\n"), ("b.txt", "time,iq\n0,1\n"), ("c", "time,iq\n0,1\n")]
    let script := Rendering.Script.ofOutcomes [.ok (), .error (.drawing "boom"), .ok ()]
    let renderer : Renderer Rendering.Script := .ready Rendering.Script.backend
    (settings.expectedFiles.map fun name => Path.stem (settings.inputPath name)).Nodup ∧
      ∃ o, run settings renderer.observed (script, []) initial = .ok o ∧
        run settings renderer script initial = .ok (o.mapState Prod.fst) ∧
        OwnImages settings renderer o.world.state.2 (o.mapState Prod.fst) := by
  intro settings initial script renderer
  have apart : (settings.expectedFiles.map fun name => Path.stem (settings.inputPath name)).Nodup := by
    decide +kernel
  refine ⟨apart, ?_⟩
  obtain ⟨o, hobserved, hrun, hown⟩ | ⟨_, -, _, _, _, _, -, -, -, _, _, -, -, hbroken⟩ :=
    run_own_images settings renderer script initial apart
  · exact ⟨o, hobserved, hrun, hown⟩
  · exact absurd hbroken render_script_ne_error

/-- Two recordings in two files, one of which is named for a table and one for a
text, are both said to be written under one path. -/
theorem one_image_for_two_recordings :
    let settings : Settings := { expectedFiles := ["a.csv", "a.txt"] }
    let initial := withResults [("a.csv", "time,id\n0,1\n"), ("a.txt", "time,id\n0,2\n")]
    settings.expectedFiles.Nodup ∧
      (∀ name ∈ settings.expectedFiles, initial.isFile (settings.inputPath name) = true) ∧
      (settings.expectedFiles.map fun name =>
        (initial.locate (settings.inputPath name)).toOption).Nodup ∧
      ∃ o, run settings (.ready Rendering.Script.backend) (.ofOutcomes []) initial = .ok o ∧
        o.status = .success ∧ ¬ o.written.Nodup := by
  intro settings initial
  have ends : (run settings (.ready Rendering.Script.backend) (.ofOutcomes []) initial).toOption.map
      (fun o => (o.status, o.written)) =
        some (.success, ["results/plots/a.png", "results/plots/a.png"]) := by decide +kernel
  refine ⟨by decide, by decide +kernel, by decide +kernel, ?_⟩
  cases hrun : run settings (.ready Rendering.Script.backend) (.ofOutcomes []) initial with
  | error overflow =>
    rw [hrun] at ends
    cases ends
  | ok o =>
    rw [hrun] at ends
    obtain ⟨hs, hwritten⟩ := Prod.mk.inj (Option.some.inj ends)
    refine ⟨o, rfl, hs, ?_⟩
    rw [hwritten]
    simp

end Report

end DriveBench
