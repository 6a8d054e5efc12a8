import DriveBench.Proofs.Report.Attempt

/-!
# Runs that carry more along

Two renderers may answer alike while one of them keeps more in its state. This
is what lets a run be watched: a renderer with notes of what it was asked does
what the renderer without notes does.
-/

namespace DriveBench

namespace Rendering

def Rendered.mapState (f : σ → τ) (rendered : Rendered σ) : Rendered τ :=
  ⟨rendered.result, f rendered.state, rendered.files⟩

/-- The backend, with notes of its requests and what came of them, the latest
last. A request that is broken off leaves none. -/
def Backend.noting (note : Recording → Figure → String → Filesystem → Rendered σ → List α)
    (backend : Backend σ) : Backend (σ × List α) where
  name := backend.name
  render recording figure output state files := do
    let rendered ← backend.render recording figure output state.1 files
    return ⟨rendered.result,
      (rendered.state, state.2 ++ note recording figure output files rendered), rendered.files⟩

def Renderer.noting (note : Recording → Figure → String → Filesystem → Rendered σ → List α) :
    Renderer σ → Renderer (σ × List α)
  | .ready backend => .ready (backend.noting note)
  | .unavailable reason hint => .unavailable reason hint

end Rendering

namespace Report

open Rendering (Backend Failure Overflow Rendered Renderer)

variable {σ τ α : Type} {f : σ → τ} {settings : Settings} {path : String}

def World.mapState (f : σ → τ) (w : World σ) : World τ := ⟨w.files, f w.state, w.plotsReady⟩

def Attempt.mapState (f : σ → τ) (a : Attempt σ) : Attempt τ := ⟨a.result, a.log, a.world.mapState f⟩

def Outcome.mapState (f : σ → τ) (o : Outcome σ) : Outcome τ :=
  ⟨o.status, o.processed, o.log, o.world.mapState f⟩

/-- `plain` renders as `larger` does, whose states `f` reads as its own. -/
structure Through (f : σ → τ) (larger : Renderer σ) (plain : Renderer τ) : Prop where
  announced (figure : Figure) : announced plain figure = announced larger figure
  render (recording : Recording) (figure : Figure) (output : String) (state : σ)
    (files : Filesystem) : plain.render recording figure output (f state) files =
      (larger.render recording figure output state files).map (Rendered.mapState f)

section

variable {larger : Renderer σ} {plain : Renderer τ}

theorem preparePlots_mapState (f : σ → τ) (w : World σ) : (w.mapState f).preparePlots settings =
    ((w.preparePlots settings).1.mapState f, (w.preparePlots settings).2) := by
  unfold World.preparePlots World.mapState
  split <;> rfl

theorem attempt_through (through : Through f larger plain) (path : String) (w : World σ) :
    attempt settings plain path (w.mapState f) =
      (attempt settings larger path w).map (Attempt.mapState f) := by
  unfold attempt
  rw [preparePlots_mapState]
  have hfiles : (w.mapState f).files = w.files := rfl
  rw [hfiles]
  cases Recording.load w.files path settings.timeColumn with
  | error failure => rfl
  | ok recording =>
    dsimp only
    split
    · rfl
    · split
      · rfl
      · rcases w.preparePlots settings with ⟨ready, made⟩
        cases made with
        | error fault => rfl
        | ok u =>
          have hready : (ready.mapState f).state = f ready.state := rfl
          simp only [hready, through.announced, through.render]
          have hfiles : (ready.mapState f).files = ready.files := rfl
          rw [hfiles]
          cases larger.render recording _ _ ready.state ready.files with
          | error overflow => rfl
          | ok rendered =>
            obtain ⟨result, state, files⟩ := rendered
            cases result with
            | error failure =>
              simp only [Except.map, Rendered.mapState, bind, Except.bind, pure, Except.pure, World.fail]
              split <;> rfl
            | ok u => rfl

theorem processAll_through (through : Through f larger plain) (expected : List Expected) (w : World σ) :
    processAll settings plain expected (w.mapState f) =
      (processAll settings larger expected w).map (Outcome.mapState f) := by
  induction expected generalizing w with
  | nil => rfl
  | cons e rest ih =>
    cases hfound : e.found with
    | false =>
      rw [processAll_missing hfound, processAll_missing hfound, ih]
      cases processAll settings larger rest w <;> rfl
    | true =>
      rw [processAll_found hfound, processAll_found hfound, attempt_through through]
      cases attempt settings larger e.path w with
      | error overflow => rfl
      | ok a =>
        obtain ⟨result, log, next⟩ := a
        cases result with
        | error failure => rfl
        | ok verdict =>
          simp only [Except.map, bind, Except.bind, Attempt.mapState, ih]
          cases processAll settings larger rest next <;> rfl

theorem run_through (through : Through f larger plain) (state : σ) (files : Filesystem) :
    run settings plain (f state) files =
      (run settings larger state files).map (Outcome.mapState f) := by
  unfold run
  split
  · exact processAll_through through _ ⟨files, state, false⟩
  · rfl

end

section

variable {note : Recording → Figure → String → Filesystem → Rendered σ → List α}

theorem through_noting (renderer : Renderer σ) :
    Through Prod.fst (renderer.noting note) renderer := by
  cases renderer with
  | unavailable reason hint => exact ⟨fun _ => rfl, fun _ _ _ _ _ => rfl⟩
  | ready backend =>
    refine ⟨fun _ => rfl, fun recording figure output state files => ?_⟩
    simp only [Renderer.render, Renderer.noting, Backend.noting]
    cases backend.render recording figure output state.1 files <;> rfl

theorem request_noting {backend : Backend σ} {recording : Recording} {w : World (σ × List α)}
    {rendered : Rendered (σ × List α)}
    (h : settings.request (.ready (backend.noting note)) path recording w = .ok rendered) :
    ∃ own, backend.render recording (settings.figureOf recording) (settings.outputPath path)
        w.state.1 w.files = .ok own ∧
      rendered = ⟨own.result, (own.state, w.state.2 ++
        note recording (settings.figureOf recording) (settings.outputPath path) w.files own),
        own.files⟩ := by
  simp only [Settings.request, Renderer.render, Backend.noting, bind, Except.bind, pure,
    Except.pure] at h
  cases hown : backend.render recording (settings.figureOf recording) (settings.outputPath path)
      w.state.1 w.files with
  | error overflow =>
    rw [hown] at h
    cases h
  | ok own =>
    rw [hown] at h
    cases h
    exact ⟨own, rfl, rfl⟩

end

end Report

end DriveBench
