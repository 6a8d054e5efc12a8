import DriveBench.Proofs.Report.Accounting
import DriveBench.Proofs.Report.Plan
import DriveBench.Proofs.Storage.Directories

/-!
# Runs without a backend

Where there is no backend a run ends at the first figure that it wants rendered:
the first of a plottable file once the directory of the images is there. If that
directory cannot be made, which is a failure of one file, no figure is ever
asked for.
-/

namespace DriveBench

namespace Rendering

inductive Renderer.Lacks : Renderer σ → Prop
  | given (reason hint : String) : Lacks (.unavailable reason hint)
  | searched (failure : Failure) : Lacks (ofProbe (.error failure))

theorem Renderer.Lacks.eq {renderer : Renderer σ} (h : renderer.Lacks) :
    ∃ reason hint, renderer = .unavailable reason hint := by
  cases h with
  | given reason hint => exact ⟨reason, hint, rfl⟩
  | searched failure =>
    cases failure with
    | unavailable reason hint => exact ⟨reason, hint, rfl⟩
    | drawing message => exact ⟨_, _, rfl⟩
    | making path fault => exact ⟨_, _, rfl⟩
    | saving path cause => exact ⟨_, _, rfl⟩

end Rendering

namespace Report

open Filesystem (Adds Keeps)
open Rendering (Failure Overflow Rendered Renderer)

variable {σ : Type} {settings : Settings} {initial : Filesystem} {path reason hint : String}
  {w ready : World σ}

def Drawable (settings : Settings) (files : Filesystem) (path : String) : Prop :=
  files.isFile path = true ∧ ∃ recording, Plottable settings files path recording

/-- Whether the directory of the images is there or can be made. -/
def CanPrepare (settings : Settings) (files : Filesystem) : Prop :=
  (files.makeDirectories settings.plotsDir).2 = .ok ()

theorem drawable_iff {files : Filesystem} : Drawable settings files path ↔
    files.isFile path = true ∧ (Recording.load files path settings.timeColumn).toOption.any
      (fun recording => !recording.isEmpty && !(settings.fieldsOf recording).isEmpty) = true := by
  unfold Drawable
  refine and_congr_right fun _ => ?_
  constructor
  · rintro ⟨recording, hp⟩
    simp [hp.loaded, hp.records, hp.fields, Except.toOption]
  · intro h
    cases hload : Recording.load files path settings.timeColumn with
    | error failure => simp [hload, Except.toOption] at h
    | ok recording =>
      simp [hload, Except.toOption] at h
      exact ⟨recording, hload, h.1, h.2⟩

instance (files : Filesystem) : Decidable (Drawable settings files path) :=
  decidable_of_iff _ drawable_iff.symm

instance (files : Filesystem) : Decidable (CanPrepare settings files) :=
  inferInstanceAs (Decidable (_ = _))

/-- A world to which a run without a backend has come: nothing but directories
has been made, and not the one of the images. -/
structure Waiting (settings : Settings) (initial : Filesystem) (w : World σ) : Prop where
  adds : initial.Adds (fun _ => True) w.files
  unready : w.plotsReady = false
  prepares : CanPrepare settings w.files ↔ CanPrepare settings initial

theorem Waiting.begin (settings : Settings) (initial : Filesystem) (state : σ) :
    Waiting settings initial ⟨initial, state, false⟩ := ⟨.refl, rfl, .rfl⟩

theorem Waiting.preparePlots {made : Except Fault Unit} (h : Waiting settings initial w)
    (hready : w.preparePlots settings = (ready, made)) :
    initial.Adds (fun _ => True) ready.files ∧
      (made = .ok () ∧ CanPrepare settings initial ∨
        (∃ fault, made = .error fault) ∧ ¬ CanPrepare settings initial ∧
          Waiting settings initial ready) := by
  have added : w.files.Adds (fun _ => True) (w.files.makeDirectories settings.plotsDir).1 :=
    (Filesystem.adds_makeDirectories w.files settings.plotsDir).imp fun _ _ _ => trivial
  have hprepares := h.prepares
  unfold CanPrepare at hprepares
  cases prepares_of_preparePlots hready with
  | known known =>
    rw [h.unready] at known
    cases known
  | made _ hmake =>
    rw [hmake] at added hprepares
    exact ⟨h.adds.trans added, .inl ⟨rfl, hprepares.1 rfl⟩⟩
  | @refused files fault _ hmake =>
    rw [hmake] at added hprepares
    have hcannot : ¬ CanPrepare settings initial := by
      intro hcan
      cases hprepares.2 hcan
    obtain ⟨other, hagain⟩ := Filesystem.makeDirectories_again hmake
    have hrefuses : ¬ CanPrepare settings files := by
      unfold CanPrepare
      simp [hagain]
    exact ⟨h.adds.trans added, .inr ⟨⟨fault, rfl⟩, hcannot, h.adds.trans added, rfl,
      iff_of_false hrefuses hcannot⟩⟩

theorem load_of_adds {files : Filesystem} (h : initial.Adds (fun _ => True) files)
    (found : initial.isFile path = true) (timeColumn : String) :
    Recording.load files path timeColumn = Recording.load initial path timeColumn := by
  obtain ⟨bytes, hbytes⟩ := Filesystem.isFile_iff.1 found
  have keeps : initial.Keeps (fun _ => True) files := h.keeps
  have hlater := Filesystem.lookup_of_keeps keeps hbytes fun _ _ => trivial
  rw [Recording.load_of_lookup hlater, Recording.load_of_lookup hbytes]

/-- One file that was there: it is skipped and the run waits on, or the run ends
because there is something to be drawn. -/
theorem attempts_waiting {a : Attempt σ} (h : Waiting settings initial w)
    (found : initial.isFile path = true)
    (ha : Attempts settings (.unavailable reason hint) path w a) :
    (∃ skip, a.result = .ok (.skipped skip) ∧ Waiting settings initial a.world ∧
        ¬ (Drawable settings initial path ∧ CanPrepare settings initial)) ∨
      (∃ failure, a.result = .error failure) ∧ initial.Adds (fun _ => True) a.world.files ∧
        Drawable settings initial path ∧ CanPrepare settings initial := by
  have hload := load_of_adds h.adds found settings.timeColumn
  have drawable {recording : Recording} (hp : Plottable settings w.files path recording) :
      Drawable settings initial path :=
    ⟨found, recording, hload ▸ hp.loaded, hp.records, hp.fields⟩
  -- what is loaded now is the only recording that the file had at the beginning
  have undrawable {recording : Recording}
      (hnow : Recording.load w.files path settings.timeColumn = .ok recording)
      (hnot : recording.isEmpty = false → settings.fieldsOf recording = []) :
      ¬ (Drawable settings initial path ∧ CanPrepare settings initial) := by
    rintro ⟨⟨-, other, hp⟩, -⟩
    rw [hload, hp.loaded, Except.ok.injEq] at hnow
    subst hnow
    exact hp.fields (hnot hp.records)
  cases ha with
  | unreadable hfail =>
    refine .inl ⟨_, rfl, h, ?_⟩
    rintro ⟨⟨-, recording, hp⟩, -⟩
    rw [hload, hp.loaded] at hfail
    cases hfail
  | noRecords hok hempty => exact .inl ⟨_, rfl, h, undrawable hok (by simp [hempty])⟩
  | noFields hok _ hnone => exact .inl ⟨_, rfl, h, undrawable hok fun _ => hnone⟩
  | unprepared hp hready =>
    obtain ⟨-, ⟨hmade, -⟩ | ⟨-, hcannot, hwaiting⟩⟩ := h.preparePlots hready
    · cases hmade
    · exact .inl ⟨_, rfl, hwaiting, fun hboth => hcannot hboth.2⟩
  | aborted hp hready hr _ _ =>
    obtain ⟨hadds, ⟨-, hcan⟩ | ⟨⟨_, hmade⟩, -⟩⟩ := h.preparePlots hready
    · cases hr
      exact .inr ⟨⟨_, rfl⟩, hadds, drawable hp, hcan⟩
    · cases hmade
  | failed _ _ hr hresult hfatal =>
    cases hr
    cases hresult
    cases hfatal
  | written _ _ hr hresult =>
    cases hr
    cases hresult

theorem runs_waiting {expected : List Expected} {o : Outcome σ} (h : Waiting settings initial w)
    (looked : ∀ e ∈ expected, e.found = initial.isFile e.path)
    (hr : Runs settings (.unavailable reason hint) expected w o) :
    o.written = [] ∧ initial.Adds (fun _ => True) o.world.files ∧
      (o.status = .plottingUnavailable ∧ CanPrepare settings initial ∧
          (∃ e ∈ expected, Drawable settings initial e.path) ∨
        o.status = .success ∧
          ∀ e ∈ expected, ¬ (Drawable settings initial e.path ∧ CanPrepare settings initial)) := by
  induction hr with
  | nil => exact ⟨rfl, h.adds, .inr ⟨rfl, by simp⟩⟩
  | @missing e rest w o hmissing _ ih =>
    obtain ⟨hfound, hrest⟩ := List.forall_mem_cons.1 looked
    obtain ⟨hwritten, hadds, hstatus⟩ := ih h hrest
    refine ⟨hwritten, hadds, hstatus.imp ?_ ?_⟩
    · rintro ⟨hs, hcan, e, he, hdrawable⟩
      exact ⟨hs, hcan, e, List.mem_cons_of_mem _ he, hdrawable⟩
    · rintro ⟨hs, hnone⟩
      refine ⟨hs, List.forall_mem_cons.2 ⟨?_, hnone⟩⟩
      rintro ⟨⟨hthere, -⟩, -⟩
      rw [← hfound, hmissing] at hthere
      cases hthere
  | @done e rest w verdict log next o hthere ha _ ih =>
    obtain ⟨hfound, hrest⟩ := List.forall_mem_cons.1 looked
    obtain ⟨skip, hskip, hnext, hnot⟩ | ⟨⟨_, hfail⟩, -⟩ :=
      attempts_waiting h (hfound ▸ hthere) (attempts_of_attempt ha)
    · cases hskip
      obtain ⟨hwritten, hadds, hstatus⟩ := ih hnext hrest
      refine ⟨hwritten, hadds, hstatus.imp ?_ ?_⟩
      · rintro ⟨hs, hcan, e, he, hdrawable⟩
        exact ⟨hs, hcan, e, List.mem_cons_of_mem _ he, hdrawable⟩
      · rintro ⟨hs, hnone⟩
        exact ⟨hs, List.forall_mem_cons.2 ⟨hnot, hnone⟩⟩
    · cases hfail
  | @aborted e rest w failure log next hthere ha =>
    obtain ⟨hfound, -⟩ := List.forall_mem_cons.1 looked
    obtain ⟨skip, hskip, -⟩ | ⟨-, hadds, hdrawable, hcan⟩ :=
      attempts_waiting h (hfound ▸ hthere) (attempts_of_attempt ha)
    · cases hskip
    · exact ⟨rfl, hadds, .inl ⟨rfl, hcan, e, List.mem_cons_self, hdrawable⟩⟩

/-- Without a backend a run says that nothing can be rendered exactly if there
is something to be drawn and the directory of the images can be prepared. -/
theorem run_without_backend (settings : Settings) (renderer : Renderer σ) (state : σ)
    (initial : Filesystem) (lacks : renderer.Lacks)
    (there : initial.isDirectory settings.resultsDir = true) :
    ∃ o, run settings renderer state initial = .ok o ∧ o.written = [] ∧
      (∀ location bytes, o.world.files.get? location = some (.file bytes) ↔
        initial.get? location = some (.file bytes)) ∧
      (o.status = .plottingUnavailable ↔
        (∃ name ∈ settings.expectedFiles, Drawable settings initial (settings.inputPath name)) ∧
          CanPrepare settings initial) ∧
      (o.status = .plottingUnavailable ∧ o.status.code = 2 ∨
        o.status = .success ∧ o.status.code = 0) := by
  obtain ⟨reason, hint, rfl⟩ := lacks.eq
  have looked : ∀ e ∈ discover settings initial, e.found = initial.isFile e.path := by
    intro e he
    obtain ⟨name, -, rfl⟩ := List.mem_map.1 he
    rfl
  have hrun : run settings (.unavailable reason hint) state initial =
      processAll settings (.unavailable reason hint) (discover settings initial)
        ⟨initial, state, false⟩ := by
    simp [run, there]
  rw [hrun]
  obtain ⟨o, ho, hruns⟩ | ⟨overflow, -, hbreaks⟩ := processAll_cases settings
    (.unavailable reason hint) (discover settings initial) ⟨initial, state, false⟩
  · obtain ⟨hwritten, hadds, hstatus⟩ := runs_waiting (.begin settings initial state) looked hruns
    refine ⟨o, ho, hwritten, fun _ _ => hadds.file_iff, ?_⟩
    obtain ⟨hs, hcan, e, he, hdrawable⟩ | ⟨hs, hnone⟩ := hstatus
    · obtain ⟨name, hname, rfl⟩ := List.mem_map.1 he
      rw [hs]
      exact ⟨⟨fun _ => ⟨⟨name, hname, hdrawable⟩, hcan⟩, fun _ => rfl⟩, .inl ⟨rfl, rfl⟩⟩
    · rw [hs]
      refine ⟨⟨?_, ?_⟩, .inr ⟨rfl, rfl⟩⟩
      · intro hunavailable
        cases hunavailable
      · rintro ⟨⟨name, hname, hdrawable⟩, hcan⟩
        exact absurd ⟨hdrawable, hcan⟩ (hnone _ (List.mem_map_of_mem hname))
  · obtain ⟨_, _, _, _, -, -, -, _, _, -, -, hbroken⟩ := breaks_at hbreaks
    cases hbroken

theorem run_without_backend_three_files :
    let settings : Settings := { expectedFiles := ["a.csv", "b.csv", "c.csv"] }
    let initial := withResults [("a.csv", "time,id\n0,x\n"), ("b.csv", "time,id\n0,1\n")]
    let renderer : Renderer Unit := .ofProbe (.error (.drawing "no font"))
    renderer.Lacks ∧ initial.isDirectory settings.resultsDir = true ∧
      ∃ o, run settings renderer () initial = .ok o ∧ o.status = .plottingUnavailable ∧
        o.written = [] := by
  intro settings initial renderer
  have there : initial.isDirectory settings.resultsDir = true := by decide +kernel
  have wanted : ∃ name ∈ settings.expectedFiles,
      Drawable settings initial (settings.inputPath name) := by decide +kernel
  have prepares : CanPrepare settings initial := by decide +kernel
  obtain ⟨o, ho, hwritten, -, hstatus, -⟩ :=
    run_without_backend settings renderer () initial (.searched _) there
  exact ⟨.searched _, there, o, ho, hstatus.2 ⟨wanted, prepares⟩, hwritten⟩

/-- Where a file stands in the place of the directory of the images, something
is to be drawn and nothing can be rendered, and yet the run is a success. -/
theorem unavailable_and_success :
    let settings : Settings := {}
    let initial := withResults [("plots", "x"), ("speed_step_test.csv", "time,id\n0,1\n")]
    initial.isDirectory settings.resultsDir = true ∧
      (∃ name ∈ settings.expectedFiles, Drawable settings initial (settings.inputPath name)) ∧
      ∃ o : Outcome Unit, run settings (.unavailable "no font" "install one") () initial = .ok o ∧
        o.status = .success ∧ o.status.code = 0 := by
  intro settings initial
  have ends : (run settings (.unavailable "no font" "install one" : Renderer Unit) () initial).toOption.map
      Outcome.status = some .success := by decide +kernel
  refine ⟨by decide +kernel, by decide +kernel, ?_⟩
  cases hrun : run settings (.unavailable "no font" "install one" : Renderer Unit) () initial with
  | error overflow =>
    rw [hrun] at ends
    cases ends
  | ok o =>
    rw [hrun] at ends
    have hs : o.status = .success := Option.some.inj ends
    exact ⟨o, rfl, hs, by rw [hs]; rfl⟩

end Report

end DriveBench
