import DriveBench.Proofs.Report.Accounting
import DriveBench.Proofs.Report.Plan
import DriveBench.Proofs.Storage.Alike
import DriveBench.Proofs.Storage.Directories

/-!
# What a run leaves alone

A run makes the directory of the images, with those on the way to it, and in it
the images that it answers for. Nothing else is touched, however far the run
comes.
-/

namespace DriveBench

namespace Rendering

structure Deed where
  output : String
  before : Filesystem
  after : Filesystem

/-- The renderer with the deeds of its backend, the latest last. -/
def Renderer.watched : Renderer σ → Renderer (σ × List Deed) :=
  Renderer.noting fun _ _ output files rendered =>
    if rendered.result.isOk then [⟨output, files, rendered.files⟩] else []

def Renderer.Tame : Renderer σ → Prop
  | .ready backend => backend.Tame
  | .unavailable .. => True

/-- At most the output was written. -/
def Deed.Honest (d : Deed) : Prop :=
  d.before.Same d.after ∨
    ∃ bytes written, d.before.writeFile d.output bytes = .ok written ∧ written.Same d.after

theorem Deed.Honest.keeps {d : Deed} (h : d.Honest) : d.before.Keeps (fun _ => False) d.after := by
  rcases h with same | ⟨bytes, written, hwrite, same⟩
  · exact same.keeps
  · exact (Filesystem.keeps_writeFile hwrite (by simp)).trans same.keeps

theorem Deed.Honest.view {d : Deed} (h : d.Honest) (location : Location) :
    d.after.get? location = d.before.get? location ∨ d.after.locate d.output = .ok location := by
  rcases h with same | ⟨bytes, written, hwrite, same⟩
  · exact .inl (same.get? location)
  · obtain ⟨here, hlocate, -, hothers⟩ := Filesystem.locate_of_writeFile hwrite
    by_cases heq : location = here
    · subst heq
      exact .inr ((Filesystem.locate_of_alike same.alike _).trans hlocate)
    · exact .inl ((same.get? location).trans (hothers location heq))

end Rendering

theorem Path.stemOf_sublist (name : List Char) : (stemOf name).Sublist name := by
  unfold stemOf
  dsimp only
  split
  · exact .refl name
  · have htail : (name.reverse.dropWhile (· != '.')).tail.Sublist name.reverse :=
      (List.tail_sublist _).trans (List.dropWhile_sublist _)
    simpa using htail.reverse

theorem Path.slash_notMem_stem (path : String) : '/' ∉ (stem path).toList := by
  unfold stem fileName?
  rw [String.toList_ofList]
  split
  · simp
  · simp
  · rename_i name _ hlast
    intro hslash
    have hname : name ∈ pieces path := (List.mem_filter.1 (List.mem_of_getLast? hlast)).1
    exact separator_notMem_of_mem_pieces hname ((stemOf_sublist name).mem hslash)

namespace Report

open Filesystem (Adds Keeps OnTheWay Same)
open Rendering (Backend Deed Failure Overflow Rendered Renderer)

def imageName (path : String) : String := Path.stem path ++ ".png"

theorem isPlainName_imageName (path : String) : IsPlainName (imageName path) := by
  have ends : ∀ short : String, short.toList.length < 4 → imageName path ≠ short := by
    rintro short hshort rfl
    have hlength : ".png".toList.length = 4 := rfl
    rw [imageName, String.toList_append, List.length_append] at hshort
    omega
  refine ⟨?_, ends "" (by decide), ends "." (by decide), ends ".." (by decide)⟩
  unfold imageName
  rw [String.toList_append, List.mem_append]
  rintro (hslash | hslash)
  · exact Path.slash_notMem_stem path hslash
  · exact absurd hslash (by decide)

variable {σ : Type} {settings : Settings} {initial : Filesystem} {path : String}
  {renderer : Renderer σ} {w next ready : World (σ × List Deed)}

theorem plotsDir_ne_empty (there : initial.isDirectory settings.resultsDir = true) :
    settings.plotsDir ≠ "" := by
  intro hempty
  obtain ⟨location, hlocate, -⟩ := Filesystem.lookup_ok.1 (Filesystem.isDirectory_iff.1 there)
  have text := (Filesystem.locate_ok.1 hlocate).1
  have hresults : settings.resultsDir = "" := by
    unfold Settings.plotsDir Path.join at hempty
    split at hempty
    · rename_i habs
      rw [hempty] at habs
      cases habs
    · split at hempty
      · exact (String.append_eq_empty_iff.1 hempty).1
      · exact (String.append_eq_empty_iff.1 (String.append_eq_empty_iff.1 hempty).1).1
  rw [hresults] at text
  cases text

-- ---------------------------------------------------------------------------
-- What is carried along
-- ---------------------------------------------------------------------------

/-- Under `output` is what the last deed for it left there. -/
def Shows (deeds : List Deed) (files : Filesystem) (output : String) : Prop :=
  ∃ front d back, deeds = front ++ d :: back ∧ d.output = output ∧
    (∀ later ∈ back, later.output ≠ output) ∧ files.lookup output = d.after.lookup output

/-- A location is as it was, or a directory on the way to the images has been
made there, or it is the location of one of them. -/
def Accounted (settings : Settings) (initial files : Filesystem) (outputs : List String)
    (location : Location) : Prop :=
  files.get? location = initial.get? location ∨
    (initial.get? location = none ∧ files.get? location = some .directory ∧
      files.OnTheWay settings.plotsDir location) ∨
    ∃ output ∈ outputs, files.locate output = .ok location

structure Carried (settings : Settings) (initial : Filesystem) (w : World (σ × List Deed)) : Prop where
  keeps : initial.Keeps (fun _ => False) w.files
  accounted : ∀ location,
    Accounted settings initial w.files (w.state.2.map Deed.output) location
  honest : ∀ d ∈ w.state.2, d.Honest
  named : ∀ d ∈ w.state.2, ∃ path, d.output = settings.outputPath path
  shown : ∀ d ∈ w.state.2, Shows w.state.2 w.files d.output
  ready : w.plotsReady = true → w.files.isDirectory settings.plotsDir = true
  idle : w.plotsReady = false → w.state.2 = []

theorem Carried.begin (settings : Settings) (initial : Filesystem) (state : σ) :
    Carried settings initial ⟨initial, (state, []), false⟩ where
  keeps := .refl
  accounted _ := .inl rfl
  honest _ hd := nomatch hd
  named _ hd := nomatch hd
  shown _ hd := nomatch hd
  ready h := nomatch h
  idle _ := rfl

theorem Accounted.of_keeps {files after : Filesystem} {outputs : List String} {location : Location}
    (h : Accounted settings initial files outputs location)
    (keeps : files.Keeps (fun _ => False) after)
    (same : after.get? location = files.get? location) :
    Accounted settings initial after outputs location := by
  rcases h with hsame | ⟨hnone, hdir, hway⟩ | ⟨output, ho, hl⟩
  · exact .inl (same.trans hsame)
  · exact .inr (.inl ⟨hnone, same.trans hdir, Filesystem.onTheWay_of_keeps keeps hway⟩)
  · exact .inr (.inr ⟨output, ho, Filesystem.locate_of_keeps keeps hl⟩)

theorem Carried.of_adds {files : Filesystem} {known : Bool} (h : Carried settings initial w)
    (unknown : w.plotsReady = false) (adds : w.files.Adds (OnTheWay files settings.plotsDir) files)
    (made : known = true → files.isDirectory settings.plotsDir = true) :
    Carried settings initial ⟨files, w.state, known⟩ := by
  have idle := h.idle unknown
  refine ⟨h.keeps.trans adds.keeps, fun location => ?_, h.honest, h.named, ?_, made, fun _ => idle⟩
  · rcases adds.view location with hsame | ⟨hway, hnone, hdir⟩
    · exact (h.accounted location).of_keeps adds.keeps hsame
    · -- nothing was there at the beginning either, as nothing is taken away
      have hinitial : initial.get? location = none := by
        by_contra hsome
        have hpresent := h.keeps.present location (Option.isSome_iff_ne_none.2 hsome)
        simp [hnone] at hpresent
      exact .inr (.inl ⟨hinitial, hdir, hway⟩)
  · simp [idle]

theorem Carried.preparePlots {made : Except Fault Unit} (h : Carried settings initial w)
    (hne : settings.plotsDir ≠ "") (hready : w.preparePlots settings = (ready, made)) :
    Carried settings initial ready ∧ ready.state = w.state ∧
      (made = .ok () → ready.plotsReady = true) := by
  have adds := Filesystem.adds_makeDirectories w.files settings.plotsDir
  cases prepares_of_preparePlots hready with
  | known known => exact ⟨h, rfl, fun _ => known⟩
  | made unknown hmake =>
    rw [hmake] at adds
    have there := Filesystem.isDirectory_of_makeDirectories hne hmake
    exact ⟨h.of_adds unknown adds fun _ => there, rfl, fun _ => rfl⟩
  | refused unknown hmake =>
    rw [hmake] at adds
    refine ⟨h.of_adds unknown adds fun hknown => ?_, rfl, fun hok => ?_⟩
    · cases hknown
    · cases hok

theorem Carried.of_same (h : Carried settings initial w) (state : next.state.2 = w.state.2)
    (known : next.plotsReady = w.plotsReady) (same : w.files.Same next.files) :
    Carried settings initial next := by
  have keeps : w.files.Keeps (fun _ => False) next.files := same.keeps
  refine ⟨h.keeps.trans keeps, fun location => ?_, state ▸ h.honest, state ▸ h.named, ?_,
    fun hready => Filesystem.isDirectory_of_keeps keeps (h.ready (known ▸ hready)),
    fun hidle => state ▸ h.idle (known ▸ hidle)⟩
  · rw [state]
    exact (h.accounted location).of_keeps keeps (same.get? location)
  · rw [state]
    intro d hd
    obtain ⟨front, last, back, hall, houtput, hback, hlook⟩ := h.shown d hd
    exact ⟨front, last, back, hall, houtput, hback, (Filesystem.lookup_of_same same _).trans hlook⟩

theorem lookup_of_honest {d : Deed} {other : String} (h : d.Honest)
    (there : d.before.isDirectory settings.plotsDir = true)
    (output : d.output = settings.outputPath path) (hne : settings.outputPath other ≠ d.output) :
    d.after.lookup (settings.outputPath other) = d.before.lookup (settings.outputPath other) := by
  rcases h with same | ⟨bytes, written, hwrite, same⟩
  · exact Filesystem.lookup_of_same same _
  · rw [output] at hwrite hne
    have hnames : imageName other ≠ imageName path := by
      intro heq
      unfold imageName at heq
      exact hne (by rw [Settings.outputPath, heq, Settings.outputPath])
    rw [Filesystem.lookup_of_same same]
    exact Filesystem.lookup_join_of_writeFile there (isPlainName_imageName path)
      (isPlainName_imageName other) hnames hwrite

theorem Carried.written (h : Carried settings initial w) {d : Deed} (honest : d.Honest)
    (output : d.output = settings.outputPath path) (before : d.before = w.files)
    (after : d.after = next.files) (state : next.state.2 = w.state.2 ++ [d])
    (known : w.plotsReady = true) (known' : next.plotsReady = true) :
    Carried settings initial next := by
  have keeps : w.files.Keeps (fun _ => False) next.files := before ▸ after ▸ honest.keeps
  have there := h.ready known
  refine ⟨h.keeps.trans keeps, fun location => ?_, ?_, ?_, ?_, fun _ => ?_, fun hidle => ?_⟩
  · have hview := honest.view location
    rw [before, after] at hview
    rcases hview with hsame | hhere
    · rcases (h.accounted location).of_keeps keeps hsame with hsame | hdir | ⟨o, ho, hl⟩
      · exact .inl hsame
      · exact .inr (.inl hdir)
      · exact .inr (.inr ⟨o, by simp only [state, List.map_append, List.mem_append]; exact .inl ho, hl⟩)
    · exact .inr (.inr ⟨d.output, by simp [state], hhere⟩)
  · rw [state]
    exact List.forall_mem_append.2 ⟨h.honest, by simpa using honest⟩
  · rw [state]
    exact List.forall_mem_append.2 ⟨h.named, by simpa using ⟨path, output⟩⟩
  · rw [state]
    intro other hother
    by_cases heq : other.output = d.output
    · exact ⟨w.state.2, d, [], rfl, heq.symm, by simp, by rw [after]⟩
    · have hold : other ∈ w.state.2 := by
        rcases List.mem_append.1 hother with hold | hnew
        · exact hold
        · exact absurd (by rw [List.mem_singleton.1 hnew]) heq
      obtain ⟨front, last, back, hall, houtput, hback, hlook⟩ := h.shown other hold
      obtain ⟨origin, hfrom⟩ := h.named other hold
      refine ⟨front, last, back ++ [d], by simp [hall], houtput, ?_, ?_⟩
      · exact List.forall_mem_append.2 ⟨hback, by simpa using Ne.symm heq⟩
      · rw [← hlook, ← after, ← before, hfrom]
        exact lookup_of_honest honest (before ▸ there) output (hfrom ▸ heq)
  · exact Filesystem.isDirectory_of_keeps keeps there
  · rw [known'] at hidle
    cases hidle

-- ---------------------------------------------------------------------------
-- Requests and files
-- ---------------------------------------------------------------------------

theorem request_watched (tame : renderer.Tame) {recording : Recording}
    {rendered : Rendered (σ × List Deed)}
    (h : settings.request renderer.watched path recording w = .ok rendered) :
    (∃ failure, rendered.result = .error failure ∧ rendered.state.2 = w.state.2 ∧
        w.files.Same rendered.files) ∨
      ∃ d, rendered.result = .ok () ∧ rendered.state.2 = w.state.2 ++ [d] ∧ d.Honest ∧
        d.output = settings.outputPath path ∧ d.before = w.files ∧ d.after = rendered.files := by
  cases renderer with
  | unavailable reason hint =>
    cases h
    exact .inl ⟨_, rfl, rfl, rfl, fun _ => rfl⟩
  | ready backend =>
    obtain ⟨⟨result, state, files⟩, hown, rfl⟩ := request_noting h
    -- an output that is only a name is compared at once
    generalize settings.outputPath path = output at hown ⊢
    cases result with
    | error failure =>
      exact .inl ⟨failure, rfl, by simp [Except.isOk, Except.toBool], Backend.Tame.failure tame hown⟩
    | ok u =>
      refine .inr ⟨⟨output, w.files, files⟩, rfl, ?_, ?_, rfl, rfl, rfl⟩
      · simp [Except.isOk, Except.toBool]
      · exact Backend.Tame.success tame hown

def Verdict.output? : Verdict → Option String
  | .written output => some output
  | .skipped _ => none

section

variable (tame : renderer.Tame) (named : settings.plotsDir ≠ "")
include tame named

theorem attempts_carry {a : Attempt (σ × List Deed)} (h : Carried settings initial w)
    (ha : Attempts settings renderer.watched path w a) :
    Carried settings initial a.world ∧ ∃ deeds, a.world.state.2 = w.state.2 ++ deeds ∧
      deeds.map Deed.output = (a.result.toOption.bind Verdict.output?).toList := by
  -- a request leaves what the files and the deeds of its answer make of them
  have request {recording ready rendered} (hready : w.preparePlots settings = (ready, .ok ()))
      (hr : settings.request renderer.watched path recording ready = .ok rendered) :
      Carried settings initial (ready.taking rendered) ∧
        ∃ deeds, (ready.taking rendered).state.2 = w.state.2 ++ deeds ∧
          deeds.map Deed.output =
            (rendered.result.toOption.map fun _ => settings.outputPath path).toList := by
    obtain ⟨hcarried, hstate, hknown⟩ := h.preparePlots named hready
    rw [← hstate]
    obtain ⟨failure, hresult, hsame, same⟩ | ⟨d, hresult, hmore, honest, houtput, hbefore, hafter⟩ :=
      request_watched tame hr
    · refine ⟨hcarried.of_same hsame rfl same, [], ?_, ?_⟩
      · simpa [World.taking] using hsame
      · simp [hresult, Except.toOption]
    · refine ⟨hcarried.written honest houtput hbefore hafter hmore (hknown rfl) (hknown rfl), [d],
        hmore, ?_⟩
      simp [hresult, Except.toOption, houtput]
  cases ha with
  | unreadable _ => exact ⟨h, [], by simp [World.skip], rfl⟩
  | noRecords _ _ => exact ⟨h, [], by simp [World.skip], rfl⟩
  | noFields _ _ _ => exact ⟨h, [], by simp [World.skip], rfl⟩
  | unprepared _ hready =>
    obtain ⟨hcarried, hstate, -⟩ := h.preparePlots named hready
    exact ⟨hcarried, [], by simp [World.skip, hstate], rfl⟩
  | aborted _ hready hr hresult _ =>
    obtain ⟨hcarried, deeds, hstate, houtputs⟩ := request hready hr
    exact ⟨hcarried, deeds, hstate, by rw [houtputs, hresult]; rfl⟩
  | failed _ hready hr hresult _ =>
    obtain ⟨hcarried, deeds, hstate, houtputs⟩ := request hready hr
    exact ⟨hcarried, deeds, hstate, by rw [houtputs, hresult]; rfl⟩
  | written _ hready hr hresult =>
    obtain ⟨hcarried, deeds, hstate, houtputs⟩ := request hready hr
    exact ⟨hcarried, deeds, hstate, by rw [houtputs, hresult]; rfl⟩

theorem runs_carry {expected : List Expected} {o : Outcome (σ × List Deed)}
    (h : Carried settings initial w) (hr : Runs settings renderer.watched expected w o) :
    Carried settings initial o.world ∧
      o.world.state.2.map Deed.output = w.state.2.map Deed.output ++ o.written := by
  induction hr with
  | nil => exact ⟨h, by simp [Outcome.written]⟩
  | missing _ _ ih => exact ih h
  | @done e rest w verdict log next o _ ha _ ih =>
    obtain ⟨hnext, deeds, hstate, houtputs⟩ := attempts_carry tame named h (attempts_of_attempt ha)
    obtain ⟨hlast, hwritten⟩ := ih hnext
    refine ⟨hlast, ?_⟩
    rw [Outcome.world_after, hwritten, hstate, List.map_append, List.append_assoc, houtputs]
    cases verdict <;> rfl
  | aborted _ ha =>
    obtain ⟨hnext, deeds, hstate, houtputs⟩ := attempts_carry tame named h (attempts_of_attempt ha)
    refine ⟨hnext, ?_⟩
    rw [hstate, List.map_append, houtputs]
    rfl

end

def SkipReason.isEarly : SkipReason → Bool
  | missing | unreadable _ | noRecords | noFields => true
  | notRendered _ => false

/-- All that was dealt with was skipped before anything was made. -/
def Outcome.Early (o : Outcome σ) : Prop :=
  ∀ p ∈ o.processed, ∃ reason, p.verdict = .skipped reason ∧ reason.isEarly = true

section

variable {renderer : Renderer σ} {w : World σ}

theorem attempts_early {reason : SkipReason} {log : List Log.Message} {next : World σ}
    (early : reason.isEarly = true)
    (ha : Attempts settings renderer path w ⟨.ok (.skipped reason), log, next⟩) : next = w := by
  cases ha with
  | unreadable _ | noRecords _ _ | noFields _ _ _ => rfl
  | unprepared _ _ | failed _ _ _ _ _ => cases early

theorem runs_early {expected : List Expected} {o : Outcome σ}
    (hr : Runs settings renderer expected w o) (success : o.status = .success) (early : o.Early) :
    o.world = w := by
  induction hr with
  | nil => rfl
  | missing _ _ ih => exact ih success (List.forall_mem_cons.1 early).2
  | done _ ha _ ih =>
    obtain ⟨⟨reason, hreason, hearly⟩, hrest⟩ := List.forall_mem_cons.1 early
    cases hreason
    rw [Outcome.world_after, ih success hrest, attempts_early hearly (attempts_of_attempt ha)]
  | aborted _ _ => cases success

end

-- ---------------------------------------------------------------------------
-- Runs
-- ---------------------------------------------------------------------------

structure Frame (settings : Settings) (initial : Filesystem) (deeds : List Deed) (o : Outcome σ) :
    Prop where
  workdir : o.world.files.workdir = initial.workdir
  accounted : ∀ location, Accounted settings initial o.world.files o.written location
  written : o.written = deeds.map Deed.output
  images : ∀ output ∈ o.written, ∃ front d back, deeds = front ++ d :: back ∧
    d.output = output ∧ (∀ later ∈ back, later.output ≠ output) ∧
    o.world.files.lookup output = d.after.lookup output ∧
    (d.before.Same d.after ∨ ∃ bytes written, d.before.writeFile output bytes = .ok written ∧
      written.Same d.after ∧ o.world.files.lookup output = .ok (.file bytes))
  untouched : o.status = .noResultsDir ∨ o.status = .success ∧ o.Early → o.world.files = initial

theorem frame_of_runs {o : Outcome (σ × List Deed)} {expected : List Expected} {state : σ}
    (tame : renderer.Tame) (named : settings.plotsDir ≠ "")
    (hr : Runs settings renderer.watched expected ⟨initial, (state, []), false⟩ o) :
    Frame settings initial o.world.state.2 (o.mapState Prod.fst) := by
  obtain ⟨hcarried, hwritten⟩ := runs_carry tame named (.begin settings initial state) hr
  have hwritten : o.world.state.2.map Deed.output = o.written := by simpa using hwritten
  refine ⟨hcarried.keeps.workdir, fun location => ?_, hwritten.symm, fun output ho => ?_, ?_⟩
  · have haccounted := hcarried.accounted location
    rw [hwritten] at haccounted
    exact haccounted
  · have ho : output ∈ o.world.state.2.map Deed.output := hwritten ▸ ho
    obtain ⟨d, hd, rfl⟩ := List.mem_map.1 ho
    obtain ⟨front, last, back, hall, houtput, hback, hlook⟩ := hcarried.shown d hd
    refine ⟨front, last, back, hall, houtput, hback, hlook, ?_⟩
    have honest := hcarried.honest last (by simp [hall])
    rw [← houtput] at hlook ⊢
    refine honest.imp_right ?_
    rintro ⟨bytes, written, hwrite, same⟩
    refine ⟨bytes, written, hwrite, same, ?_⟩
    exact hlook.trans ((Filesystem.lookup_of_same same _).trans
      (Filesystem.lookup_of_writeFile hwrite))
  · rintro (hnone | ⟨hsuccess, hearly⟩)
    · obtain ⟨-, ⟨hs, -⟩ | ⟨hs, -⟩⟩ := runs_length hr
      · exact absurd (hnone.symm.trans hs) (by decide)
      · exact absurd (hnone.symm.trans hs) (by decide)
    · exact congrArg World.files (runs_early hr hsuccess hearly)

/-- A run changes nothing but what its frame says, unless one of its requests to
the renderer is broken off. -/
theorem run_frame (settings : Settings) (renderer : Renderer σ) (tame : renderer.Tame) (state : σ)
    (initial : Filesystem) :
    (∃ o, run settings renderer.watched (state, []) initial = .ok o ∧
      run settings renderer state initial = .ok (o.mapState Prod.fst) ∧
      Frame settings initial o.world.state.2 (o.mapState Prod.fst)) ∨
    ∃ overflow, run settings renderer state initial = .error overflow ∧
      RunBreaksOff settings renderer state initial overflow := by
  have through : Through Prod.fst renderer.watched renderer := through_noting renderer
  have hplain : run settings renderer state initial =
      (run settings renderer.watched (state, []) initial).map (Outcome.mapState Prod.fst) :=
    run_through through (state, []) initial
  cases there : initial.isDirectory settings.resultsDir with
  | false =>
    have hwatched : run settings renderer.watched (state, []) initial = _ := if_neg (by simp [there])
    refine .inl ⟨_, hwatched, by rw [hplain, hwatched]; rfl, ?_⟩
    exact ⟨rfl, fun _ => .inl rfl, rfl, fun _ ho => (nomatch ho), fun _ => rfl⟩
  | true =>
    have hwatched : run settings renderer.watched (state, []) initial = processAll settings
        renderer.watched (discover settings initial) ⟨initial, (state, []), false⟩ := if_pos there
    rw [hwatched] at hplain
    obtain ⟨o, ho, hruns⟩ | ⟨overflow, ho, -⟩ := processAll_cases settings renderer.watched
      (discover settings initial) ⟨initial, (state, []), false⟩
    · exact .inl ⟨o, hwatched.trans ho, by rw [hplain, ho]; rfl,
        frame_of_runs tame (plotsDir_ne_empty there) hruns⟩
    · have broken : run settings renderer state initial = .error overflow := by rw [hplain, ho]; rfl
      exact .inr ⟨overflow, broken, runBreaksOff_of_error broken⟩

theorem run_frame_four_files :
    let settings : Settings := { expectedFiles := ["a.csv", "b.csv", "a.csv", "c.csv"] }
    let initial := withResults [("a.csv", "time,id\n0,1\n"), ("b.csv", "time,iq\n0,1\n")]
    let script := Rendering.Script.ofOutcomes [.ok (), .error (.drawing "boom"), .ok ()]
    let renderer : Renderer Rendering.Script := .ready Rendering.Script.backend
    renderer.Tame ∧ ∃ o, run settings renderer.watched (script, []) initial = .ok o ∧
      run settings renderer script initial = .ok (o.mapState Prod.fst) ∧
      Frame settings initial o.world.state.2 (o.mapState Prod.fst) := by
  intro settings initial script renderer
  have tame : renderer.Tame := tame_script
  refine ⟨tame, ?_⟩
  obtain ⟨o, hwatched, hrun, hframe⟩ | ⟨_, -, _, _, _, _, -, -, -, _, _, -, -, hbroken⟩ :=
    run_frame settings renderer tame script initial
  · exact ⟨o, hwatched, hrun, hframe⟩
  · exact absurd hbroken render_script_ne_error

end Report

end DriveBench
