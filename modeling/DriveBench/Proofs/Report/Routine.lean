import DriveBench.Proofs.Report.Frame
import DriveBench.Proofs.Storage.Laying

/-!
# Runs of a backend with a routine

A backend keeps to a routine if it looks at nothing but the request. Each
planned request is then answered as it would have been right after the directory
of the images was made, and the files in the end are those with the images laid
into that directory.
-/

namespace DriveBench

namespace Rendering

/-- What to write for a request or why not, and what to say if the file cannot
be written. -/
structure Routine where
  draw : Request → Except Failure ByteArray
  excuse : Request → Fault → Failure

namespace Routine

inductive Treats (routine : Routine) (request : Request) (files : Filesystem) :
    Except Failure Unit → Filesystem → Prop
  | declined {failure : Failure} {after : Filesystem} : routine.draw request = .error failure →
      files.Same after → Treats routine request files (.error failure) after
  | refused {bytes : ByteArray} {fault : Fault} {after : Filesystem} :
      routine.draw request = .ok bytes → files.writeFile request.output bytes = .error fault →
      files.Same after → Treats routine request files (.error (routine.excuse request fault)) after
  | written {bytes : ByteArray} {written after : Filesystem} : routine.draw request = .ok bytes →
      files.writeFile request.output bytes = .ok written → written.Same after →
      Treats routine request files (.ok ()) after

def answer (routine : Routine) (files : Filesystem) (request : Request) : Except Failure Unit :=
  match routine.draw request with
  | .error failure => .error failure
  | .ok bytes => match files.writeFile request.output bytes with
    | .error fault => .error (routine.excuse request fault)
    | .ok _ => .ok ()

def backend (routine : Routine) : Backend Unit where
  name := "routine"
  render recording figure output _ files :=
    let request : Request := ⟨recording, figure, output⟩
    match routine.draw request with
    | .error failure => .ok ⟨.error failure, (), files⟩
    | .ok bytes => match files.writeFile output bytes with
      | .error fault => .ok ⟨.error (routine.excuse request fault), (), files⟩
      | .ok written => .ok ⟨.ok (), (), written⟩

def image? (routine : Routine) (exchange : Exchange) : Option (String × ByteArray) :=
  match exchange.answer, routine.draw exchange.request with
  | .ok (), .ok bytes => some (exchange.request.figure.title ++ ".png", bytes)
  | _, _ => none

def images (routine : Routine) (exchanges : List Exchange) : List (String × ByteArray) :=
  (exchanges.filterMap routine.image?).reverse

end Routine

/-- A backend that does with every request what the routine says. -/
def Backend.KeepsTo (backend : Backend σ) (routine : Routine) : Prop :=
  ∀ recording figure output state files, ∃ rendered,
    backend.render recording figure output state files = .ok rendered ∧
      routine.Treats ⟨recording, figure, output⟩ files rendered.result rendered.files

variable {σ : Type} {routine : Routine} {backend : Backend σ} {request : Request}
  {files after : Filesystem} {result : Except Failure Unit}

theorem Routine.Treats.answer (h : routine.Treats request files result after) :
    result = routine.answer files request := by
  unfold Routine.answer
  cases h with
  | declined hdraw _ => rw [hdraw]
  | refused hdraw hwrite _ => simp only [hdraw, hwrite]
  | written hdraw hwrite _ => simp only [hdraw, hwrite]

theorem Routine.images_concat (routine : Routine) (exchanges : List Exchange) (last : Exchange) :
    routine.images (exchanges ++ [last]) =
      (routine.image? last).toList ++ routine.images exchanges := by
  rw [images, List.filterMap_append, List.reverse_append, images]
  congr 1
  cases h : routine.image? last <;> simp [h]

theorem Routine.keepsTo_backend (routine : Routine) : routine.backend.KeepsTo routine := by
  intro recording figure output state files
  unfold Routine.backend
  dsimp only
  cases hdraw : routine.draw ⟨recording, figure, output⟩ with
  | error failure => exact ⟨_, rfl, .declined hdraw .refl⟩
  | ok bytes =>
    dsimp only
    cases hwrite : files.writeFile output bytes with
    | error fault => exact ⟨_, rfl, .refused hdraw hwrite .refl⟩
    | ok written => exact ⟨_, rfl, .written hdraw hwrite .refl⟩

theorem Backend.KeepsTo.tame (keeps : backend.KeepsTo routine) : backend.Tame where
  success {recording figure output state files state' files'} h := by
    obtain ⟨rendered, hrender, htreats⟩ := keeps recording figure output state files
    obtain rfl := Except.ok.inj (h.symm.trans hrender)
    cases htreats with
    | written _ hwrite same => exact .inr ⟨_, _, hwrite, same⟩
  failure {recording figure output state files failure state' files'} h := by
    obtain ⟨rendered, hrender, htreats⟩ := keeps recording figure output state files
    obtain rfl := Except.ok.inj (h.symm.trans hrender)
    cases htreats with
    | declined _ same | refused _ _ same => exact same

end Rendering

namespace Report

open Filesystem (Lays)
open Rendering (Backend Exchange Failure Rendered Request Routine)

def Settings.prepared (settings : Settings) (files : Filesystem) : Filesystem :=
  (files.makeDirectories settings.plotsDir).1

variable {σ : Type} {settings : Settings} {routine : Routine} {backend : Backend σ}
  {initial : Filesystem} {path : String} {w ready : World (σ × List Exchange)}

theorem request_of_plan {request : Request} (h : settings.plan initial path = .render request) :
    request.output = settings.outputPath path ∧ request.figure.title = Path.stem path := by
  unfold Settings.plan at h
  split at h
  · split at h
    · cases h
    · split at h
      · cases h
      · split at h
        · cases h
        · split at h
          · cases h
          · simp only [← Plan.render.inj h, and_self]
  · cases h

-- ---------------------------------------------------------------------------
-- Answers do not depend on the images
-- ---------------------------------------------------------------------------

theorem answer_of_lays {place : Location} {images : List (String × ByteArray)}
    {before after : Filesystem} {request : Request} (lays : Lays place images before after)
    (hl : before.locate settings.plotsDir = .ok place) (hd : before.get? place = some .directory)
    (output : request.output = settings.outputPath path) :
    routine.answer after request = routine.answer before request := by
  have refused {bytes fault} : after.writeFile request.output bytes = .error fault ↔
      before.writeFile request.output bytes = .error fault := by
    rw [output]
    exact lays.writeFile_error_iff hl hd (isPlainName_imageName path)
  unfold Routine.answer
  cases routine.draw request with
  | error failure => rfl
  | ok bytes =>
    dsimp only
    cases hbefore : before.writeFile request.output bytes with
    | error fault => rw [refused.2 hbefore]
    | ok written =>
      cases hafter : after.writeFile request.output bytes with
      | error fault =>
        rw [refused.1 hafter] at hbefore
        cases hbefore
      | ok written' => rfl

theorem lays_of_treats {place : Location} {images : List (String × ByteArray)}
    {before files after : Filesystem} {request : Request} {result : Except Failure Unit}
    (lays : Lays place images before files) (hl : before.locate settings.plotsDir = .ok place)
    (hd : before.get? place = some .directory) (output : request.output = settings.outputPath path)
    (title : request.figure.title = Path.stem path)
    (h : routine.Treats request files result after) :
    Lays place ((routine.image? ⟨request, result⟩).toList ++ images) before after := by
  cases h with
  | declined _ same | refused _ _ same => exact lays.of_same same
  | written hdraw hwrite same =>
    rw [output] at hwrite
    simp only [Routine.image?, hdraw, title, Option.toList_some, List.singleton_append]
    exact (lays.write (Filesystem.locate_of_keeps lays.keeps hl) (lays.directory_iff.2 hd)
      (isPlainName_imageName path) hwrite).of_same same

-- ---------------------------------------------------------------------------
-- What is carried along
-- ---------------------------------------------------------------------------

structure Furnished (settings : Settings) (routine : Routine) (initial : Filesystem)
    (w : World (σ × List Exchange)) : Prop where
  under : Underway settings initial w
  idle : w.plotsReady = false → w.state.2 = []
  answers : ∀ e ∈ w.state.2, e.answer = routine.answer (settings.prepared initial) e.request
  laid : w.plotsReady = true → ∃ place,
    (settings.prepared initial).locate settings.plotsDir = .ok place ∧
      (settings.prepared initial).get? place = some .directory ∧
      Lays place (routine.images w.state.2) (settings.prepared initial) w.files

theorem Furnished.begin (settings : Settings) (routine : Routine) (initial : Filesystem) (state : σ) :
    Furnished settings routine initial ⟨initial, (state, []), false⟩ where
  under := .begin settings initial (state, [])
  idle _ := rfl
  answers _ he := nomatch he
  laid h := nomatch h

theorem Furnished.preparePlots {made : Except Fault Unit} (h : Furnished settings routine initial w)
    (there : initial.isDirectory settings.resultsDir = true)
    (plain : IsPlainName settings.plotsSubdir) (hready : w.preparePlots settings = (ready, made)) :
    Furnished settings routine initial ready ∧ (made = .ok () → ready.plotsReady = true) := by
  obtain ⟨-, hunder, hstate, hknown⟩ := h.under.preparePlots there plain hready
  refine ⟨⟨hunder, fun hidle => ?_, hstate ▸ h.answers, fun hlaid => ?_⟩, hknown⟩
  · cases prepares_of_preparePlots hready with
    | known known => exact h.idle hidle
    | made unknown _ | refused unknown _ => exact h.idle unknown
  · cases prepares_of_preparePlots hready with
    | known known => exact h.laid known
    | made unknown hmake =>
      rw [h.under.unprepared unknown] at hmake
      obtain rfl : settings.prepared initial = _ := congrArg Prod.fst hmake
      have hdir := Filesystem.isDirectory_of_makeDirectories (plotsDir_ne_empty there) hmake
      obtain ⟨place, hl, hd⟩ := Filesystem.lookup_ok.1 (Filesystem.isDirectory_iff.1 hdir)
      refine ⟨place, hl, hd, ?_⟩
      rw [h.idle unknown]
      exact .nil
    | refused unknown _ => cases hlaid

theorem Furnished.request {recording : Recording} {rendered : Rendered (σ × List Exchange)}
    (keeps : backend.KeepsTo routine) (h : Furnished settings routine initial ready)
    (known : ready.plotsReady = true) (title : recording.title = Path.stem path)
    (hr : settings.request (.ready backend.traced) path recording ready = .ok rendered) :
    Furnished settings routine initial (ready.taking rendered) ∧
      (ready.taking rendered).state.2 ≠ [] := by
  obtain ⟨place, hl, hd, lays⟩ := h.laid known
  have hkeeps := keeps_request (tame_traced keeps.tame) hr
  obtain ⟨own, hown, rfl⟩ := request_traced hr
  -- an output that is only a name is compared at once
  generalize houtput : settings.outputPath path = output at *
  obtain ⟨again, hagain, htreats⟩ := keeps recording (settings.figureOf recording) output
    ready.state.1 ready.files
  obtain rfl := Except.ok.inj (hown.symm.trans hagain)
  have hanswer := htreats.answer.trans (answer_of_lays lays hl hd houtput.symm)
  refine ⟨⟨⟨h.under.keeps.trans hkeeps, fun hf => ?_, h.under.prepared⟩, fun hf => ?_, ?_,
    fun _ => ⟨place, hl, hd, ?_⟩⟩, by simp [World.taking]⟩
  · rw [World.taking, known] at hf
    cases hf
  · rw [World.taking, known] at hf
    cases hf
  · exact List.forall_mem_append.2 ⟨h.answers, by simpa using hanswer⟩
  · simp only [World.taking, Routine.images_concat]
    exact lays_of_treats lays hl hd houtput.symm title htreats

/-- Between files it is known that the directory of the images is there only
if a request was made. -/
structure Settled (settings : Settings) (routine : Routine) (initial : Filesystem)
    (w : World (σ × List Exchange)) : Prop extends Furnished settings routine initial w where
  busy : w.plotsReady = true → w.state.2 ≠ []

theorem Settled.begin (settings : Settings) (routine : Routine) (initial : Filesystem) (state : σ) :
    Settled settings routine initial ⟨initial, (state, []), false⟩ where
  toFurnished := .begin settings routine initial state
  busy h := nomatch h

section

variable (there : initial.isDirectory settings.resultsDir = true)
  (plain : IsPlainName settings.plotsSubdir) (keeps : backend.KeepsTo routine)
include there plain keeps

theorem attempts_settle {a : Attempt (σ × List Exchange)}
    (h : Settled settings routine initial w)
    (ha : Attempts settings (.ready backend.traced) path w a) :
    Settled settings routine initial a.world := by
  have request {recording ready rendered} (hp : Plottable settings w.files path recording)
      (hready : w.preparePlots settings = (ready, .ok ()))
      (hr : settings.request (.ready backend.traced) path recording ready = .ok rendered) :
      Settled settings routine initial (ready.taking rendered) := by
    obtain ⟨hfurnished, hknown⟩ := h.toFurnished.preparePlots there plain hready
    obtain ⟨hafter, hbusy⟩ :=
      hfurnished.request keeps (hknown rfl) (Recording.title_of_load hp.loaded) hr
    exact ⟨hafter, fun _ => hbusy⟩
  cases ha with
  | unreadable _ | noRecords _ _ | noFields _ _ _ => exact h
  | unprepared _ hready =>
    obtain ⟨hfurnished, -⟩ := h.toFurnished.preparePlots there plain hready
    refine ⟨hfurnished, fun hknown => ?_⟩
    cases prepares_of_preparePlots hready with
    | refused _ _ => cases hknown
  | aborted hp hready hr _ _ | failed hp hready hr _ _ | written hp hready hr _ =>
    exact request hp hready hr

theorem runs_settle {expected : List Expected} {o : Outcome (σ × List Exchange)}
    (h : Settled settings routine initial w)
    (hr : Runs settings (.ready backend.traced) expected w o) :
    Settled settings routine initial o.world := by
  induction hr with
  | nil => exact h
  | missing _ _ ih => exact ih h
  | done _ ha _ ih => exact ih (attempts_settle there plain keeps h (attempts_of_attempt ha))
  | aborted _ ha => exact attempts_settle there plain keeps h (attempts_of_attempt ha)

end

-- ---------------------------------------------------------------------------
-- Runs
-- ---------------------------------------------------------------------------

structure IsTableName (name : String) : Prop where
  slash : '/' ∉ name.toList
  table : ∃ base, name = base ++ ".csv"

theorem isTableName_iff {name : String} :
    IsTableName name ↔ '/' ∉ name.toList ∧ tableSuffix <:+ name.toList := by
  constructor
  · rintro ⟨slash, base, rfl⟩
    exact ⟨slash, base.toList, by simp⟩
  · rintro ⟨slash, front, h⟩
    exact ⟨slash, String.ofList front, String.toList_inj.1 (by simp [← h])⟩

instance (name : String) : Decidable (IsTableName name) := decidable_of_iff _ isTableName_iff.symm

theorem IsTableName.plain {name : String} (h : IsTableName name) : IsPlainName name := by
  obtain ⟨base, rfl⟩ := h.table
  have ends : ∀ short : String, short.toList.length < 4 → base ++ ".csv" ≠ short := by
    rintro short hshort rfl
    have hlength : ".csv".toList.length = 4 := rfl
    rw [String.toList_append, List.length_append] at hshort
    omega
  exact ⟨h.slash, ends "" (by decide), ends "." (by decide), ends ".." (by decide)⟩

/-- The outcome of a run of a backend with a routine. -/
structure Told (settings : Settings) (routine : Routine) (initial : Filesystem)
    (exchanges : List Exchange) (o : Outcome σ) : Prop where
  follows : Follows (settings.plans initial) exchanges o.status o.processed
  answers : ∀ e ∈ exchanges, e.answer = routine.answer (settings.prepared initial) e.request
  keeps : initial.Keeps (Location.EndsIn tableSuffix) o.world.files
  unprepared : exchanges = [] → o.world.files = initial
  prepared : exchanges ≠ [] → (initial.makeDirectories settings.plotsDir).2 = .ok () ∧
    ∃ place, (settings.prepared initial).locate settings.plotsDir = .ok place ∧
      (settings.prepared initial).get? place = some .directory ∧
      Lays place (routine.images exchanges) (settings.prepared initial) o.world.files

theorem exists_told (routine : Routine) (names : ∀ name ∈ settings.expectedFiles, IsTableName name)
    (plain : IsPlainName settings.plotsSubdir) (keeps : backend.KeepsTo routine)
    (there : initial.isDirectory settings.resultsDir = true) (state : σ) :
    ∃ o exchanges, run settings (.ready backend) state initial = .ok o ∧
      Told settings routine initial exchanges o := by
  have looked : ∀ e ∈ discover settings initial, e.found = initial.isFile e.path ∧
      ∃ front, e.path.toList = front ++ tableSuffix := by
    intro e he
    obtain ⟨name, hname, rfl⟩ := List.mem_map.1 he
    obtain ⟨base, rfl⟩ := (names name hname).table
    exact ⟨rfl, inputPath_toList settings base⟩
  have hplans : (discover settings initial).map (fun e => (e.path, settings.plan initial e.path)) =
      settings.plans initial := by
    simp [discover, Settings.plans, Function.comp_def]
  rw [run_untraced backend state []]
  obtain ⟨gone, -⟩ | ⟨-, ⟨o, ho, hruns⟩ | ⟨overflow, -, hbreaks⟩⟩ :=
    run_cases settings (.ready backend.traced) (state, []) initial
  · cases there.symm.trans gone
  · obtain ⟨exchanges, hstate, hfollows⟩ := runs_follow there plain keeps.tame
      (.begin settings initial (state, [])) looked hruns
    obtain rfl : o.world.state.2 = exchanges := by simpa using hstate
    rw [hplans] at hfollows
    have settled := runs_settle there plain keeps (.begin settings routine initial state) hruns
    -- the directory is known to be there if and only if a request was made
    refine ⟨o.untraced, o.world.state.2, by rw [ho]; rfl, hfollows, settled.answers,
      settled.under.keeps, fun hnone => ?_, fun hsome => ?_⟩
    · cases hready : o.world.plotsReady with
      | false => exact settled.under.unprepared hready
      | true => exact absurd hnone (settled.busy hready)
    · cases hready : o.world.plotsReady with
      | false => exact absurd (settled.idle hready) hsome
      | true => exact ⟨settled.under.prepared hready, settled.laid hready⟩
  · obtain ⟨e, -, request, -, state', files, hbroken⟩ := breaks_planned there plain keeps.tame
      (.begin settings initial (state, [])) looked hbreaks
    obtain ⟨rendered, hrender, -⟩ := keeps request.recording request.figure request.output state' files
    rw [hbroken] at hrender
    cases hrender

end Report

end DriveBench
