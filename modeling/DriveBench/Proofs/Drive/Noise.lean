import DriveBench.Drive.Recorder
import DriveBench.Proofs.Drive.Reversal

/-!
# Noise

A step of an experiment takes four words from the generator, whatever its
currents are. So an experiment gives what its controller makes of a noise that
was there beforehand, and experiments that share a generator do not disturb each
other's noise.
-/

namespace DriveBench

variable {σ : Type}

-- ---------------------------------------------------------------------------
-- Words
-- ---------------------------------------------------------------------------

namespace Generator

theorem advanceBy_add (m n : Nat) (g : Generator) :
    advanceBy (m + n) g = advanceBy m (advanceBy n g) := by
  simp only [advanceBy_eq_iterate, Function.iterate_add_apply]

def noisePair (g : Generator) : Float × Float :=
  ((g.normal 0 Experiment.noise).1, ((g.advanceBy 2).normal 0 Experiment.noise).1)

def noiseAt (g : Generator) (k : Nat) : Float × Float := noisePair (g.advanceBy (4 * k))

def noises (n : Nat) (g : Generator) : List (Float × Float) := (List.range n).map g.noiseAt

theorem noiseAt_advanceBy (g : Generator) (j k : Nat) :
    (g.advanceBy (4 * j)).noiseAt k = g.noiseAt (j + k) := by
  rw [noiseAt, noiseAt, ← advanceBy_add, ← Nat.mul_add, Nat.add_comm k j]

@[simp] theorem length_noises (n : Nat) (g : Generator) : (noises n g).length = n := by simp [noises]

theorem noises_succ (n : Nat) (g : Generator) :
    noises (n + 1) g = g.noisePair :: noises n (g.advanceBy 4) := by
  have later : (g.advanceBy 4).noiseAt = g.noiseAt ∘ Nat.succ := by
    funext k
    rw [Function.comp_apply, Nat.succ_eq_one_add]
    exact noiseAt_advanceBy g 1 k
  rw [noises, List.range_succ_eq_map, List.map_cons, List.map_map, ← later]
  rfl

end Generator

open Generator (noises)

-- ---------------------------------------------------------------------------
-- One experiment
-- ---------------------------------------------------------------------------

namespace Experiment

def trailUnder (react : σ → MotorState → Demand × σ) :
    List (Float × Float) → σ → MotorState → List MotorState
  | [], _, _ => []
  | (dNoise, qNoise) :: rest, s, m =>
    let (demand, s) := react s m
    let m := Motor.step m (demand.id + dNoise) (demand.iq + qNoise) demand.load
    m :: trailUnder react rest s m

theorem length_trailUnder (react : σ → MotorState → Demand × σ) (noise : List (Float × Float))
    (s : σ) (m : MotorState) : (trailUnder react noise s m).length = noise.length := by
  induction noise generalizing s m with
  | nil => rfl
  | cons pair rest ih => exact congrArg (· + 1) (ih _ _)

/-- The noise is all that a run has from its generator, which it moves on by four
words a step. -/
theorem trail_eq (react : σ → MotorState → Demand × σ) (n : Nat) (s : σ) (m : MotorState)
    (g : Generator) :
    trail react n s m g = (trailUnder react (noises n g) s m, g.advanceBy (4 * n)) := by
  induction n generalizing s m g with
  | zero => rfl
  | succ n ih =>
    let demand := (react s m).1
    let next := Motor.step m (demand.id + g.noisePair.1) (demand.iq + g.noisePair.2) demand.load
    have rest := ih (react s m).2 next (g.advanceBy 4)
    rw [Generator.noises_succ, Nat.mul_succ, Generator.advanceBy_add]
    exact congrArg (fun run => (next :: run.1, run.2)) rest

end Experiment

/-- The states of an experiment under a given noise, with the one it begins with.
No generator is involved. -/
def Controller.under (controller : Controller σ) (noise : List (Float × Float)) : List MotorState :=
  {} :: Experiment.trailUnder controller.react noise controller.start {}

theorem Controller.length_under (controller : Controller σ) (noise : List (Float × Float)) :
    (controller.under noise).length = noise.length + 1 :=
  congrArg (· + 1) (Experiment.length_trailUnder _ _ _ _)

namespace Experiment

theorem simulate_eq (n : Nat) (controller : Controller σ) (g : Generator) :
    simulate n controller g = (controller.under (noises n g), g.advanceBy (4 * n)) := by
  rw [simulate, trail_eq]
  rfl

def under : Experiment → List (Float × Float) → List MotorState
  | .speedStep => Controller.speedStep.under
  | .torqueStep => Controller.torqueStep.under
  | .injection => Controller.injection.under

theorem run_eq (experiment : Experiment) (g : Generator) :
    experiment.run g = (experiment.under (noises stepCount g), g.advanceBy (4 * stepCount)) := by
  cases experiment <;> simp only [run, under, simulate_eq]

-- ---------------------------------------------------------------------------
-- Experiments that share a generator
-- ---------------------------------------------------------------------------

def runAll : List Experiment → Generator → List (List MotorState) × Generator
  | [], g => ([], g)
  | experiment :: rest, g =>
    let (states, g) := experiment.run g
    let (more, g) := runAll rest g
    (states :: more, g)

def noisesOf (g : Generator) (j : Nat) : List (Float × Float) :=
  (List.range stepCount).map fun k => g.noiseAt (stepCount * j + k)

theorem noisesOf_zero (g : Generator) : noisesOf g 0 = noises stepCount g := by
  simp only [noisesOf, noises, Nat.mul_zero, Nat.zero_add]

theorem noisesOf_advanceBy (g : Generator) (j : Nat) :
    noisesOf (g.advanceBy (4 * stepCount)) j = noisesOf g (j + 1) := by
  refine List.map_congr_left fun k _ => ?_
  rw [Generator.noiseAt_advanceBy]
  congr 1
  rw [Nat.mul_succ, Nat.add_right_comm, Nat.add_comm stepCount]

theorem runAll_eq (experiments : List Experiment) (g : Generator) :
    runAll experiments g = (experiments.mapIdx fun j experiment => experiment.under (noisesOf g j),
      g.advanceBy (4 * stepCount * experiments.length)) := by
  induction experiments generalizing g with
  | nil => rfl
  | cons experiment rest ih =>
    simp only [runAll, run_eq, ih, noisesOf_zero, noisesOf_advanceBy, List.mapIdx_cons,
      List.length_cons, Nat.mul_succ, Generator.advanceBy_add]

end Experiment

open Experiment (noisesOf runAll simulate stepCount under)

-- ---------------------------------------------------------------------------
-- Recordings
-- ---------------------------------------------------------------------------

namespace Recorder

def recordThen (directory : String) (experiment : Experiment) (states : List MotorState)
    (next : Filesystem → String → Session) (files : Filesystem) (output : String) : Session :=
  let path := Path.join directory experiment.fileName
  match record files path states with
  | .error failure => ⟨files, output, some failure⟩
  | .ok files => next files (output ++ notice states path)

/-- States that are there beforehand, recorded up to the first that cannot be. -/
def recordStates (directory : String) :
    List (Experiment × List MotorState) → Filesystem → String → Session
  | [] => fun files output => ⟨files, output, none⟩
  | (experiment, states) :: rest =>
    recordThen directory experiment states (recordStates directory rest)

theorem recordAll_cons (directory : String) (experiment : Experiment) (rest : List Experiment)
    (g : Generator) : recordAll directory (experiment :: rest) g =
      recordThen directory experiment (experiment.run g).1
        (recordAll directory rest (experiment.run g).2) := by
  rfl

theorem recordAll_eq (directory : String) (experiments : List Experiment) (g : Generator) :
    recordAll directory experiments g =
      recordStates directory (experiments.zip (runAll experiments g).1) := by
  induction experiments generalizing g with
  | nil => rfl
  | cons experiment rest ih =>
    rw [recordAll_cons, ih]
    simp only [runAll, List.zip_cons_cons, recordStates]

end Recorder

/-- An experiment of `n` steps takes `4 * n` words from its generator, and its noise
from nothing else, whatever its controller is. So experiments that share a
generator have each the noise of its place among them, whichever they are, and
are recorded under that. -/
theorem noise_undisturbed :
    (∀ (σ : Type) (controller : Controller σ) (n : Nat) (g : Generator),
      (simulate n controller g).1.length = n + 1 ∧
      (simulate n controller g).1 = controller.under (noises n g) ∧
      (simulate n controller g).2 = g.advanceBy (4 * n)) ∧
    ∀ (seed : UInt64) (experiments : List Experiment),
      let g := Generator.ofSeed seed
      let runs := experiments.mapIdx fun j experiment => under experiment (noisesOf g j)
      runAll experiments g = (runs, g.advanceBy (4 * stepCount * experiments.length)) ∧
      ∀ directory, Recorder.recordAll directory experiments g =
        Recorder.recordStates directory (experiments.zip runs) := by
  constructor
  · intro σ controller n g
    rw [Experiment.simulate_eq, Controller.length_under, Generator.length_noises]
    exact ⟨rfl, rfl, rfl⟩
  · intro seed experiments g runs
    have all : runAll experiments g = (runs, _) := Experiment.runAll_eq experiments g
    refine ⟨all, fun directory => ?_⟩
    rw [Recorder.recordAll_eq, all]

end DriveBench
