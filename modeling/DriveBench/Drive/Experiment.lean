import DriveBench.Drive.Motor
import DriveBench.Drive.Random

/-!
# Experiments

An experiment runs the motor from standstill under a controller, which sees the
state and answers two currents and a load. Both currents get some noise, `id`
first.
-/

namespace DriveBench

structure Demand where
  id : Float
  iq : Float
  load : Float

structure Controller (σ : Type) where
  start : σ
  react : σ → MotorState → Demand × σ

namespace Experiment

def duration : Float := 0.2

def stepAt : Float := 0.05

def stepCount : Nat := 2000

/-- The steps take the whole time. -/
theorem duration_eq : (duration / Motor.timeStep == Float.ofNat stepCount) = true := by
  decide +kernel

def noise : Float := 0.02

/-- The states after `n` steps from a state, and the generator after them. -/
def trail (react : σ → MotorState → Demand × σ) :
    Nat → σ → MotorState → Generator → List MotorState × Generator
  | 0, _, _, g => ([], g)
  | n + 1, s, m, g =>
    let (demand, s) := react s m
    let (dNoise, g) := g.normal 0 noise
    let (qNoise, g) := g.normal 0 noise
    let m := Motor.step m (demand.id + dNoise) (demand.iq + qNoise) demand.load
    let (states, g) := trail react n s m g
    (m :: states, g)

def simulate (n : Nat) (controller : Controller σ) (g : Generator) : List MotorState × Generator :=
  let (states, g) := trail controller.react n controller.start {} g
  ({} :: states, g)

end Experiment

namespace Controller

/-- The value nearest to `x` that is neither below `low` nor above `high`. -/
def clamp (low high x : Float) : Float := if x < low then low else if high < x then high else x

def reference (m : MotorState) (value : Float) : Float := if Experiment.stepAt ≤ m.time then value else 0

/-- A loop on the speed, which steps to 300 rad/s. Its state is the integral of
the error. -/
def speedStep : Controller Float where
  start := 0
  react integral m :=
    let error := reference m 300 - m.omegaM
    let integral := integral + error * Motor.timeStep
    (⟨0, clamp (-20) 20 (0.05 * error + 2 * integral), 0.002⟩, integral)

/-- A current that steps to 8 A with a delay of a millisecond. Its state is the
current. -/
def torqueStep : Controller Float where
  start := 0
  react iq m :=
    let iq := iq + (reference m 8 - iq) * Motor.timeStep / 1e-3
    (⟨0, iq, 0.01 + 1e-4 * m.omegaM⟩, iq)

def injection : Controller Unit where
  start := ()
  react _ m :=
    let phase := 2 * Binary64.pi * 1000 * m.time
    (⟨0.5 * phase.sin, 0.3 * (phase + 2 * m.thetaE).cos, 0⟩, ())

end Controller

inductive Experiment
  | speedStep
  | torqueStep
  | injection
  deriving DecidableEq, Repr

namespace Experiment

def run : Experiment → Generator → List MotorState × Generator
  | .speedStep => simulate stepCount Controller.speedStep
  | .torqueStep => simulate stepCount Controller.torqueStep
  | .injection => simulate stepCount Controller.injection

def fileName : Experiment → String
  | .speedStep => "speed_step_test.csv"
  | .torqueStep => "torque_step_test.csv"
  | .injection => "hfi_test.csv"

end Experiment

end DriveBench
