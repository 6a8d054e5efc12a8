import DriveBench.Numeral.Binary64

/-!
# The motor

A small synchronous motor with surface magnets, in coordinates that turn with
its rotor: current and voltage have a part `d` along the magnets and a part `q`
across them.
-/

namespace DriveBench

/-- One sample of the motor, in the order of a recording's columns. -/
structure MotorState where
  time : Float := 0
  id : Float := 0
  iq : Float := 0
  vd : Float := 0
  vq : Float := 0
  thetaE : Float := 0
  omegaE : Float := 0
  omegaM : Float := 0
  torque : Float := 0

namespace MotorState

def columns : List String :=
  ["time", "id", "iq", "vd", "vq", "theta_e", "omega_e", "omega_m", "torque"]

def values (m : MotorState) : List Float :=
  [m.time, m.id, m.iq, m.vd, m.vq, m.thetaE, m.omegaE, m.omegaM, m.torque]

def ofValues (values : List Float) : MotorState :=
  let value (i : Nat) := values[i]?.getD 0
  ⟨value 0, value 1, value 2, value 3, value 4, value 5, value 6, value 7, value 8⟩

end MotorState

namespace Motor

def polePairs : Float := 7
def fluxLinkage : Float := 0.0035
def resistance : Float := 0.05
def inductance : Float := 20e-6
def inertia : Float := 1e-4

def timeStep : Float := 1e-4

def fullTurn : Float := 2 * Binary64.pi

/-- One step under two currents and a load. Speeds come before voltages, which
depend on them; the angle is kept within a turn. -/
def step (m : MotorState) (id iq load : Float) : MotorState :=
  let torque := 1.5 * polePairs * fluxLinkage * iq
  let omegaM := m.omegaM + (torque - load) / inertia * timeStep
  let omegaE := omegaM * polePairs
  let did := (id - m.id) / timeStep
  let diq := (iq - m.iq) / timeStep
  { time := m.time + timeStep
    id, iq
    vd := resistance * id + inductance * did - omegaE * inductance * iq
    vq := resistance * iq + inductance * diq + omegaE * (inductance * id + fluxLinkage)
    thetaE := Binary64.wrapInto fullTurn (m.thetaE + omegaE * timeStep)
    omegaE, omegaM, torque }

end Motor

end DriveBench
