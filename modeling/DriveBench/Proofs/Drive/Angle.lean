import DriveBench.Proofs.Drive.Noise
import DriveBench.Proofs.Numeral.Wrapping

/-!
# The angle of the rotor

A step keeps the angle within a turn: it is the double nearest to what the angle
that was reached leaves after whole turns. Forwards that is less than a turn;
backwards it may round to the turn itself.
-/

namespace DriveBench

open Binary64 (IsNearest residue rounded value)

variable {x : Float}

-- ---------------------------------------------------------------------------
-- Steps
-- ---------------------------------------------------------------------------

namespace Motor

theorem value_fullTurn : value fullTurn = (7074237752028440 : ℕ) * 2 ^ (-50 : ℤ) := by decide +kernel

theorem isFinite_fullTurn : fullTurn.isFinite = true := by decide +kernel

theorem fullTurn_pos : 0 < value fullTurn := by decide +kernel

/-- The angle that a step reaches, before it is kept within a turn. -/
def reached (m next : MotorState) : Float := m.thetaE + next.omegaE * timeStep

/-- An angle within a turn, and how it comes from the one that was reached. -/
structure IsWrapped (x angle : Float) : Prop where
  nonneg : 0 ≤ angle
  le_turn : angle ≤ fullTurn
  nearest : IsNearest angle (residue (value fullTurn) (value x))
  lt_turn_iff : angle < fullTurn ↔
    residue (value fullTurn) (value x) < value fullTurn - 2 ^ (-51 : ℤ)
  forward : 0 ≤ x → angle < fullTurn

theorem rounded_lt_turn_iff {q : ℚ} :
    rounded q < value fullTurn ↔ q < value fullTurn - 2 ^ (-51 : ℤ) := by
  have half : ((7074237752028440 : ℕ) - 1 / 2 : ℚ) * 2 ^ (-50 : ℤ) =
      (7074237752028440 : ℕ) * 2 ^ (-50 : ℤ) - 2 ^ (-51 : ℤ) := by norm_num
  rw [value_fullTurn, ← half]
  exact Binary64.rounded_lt_iff (by decide) (by decide) (by decide) (by decide) (by decide)

theorem isWrapped_wrapInto (hx : x.isFinite = true) : IsWrapped x (Binary64.wrapInto fullTurn x) := by
  have turn := Binary64.isNaN_of_isFinite isFinite_fullTurn
  have hresidue := Binary64.residue_nonneg fullTurn_pos (value x)
  have hbelow := Binary64.residue_lt fullTurn_pos (value x)
  have nearest := Binary64.isNearest_wrapInto hx isFinite_fullTurn fullTurn_pos
  refine ⟨nearest.zero_le hresidue, nearest.le (Binary64.isNearest_value turn) hbelow.le, nearest, ?_,
    fun hforward => ?_⟩
  · rw [Binary64.lt_iff, nearest.value_eq, rounded_lt_turn_iff]
    exact ⟨fun h => h.2.2, fun h => ⟨nearest.isNaN, turn, h⟩⟩
  · obtain ⟨number, hvalue⟩ := Binary64.value_wrapInto_of_nonneg hx isFinite_fullTurn fullTurn_pos
      (Binary64.zero_le_iff.1 hforward).2
    exact Binary64.lt_iff.2 ⟨number, turn, hvalue ▸ hbelow⟩

-- ---------------------------------------------------------------------------
-- Runs
-- ---------------------------------------------------------------------------

def Follows (m next : MotorState) : Prop := ∃ id iq load, next = step m id iq load

theorem Follows.isWrapped {m next : MotorState} (h : Follows m next)
    (finite : (reached m next).isFinite = true) : IsWrapped (reached m next) next.thetaE := by
  obtain ⟨id, iq, load, rfl⟩ := h
  exact isWrapped_wrapInto finite

theorem Follows.finite_reached {m next : MotorState} (h : Follows m next)
    (finite : next.thetaE.isFinite = true) : (reached m next).isFinite = true := by
  obtain ⟨id, iq, load, rfl⟩ := h
  exact Binary64.isFinite_of_wrapInto finite

end Motor

open Motor (Follows IsWrapped fullTurn reached step)

theorem Experiment.isChain_trailUnder (react : σ → MotorState → Demand × σ)
    (noise : List (Float × Float)) (s : σ) (m : MotorState) :
    (m :: trailUnder react noise s m).IsChain Follows := by
  induction noise generalizing s m with
  | nil => exact .singleton m
  | cons pair rest ih => exact .cons_cons ⟨_, _, _, rfl⟩ (ih _ _)

theorem Experiment.isChain_simulate (n : Nat) (controller : Controller σ) (g : Generator) :
    (simulate n controller g).1.IsChain Follows := by
  rw [simulate_eq]
  exact isChain_trailUnder _ _ _ _

/-- A step keeps a finite angle within a turn. So in a run of steps, and every
experiment is one, each angle after the first is within a turn if it is finite. -/
theorem angle_wrapped :
    (∀ (m : MotorState) (id iq load : Float), (reached m (step m id iq load)).isFinite = true →
      IsWrapped (reached m (step m id iq load)) (step m id iq load).thetaE) ∧
    (∀ states : List MotorState, states.IsChain Follows →
      ∀ (i : Nat) (h : i + 1 < states.length), states[i + 1].thetaE.isFinite = true →
        IsWrapped (reached states[i] states[i + 1]) states[i + 1].thetaE) ∧
    ∀ (σ : Type) (n : Nat) (controller : Controller σ) (g : Generator),
      (Experiment.simulate n controller g).1.IsChain Follows := by
  refine ⟨fun m id iq load => Follows.isWrapped ⟨id, iq, load, rfl⟩, fun states chain i h finite => ?_,
    fun σ => Experiment.isChain_simulate⟩
  have follows : Follows states[i] states[i + 1] := List.isChain_iff_getElem.1 chain i h
  exact follows.isWrapped (follows.finite_reached finite)

theorem angle_wrapped_backwards :
    let first := step {} 0 (-1e-20) 0
    let second := step first 0 (-3) 0
    let states : List MotorState := [{}, first, second]
    (reached {} first).isFinite = true ∧ IsWrapped (reached {} first) first.thetaE ∧
      states.IsChain Follows ∧ second.thetaE.isFinite = true ∧
      IsWrapped (reached first second) second.thetaE := by
  intro first second states
  have finite : (reached {} first).isFinite = true := by decide +kernel
  have chain : states.IsChain Follows :=
    .cons_cons ⟨_, _, _, rfl⟩ (.cons_cons ⟨_, _, _, rfl⟩ (.singleton _))
  have finite' : second.thetaE.isFinite = true := by decide +kernel
  exact ⟨finite, angle_wrapped.1 {} 0 (-1e-20) 0 finite, chain, finite',
    angle_wrapped.2.1 states chain 1 (by decide) finite'⟩

/-- A step back by less than can be seen ends at a full turn. -/
theorem angle_of_full_turn :
    let next := step {} 0 (-1e-20) 0
    (reached {} next).isFinite = true ∧ ¬ next.thetaE < fullTurn ∧ next.thetaE = fullTurn := by
  decide +kernel

end DriveBench
