import DriveBench.Drive.Random
import Mathlib.Logic.Function.Iterate

/-!
# The generator run backwards

A step of the generator mixes words that it has already changed, and its shift
loses bits. Nothing of the state is lost for all that: the words can be told
apart again one after the other.
-/

namespace DriveBench.Generator

-- ---------------------------------------------------------------------------
-- Words
-- ---------------------------------------------------------------------------

theorem getLsbD_rotate {k : UInt64} (moved : 0 < k.toNat) (short : k.toNat < 64) (x : UInt64)
    {i : Nat} (hi : i < 64) :
    (rotate x k).toBitVec.getLsbD i = x.toBitVec.getLsbD ((i + 64 - k.toNat) % 64) := by
  have up : (k.toBitVec % 64).toNat = k.toNat := Nat.mod_eq_of_lt short
  have down : ((64 - k).toBitVec % 64).toNat = 64 - k.toNat := by
    have rest : (64 - k).toNat = 64 - k.toNat :=
      UInt64.toNat_sub_of_le _ _ (UInt64.le_iff_toNat_le.2 (Nat.le_of_lt short))
    show (64 - k).toNat % 64 = 64 - k.toNat
    omega
  rw [rotate, UInt64.toBitVec_or, UInt64.toBitVec_shiftLeft, UInt64.toBitVec_shiftRight,
    BitVec.getLsbD_or, BitVec.shiftLeft_eq', BitVec.ushiftRight_eq', up, down,
    BitVec.getLsbD_shiftLeft, BitVec.getLsbD_ushiftRight]
  obtain below | above := Nat.lt_or_ge i k.toNat
  · rw [show (i + 64 - k.toNat) % 64 = 64 - k.toNat + i by omega]
    simp [below]
  · rw [show (i + 64 - k.toNat) % 64 = i - k.toNat by omega,
      BitVec.getLsbD_of_ge _ (64 - k.toNat + i) (by omega)]
    simp [hi, Nat.not_lt.2 above]

theorem rotate_rotate {j k : UInt64} (hj : 0 < j.toNat) (hk : 0 < k.toNat)
    (turn : j.toNat + k.toNat = 64) (x : UInt64) : rotate (rotate x j) k = x := by
  apply UInt64.toBitVec_inj.1
  apply BitVec.eq_of_getLsbD_eq
  intro i hi
  rw [getLsbD_rotate hk (by omega) _ hi, getLsbD_rotate hj (by omega) _ (by omega)]
  congr 1
  omega

theorem xor_cancel_right (x y : UInt64) : x ^^^ y ^^^ y = x := by
  rw [UInt64.xor_assoc, UInt64.xor_self, UInt64.xor_zero]

theorem xor_cancel_left (x y : UInt64) : x ^^^ (x ^^^ y) = y := by
  rw [← UInt64.xor_assoc, UInt64.xor_self, UInt64.zero_xor]

theorem xor_cancel_middle (x y z : UInt64) : x ^^^ y ^^^ (y ^^^ z) = x ^^^ z := by
  rw [UInt64.xor_assoc, xor_cancel_left]

def blend (x : UInt64) : UInt64 := x ^^^ x <<< 17

def unblend (y : UInt64) : UInt64 := y ^^^ (y ^^^ (y ^^^ y <<< 17) <<< 17) <<< 17

theorem moved_away (x : UInt64) : x <<< 17 <<< 17 <<< 17 <<< 17 = 0 := by
  apply UInt64.toBitVec_inj.1
  simp

theorem unblend_blend (x : UInt64) : unblend (blend x) = x := by
  simp only [unblend, blend, UInt64.shiftLeft_xor, xor_cancel_middle, moved_away, UInt64.xor_zero,
    xor_cancel_right]

theorem blend_unblend (y : UInt64) : blend (unblend y) = y := by
  simp only [unblend, blend, UInt64.shiftLeft_xor, moved_away, UInt64.xor_zero, xor_cancel_right]

-- ---------------------------------------------------------------------------
-- States
-- ---------------------------------------------------------------------------

/-- The state before. -/
def retreat (g : Generator) : Generator :=
  let s₃ := rotate g.s₃ 19
  let s₀ := g.s₀ ^^^ s₃
  let s₁ := unblend (g.s₁ ^^^ g.s₂)
  ⟨s₀, s₁, s₁ ^^^ g.s₁ ^^^ s₀, s₃ ^^^ s₁⟩

theorem retreat_advance : Function.LeftInverse retreat advance := by
  rintro ⟨a, b, c, d⟩
  have turned : rotate (rotate (d ^^^ b) 45) 19 = d ^^^ b := rotate_rotate (by decide) (by decide) rfl _
  have mixed : b ^^^ (c ^^^ a) ^^^ (c ^^^ a ^^^ b <<< 17) = blend b := xor_cancel_middle _ _ _
  simp only [retreat, advance, turned, mixed, unblend_blend, xor_cancel_left, xor_cancel_right]

theorem advance_retreat : Function.RightInverse retreat advance := by
  rintro ⟨a, b, c, d⟩
  have turned : rotate (rotate d 19) 45 = d := rotate_rotate (by decide) (by decide) rfl _
  simp only [retreat, advance, turned, xor_cancel_right, xor_cancel_left]
  -- what is left is the word that was shifted
  generalize hx : unblend (b ^^^ c) = x
  have mixed : x ^^^ x <<< 17 = b ^^^ c := hx ▸ blend_unblend _
  have third : x ^^^ b ^^^ x <<< 17 = c := by
    rw [UInt64.xor_comm x, UInt64.xor_assoc, mixed, xor_cancel_left]
  rw [third]

theorem advanceBy_eq_iterate (k : Nat) : advanceBy k = advance^[k] := by
  induction k with
  | zero => rfl
  | succ k ih =>
    funext g
    rw [advanceBy, ih, Function.iterate_succ_apply]

def still : Generator := ⟨0, 0, 0, 0⟩

theorem advance_still : advance still = still := rfl

-- ---------------------------------------------------------------------------
-- Seeds
-- ---------------------------------------------------------------------------

/-- The factor of a seed sequence is odd, so it has an inverse. -/
theorem scatter_injective : Function.Injective scatter := by
  intro x y h
  have unit : (6364136223846793005 * 13877824140714322085 : UInt64) = 1 := by decide
  have product : x * 6364136223846793005 = y * 6364136223846793005 := (UInt64.add_left_inj 1).1 h
  calc x = x * 6364136223846793005 * 13877824140714322085 := by
        rw [UInt64.mul_assoc, unit, UInt64.mul_one]
    _ = y := by rw [product, UInt64.mul_assoc, unit, UInt64.mul_one]

theorem ofSeed_injective : Function.Injective ofSeed := by
  intro seed other h
  exact scatter_injective (congrArg s₀ h)

theorem ofSeed_ne_still (seed : UInt64) : ofSeed seed ≠ still := by
  intro h
  have first : scatter seed = 0 := congrArg s₀ h
  have second : scatter (scatter seed) = 0 := congrArg s₁ h
  rw [first] at second
  exact absurd second (by decide)

/-- Every state has exactly one state before it. So a generator that was filled
from a seed never stands still, and those of two seeds never meet. -/
theorem seeds_never_meet : Function.Bijective advance ∧ advance still = still ∧
    (∀ seed k, advanceBy k (ofSeed seed) ≠ still) ∧
    ∀ seed other k, advanceBy k (ofSeed seed) = advanceBy k (ofSeed other) ↔ seed = other := by
  have bijective : Function.Bijective advance :=
    ⟨retreat_advance.injective, advance_retreat.surjective⟩
  have apart (k : Nat) : Function.Injective (advanceBy k) :=
    advanceBy_eq_iterate k ▸ bijective.injective.iterate k
  refine ⟨bijective, advance_still, fun seed k h => ?_, fun seed other k => ?_⟩
  · have fixed : advanceBy k still = still := by
      rw [advanceBy_eq_iterate, Function.iterate_fixed advance_still]
    exact ofSeed_ne_still seed (apart k (h.trans fixed.symm))
  · exact ((apart k).comp ofSeed_injective).eq_iff

end DriveBench.Generator
