import DriveBench.Proofs.Numeral.Value

/-!
# The rounding of a mantissa

A mantissa is shifted right until its exponent is the one of the grid, and two
bits keep what the rounding needs to know of the digits that are shifted out.
-/

namespace DriveBench.Binary64

open Float.Model (UnpackedFloat Format totalExponent)
open Float.Model.UnpackedFloat

variable {x y : Float} {u v : UnpackedFloat} {em : ExtendedMantissa} {t : ℚ}

-- ---------------------------------------------------------------------------
-- Mantissas
-- ---------------------------------------------------------------------------

/-- What the two bits say of a number behind its whole part. -/
def Extends (em : ExtendedMantissa) (t : ℚ) : Prop :=
  match em.roundBit, em.stickyBit with
  | false, false => t = em.mantissa
  | false, true => em.mantissa < t ∧ t < em.mantissa + 1 / 2
  | true, false => t = em.mantissa + 1 / 2
  | true, true => em.mantissa + 1 / 2 < t ∧ t < em.mantissa + 1

theorem Extends.floor (h : Extends em t) : ⌊t⌋ = em.mantissa := by
  rw [Int.floor_eq_iff]
  rcases em with ⟨m, r, s⟩
  cases r <;> cases s <;> simp only [Extends] at h <;> push_cast <;> constructor <;> linarith

theorem Extends.roundedMantissa (h : Extends em t) : (em.roundedMantissa : ℤ) = nearest t := by
  rw [nearest, h.floor]
  rcases em with ⟨m, r, s⟩
  cases r <;> cases s <;> simp only [Extends] at h <;>
    simp only [ExtendedMantissa.roundedMantissa, ExtendedMantissa.accuracy,
      Accuracy.roundToNearestEven] <;> push_cast <;> split_ifs <;> first | omega | linarith

theorem Extends.shiftRightOne (h : Extends em t) : Extends em.shiftRightOne (t / 2) := by
  rcases em with ⟨m, r, s⟩
  -- the last bit of the mantissa is the new round bit, and the old one is sticky
  obtain ⟨k, rfl | rfl⟩ : ∃ k, m = 2 * k ∨ m = 2 * k + 1 := ⟨m / 2, by omega⟩
  · have half : 2 * k / 2 = k := by omega
    cases r <;> cases s <;> simp only [Extends, ExtendedMantissa.shiftRightOne] at h ⊢ <;>
      simp [half] at h ⊢ <;> first | linarith | constructor <;> linarith
  · have half : (2 * k + 1) / 2 = k := by omega
    cases r <;> cases s <;> simp only [Extends, ExtendedMantissa.shiftRightOne] at h ⊢ <;>
      simp [half] at h ⊢ <;> first | linarith | constructor <;> linarith

theorem Extends.shiftRight (h : Extends em t) (k : ℕ) : Extends (em >>> k) (t / 2 ^ k) := by
  show Extends (k.repeat ExtendedMantissa.shiftRightOne em) _
  induction k with
  | zero => simpa [Nat.repeat] using h
  | succ k ih =>
    rw [pow_succ, ← div_div]
    exact ih.shiftRightOne

-- ---------------------------------------------------------------------------
-- Exponents
-- ---------------------------------------------------------------------------

def target (m : ℕ) (e : ℤ) : ℤ := max (m.log2 + e - 52) (-1074)

theorem targetExponent_eq (m : ℕ) (e : ℤ) :
    Format.binary64.targetExponent (totalExponent m e) = target m e := by
  simp only [Format.targetExponent, totalExponent, Format.mantissaBits, Format.minExponent, target]
  norm_num
  omega

theorem grid_eq_target {m : ℕ} {e : ℤ} (fine : e ≤ target m e) (low : m ≤ t) (high : t < m + 1)
    (hpos : 0 < t) : grid (t * 2 ^ e) = target m e := by
  have hprod : 0 < t * 2 ^ e := mul_pos hpos (two_zpow_pos e)
  have hupper : Int.log 2 (t * 2 ^ e) < m.log2 + 1 + e := by
    refine (Int.lt_zpow_iff_log_lt one_lt_two hprod).1 ?_
    have hm : (m + 1 : ℚ) ≤ 2 ^ (m.log2 + 1 : ℤ) := by exact_mod_cast Nat.lt_log2_self
    calc t * 2 ^ e < 2 ^ (m.log2 + 1 : ℤ) * 2 ^ e :=
          mul_lt_mul_of_pos_right (high.trans_le hm) (two_zpow_pos e)
      _ = (2 : ℕ) ^ (m.log2 + 1 + e : ℤ) := (zpow_add₀ two_ne_zero _ _).symm
  rw [grid, abs_of_pos hprod]
  obtain rfl | hm := eq_or_ne m 0
  · unfold target at fine ⊢
    simp only [Nat.log2_zero] at hupper fine ⊢
    omega
  · have hlower : m.log2 + e ≤ Int.log 2 (t * 2 ^ e) := by
      refine (Int.zpow_le_iff_le_log one_lt_two hprod).1 ?_
      have hm : (2 ^ (m.log2 : ℤ) : ℚ) ≤ m := by exact_mod_cast Nat.log2_self_le hm
      calc ((2 : ℕ) ^ (m.log2 + e : ℤ) : ℚ) = 2 ^ (m.log2 : ℤ) * 2 ^ e := zpow_add₀ two_ne_zero _ _
        _ ≤ t * 2 ^ e := mul_le_mul_of_nonneg_right (hm.trans low) (two_zpow_pos e).le
    unfold target
    omega

theorem shift_of_lt {r : ℕ} {g : ℤ} (hr : r < 2 ^ 53) (least : -1074 ≤ g) :
    shiftToTargetExponent .binary64 r g .exact = (⟨r, false, false⟩, g) := by
  have hlog : r.log2 ≤ 52 := by
    obtain rfl | hne := eq_or_ne r 0
    · decide
    · exact Nat.le_of_lt_succ ((Nat.log2_lt hne).2 hr)
  have stays : (target r g - g).toNat = 0 := by
    unfold target
    omega
  simp only [shiftToTargetExponent, shiftToExponent, targetExponent_eq, stays]
  simp [HShiftRight.hShiftRight, Nat.repeat, ExtendedMantissa.ofMantissaAndAccuracy]

theorem shift_two_pow {g : ℤ} (least : -1074 ≤ g) :
    shiftToTargetExponent .binary64 (2 ^ 53) g .exact = (⟨2 ^ 52, false, false⟩, g + 1) := by
  have one : (target (2 ^ 53) g - g).toNat = 1 := by
    unfold target
    rw [Nat.log2_two_pow]
    omega
  simp only [shiftToTargetExponent, shiftToExponent, targetExponent_eq, one]
  rfl

theorem ofMantissaAndAccuracy_mantissa (m : ℕ) (accuracy : Accuracy) :
    (ExtendedMantissa.ofMantissaAndAccuracy m accuracy).mantissa = m := by
  cases accuracy with
  | exact => rfl
  | inexact o => cases o <;> rfl

structure Rounds (u : UnpackedFloat) (q : ℚ) : Prop where
  canonical : Canonical u
  finite : u.isFinite = true
  number : number u = round q

theorem apply_natCast (sign : Sign) (m : ℕ) : (sign.apply m : ℚ) = sign.apply 1 * m := by
  cases sign <;> simp [Sign.apply]

theorem round_apply (sign : Sign) (q : ℚ) : round (sign.apply 1 * q) = sign.apply 1 * round q := by
  cases sign <;> simp [Sign.apply, round_neg]

theorem canonical_rounded {r : ℕ} {g : ℤ} (sign : Sign) (hr : r ≤ 2 ^ 53) (least : -1074 ≤ g)
    (full : g ≠ -1074 → 2 ^ 52 ≤ r) :
    let shifted := shiftToTargetExponent .binary64 r g .exact
    let u : UnpackedFloat := if h : shifted.1.mantissa = 0 then .zero sign
      else .finite sign shifted.1.mantissa shifted.2 (Nat.pos_of_ne_zero h)
    Canonical u ∧ u.isFinite = true ∧ number u = sign.apply 1 * (r * 2 ^ g) := by
  obtain hlt | rfl := hr.lt_or_eq
  · rw [shift_of_lt hlt least]
    obtain rfl | hne := eq_or_ne r 0
    · exact ⟨trivial, rfl, by simp⟩
    · simp only [dif_neg hne]
      refine ⟨⟨hlt, least, ?_⟩, rfl, ?_⟩
      · exact (em (g = -1074)).symm.imp_left full
      · rw [number, apply_natCast, mul_assoc]
  · rw [shift_two_pow least]
    refine ⟨⟨show 2 ^ 52 < 2 ^ 53 by decide, by omega, .inl le_rfl⟩, rfl, ?_⟩
    show (sign.apply (2 ^ 52 : ℕ) * 2 ^ (g + 1) : ℚ) = _
    rw [apply_natCast, zpow_add₀ two_ne_zero]
    push_cast
    ring

/-- A mantissa with the digits behind it, rounded to a double. -/
theorem rounds_withAccuracy {m : ℕ} {e : ℤ} {accuracy : Accuracy} (sign : Sign)
    (h : Extends (.ofMantissaAndAccuracy m accuracy) t) (hpos : 0 < t) (fine : e ≤ target m e) :
    Rounds (roundWithAccuracy .binary64 sign m e accuracy) (sign.apply 1 * (t * 2 ^ e)) := by
  have hfloor := h.floor
  rw [ofMantissaAndAccuracy_mantissa, Int.floor_eq_iff] at hfloor
  have hgrid : grid (t * 2 ^ e) = target m e := grid_eq_target fine hfloor.1 hfloor.2 hpos
  have hprod : 0 < t * 2 ^ e := mul_pos hpos (two_zpow_pos e)
  obtain ⟨k, hk⟩ := Int.le.dest fine
  have hshift : shiftToTargetExponent .binary64 m e accuracy =
      (ExtendedMantissa.ofMantissaAndAccuracy m accuracy >>> k, target m e) := by
    simp only [shiftToTargetExponent, shiftToExponent, targetExponent_eq]
    rw [show (target m e - e).toNat = k by omega, hk]
  have hquotient : t / 2 ^ k = t * 2 ^ e / 2 ^ grid (t * 2 ^ e) := by
    rw [hgrid, ← hk, zpow_add₀ two_ne_zero, zpow_natCast, mul_comm ((2 : ℚ) ^ e),
      mul_div_mul_right _ _ (two_zpow_pos e).ne']
  have hrounded := (h.shiftRight k).roundedMantissa
  rw [hquotient] at hrounded
  have hround : round (t * 2 ^ e) =
      (ExtendedMantissa.ofMantissaAndAccuracy m accuracy >>> k).roundedMantissa * 2 ^ target m e := by
    rw [round, ← hrounded, hgrid, Int.cast_natCast]
  have short : (ExtendedMantissa.ofMantissaAndAccuracy m accuracy >>> k).roundedMantissa ≤ 2 ^ 53 := by
    exact_mod_cast hrounded ▸ nearest_div_le hprod
  have full : target m e ≠ -1074 →
      2 ^ 52 ≤ (ExtendedMantissa.ofMantissaAndAccuracy m accuracy >>> k).roundedMantissa := by
    intro coarse
    exact_mod_cast hrounded ▸ le_nearest_div hprod (hgrid ▸ coarse)
  have least : -1074 ≤ target m e := le_max_right _ _
  -- a mantissa of `2 ^ 53` is left to the second shift
  have hrest := canonical_rounded sign short least full
  rw [← hround, ← round_apply] at hrest
  simp only [roundWithAccuracy, hshift]
  exact ⟨hrest.1, hrest.2.1, hrest.2.2⟩

end DriveBench.Binary64
