import DriveBench.Proofs.Numeral.Halves
import DriveBench.Proofs.Numeral.Whole

/-!
# Numbers brought into a period

The remainder of a truncated division is a double, however great the quotient.
So a number is brought into the period exactly unless it is negative; then one
sum is rounded, which may give the end of the period.
-/

namespace DriveBench.Binary64

open Float.Model (UnpackedFloat)
open Float.Model.UnpackedFloat

variable {x y : Float} {s t : Sign} {m n : ℕ} {e f g : ℤ} {hm : 0 < m} {hn : 0 < n} {q : ℚ}

-- ---------------------------------------------------------------------------
-- Remainders
-- ---------------------------------------------------------------------------

def leftover (m n : ℕ) (e f : ℤ) : ℕ :=
  m * Nat.pow 2 (e - min e f).toNat % (n * Nat.pow 2 (f - min e f).toNat)

theorem mul_pow_mul_zpow (m : ℕ) (h : f ≤ e) :
    ((m * Nat.pow 2 (e - f).toNat : ℕ) * 2 ^ f : ℚ) = m * 2 ^ e := by
  rw [← shiftLeft_mul_zpow m h, Nat.shiftLeft_eq]
  rfl

theorem leftover_mul_zpow (hn : 0 < n) :
    (leftover m n e f * 2 ^ min e f : ℚ) = n * 2 ^ f * Int.fract (m * 2 ^ e / (n * 2 ^ f) : ℚ) := by
  have units : (0 : ℚ) < 2 ^ min e f := two_zpow_pos _
  have hwhole : ((n * Nat.pow 2 (f - min e f).toNat : ℕ) : ℚ) ≠ 0 :=
    Nat.cast_ne_zero.2 (Nat.mul_pos hn (Nat.two_pow_pos _)).ne'
  rw [← mul_pow_mul_zpow m (min_le_left e f), ← mul_pow_mul_zpow n (min_le_right e f),
    mul_div_mul_right _ _ units.ne', Int.fract_div_natCast_eq_div_natCast_mod, leftover]
  rw [mul_right_comm, mul_div_cancel₀ _ hwhole]

theorem leftover_lt (hm : m < 2 ^ 53) (hn : 0 < n) (hn' : n < 2 ^ 53) : leftover m n e f < 2 ^ 53 := by
  obtain hle | hle := le_total e f
  · have hmin : (e - min e f).toNat = 0 := by omega
    refine lt_of_le_of_lt (Nat.mod_le _ _) ?_
    rw [hmin]
    simpa using hm
  · have hmin : (f - min e f).toNat = 0 := by omega
    have hmod : leftover m n e f < n * Nat.pow 2 (f - min e f).toNat :=
      Nat.mod_lt _ (Nat.mul_pos hn (Nat.two_pow_pos _))
    rw [hmin] at hmod
    exact lt_trans (by simpa using hmod) hn'

theorem number_remainder (hx : unpack x = .finite s m e hm) (hy : unpack y = .finite t n f hn) :
    (remainder x y).isNaN = false ∧ value (remainder x y) =
      s.apply 1 * (n * 2 ^ f * Int.fract (m * 2 ^ e / (n * 2 ^ f) : ℚ)) := by
  have hc := canonical_unpack x
  have hd := canonical_unpack y
  have hfits := fits_unpack x
  rw [hx] at hc hfits
  rw [hy] at hd
  have hlt : leftover m n e f < 2 ^ 53 := leftover_lt hc.1 hn hd.1
  have hdef : remainder x y = pack (if leftover m n e f = 0 then .zero s
      else .round .binary64 s (leftover m n e f) (min e f)) := by
    unfold remainder
    rw [hx, hy]
    rfl
  rw [← leftover_mul_zpow hn, hdef]
  generalize leftover m n e f = r at hlt
  have rounds : Rounds (if r = 0 then .zero s else .round .binary64 s r (min e f))
      (s.apply r * 2 ^ min e f) := by
    split
    · rename_i hzero
      rw [hzero, apply_natCast, Nat.cast_zero, mul_zero, zero_mul]
      exact rounds_zero s
    · rename_i hne
      exact rounds_round s _ (Nat.pos_of_ne_zero hne)
  have hshort : (s.apply r).natAbs < 2 ^ 53 := by cases s <;> simpa [Sign.apply] using hlt
  have hexact := rounded_mul_zpow (le_min hc.2.1 hd.2.1) (min_le_of_left_le hfits) hshort
  refine ⟨rounds.pack.isNaN, ?_⟩
  rw [rounds.pack.value_eq, hexact, apply_natCast, mul_assoc]

-- ---------------------------------------------------------------------------
-- Periods
-- ---------------------------------------------------------------------------

/-- What is left of a number after whole periods of a positive length. -/
def residue (period q : ℚ) : ℚ := period * Int.fract (q / period)

theorem residue_neg_of_zero {period : ℚ} (hne : period ≠ 0) (h : residue period q = 0) :
    residue period (-q) = 0 := by
  have hfract : Int.fract (q / period) = 0 := (mul_eq_zero.1 h).resolve_left hne
  rw [residue, neg_div, Int.fract_neg_eq_zero.2 hfract, mul_zero]

theorem residue_neg {period : ℚ} (hne : residue period q ≠ 0) :
    residue period (-q) = period - residue period q := by
  have hfract : Int.fract (q / period) ≠ 0 := fun hzero => hne (by rw [residue, hzero, mul_zero])
  rw [residue, residue, neg_div, Int.fract_neg hfract, mul_sub, mul_one]

theorem residue_nonneg {period : ℚ} (hpos : 0 < period) (q : ℚ) : 0 ≤ residue period q :=
  mul_nonneg hpos.le (Int.fract_nonneg _)

theorem residue_lt {period : ℚ} (hpos : 0 < period) (q : ℚ) : residue period q < period :=
  mul_lt_of_lt_one_right hpos (Int.fract_lt_one _)

theorem exists_positive (hy : y.isFinite = true) (hpos : 0 < value y) :
    ∃ (n : ℕ) (f : ℤ) (hn : 0 < n), unpack y = .finite .positive n f hn := by
  replace hy : (unpack y).isFinite = true := hy
  rw [value] at hpos
  generalize unpack y = v at hy hpos ⊢
  cases v with
  | notANumber | infinity t => cases hy
  | zero t => exact absurd hpos (lt_irrefl 0)
  | finite t n f hn =>
    cases t with
    | positive => exact ⟨n, f, hn, rfl⟩
    | negative =>
      have hmagnitude := mul_pos (Nat.cast_pos.2 hn) (two_zpow_pos f)
      rw [number_finite_negative] at hpos
      exact absurd hpos (by linarith)

theorem value_remainder (hx : x.isFinite = true) (hy : y.isFinite = true) (hpos : 0 < value y) :
    (remainder x y).isNaN = false ∧ value (remainder x y) =
      if 0 ≤ value x then residue (value y) (value x) else -residue (value y) (-value x) := by
  obtain ⟨n, f, hn, hy'⟩ := exists_positive hy hpos
  have hperiod : value y = n * 2 ^ f := by rw [value, hy', number_finite_positive]
  cases hx' : unpack x with
  | notANumber | infinity s =>
    replace hx : (unpack x).isFinite = true := hx
    rw [hx'] at hx
    cases hx
  | zero s =>
    have hself : remainder x y = x := by
      unfold remainder
      rw [hx', hy']
    have hzero : value x = 0 := by rw [value, hx', number_zero]
    rw [hself, hzero, if_pos le_rfl, residue, zero_div, Int.fract_zero, mul_zero]
    exact ⟨isNaN_of_isFinite hx, rfl⟩
  | finite s m e hm =>
    have hmagnitude : (0 : ℚ) < m * 2 ^ e := mul_pos (Nat.cast_pos.2 hm) (two_zpow_pos e)
    obtain ⟨number, hvalue⟩ := number_remainder hx' hy'
    refine ⟨number, ?_⟩
    rw [hvalue, hperiod]
    cases s with
    | positive =>
      have hx'' : value x = m * 2 ^ e := by rw [value, hx', number_finite_positive]
      rw [hx'', if_pos hmagnitude.le, residue]
      simp [Sign.apply]
    | negative =>
      have hx'' : value x = -(m * 2 ^ e) := by rw [value, hx', number_finite_negative]
      rw [hx'', if_neg (by linarith), neg_neg, residue]
      simp [Sign.apply]

theorem isFinite_remainder (hx : x.isFinite = true) (hy : y.isFinite = true) (hpos : 0 < value y) :
    (remainder x y).isFinite = true := by
  obtain ⟨number, hvalue⟩ := value_remainder hx hy hpos
  have hsmall : |value (remainder x y)| < value y := by
    rw [hvalue]
    split
    · rw [abs_of_nonneg (residue_nonneg hpos _)]
      exact residue_lt hpos _
    · rw [abs_neg, abs_of_nonneg (residue_nonneg hpos _)]
      exact residue_lt hpos _
  have hperiod := (isFinite_iff.1 hy).2
  rw [abs_of_pos hpos] at hperiod
  exact isFinite_iff.2 ⟨number, hsmall.trans hperiod⟩

theorem value_wrapInto_of_nonneg (hx : x.isFinite = true) (hy : y.isFinite = true)
    (hpos : 0 < value y) (nonneg : 0 ≤ value x) : (wrapInto y x).isNaN = false ∧
      value (wrapInto y x) = residue (value y) (value x) := by
  obtain ⟨number, hvalue⟩ := value_remainder hx hy hpos
  rw [if_pos nonneg] at hvalue
  have hnot : ¬ value (remainder x y) < 0 := hvalue ▸ (residue_nonneg hpos _).not_gt
  unfold wrapInto
  dsimp only
  rw [if_neg fun h => hnot (lt_zero_iff.1 h).2]
  exact ⟨number, hvalue⟩

/-- What a number is brought to is nearest to what it leaves, whatever its sign. -/
theorem isNearest_wrapInto (hx : x.isFinite = true) (hy : y.isFinite = true) (hpos : 0 < value y) :
    IsNearest (wrapInto y x) (residue (value y) (value x)) := by
  obtain nonneg | negative := le_or_gt 0 (value x)
  · obtain ⟨number, hvalue⟩ := value_wrapInto_of_nonneg hx hy hpos nonneg
    exact hvalue ▸ isNearest_value number
  obtain ⟨number, hvalue⟩ := value_remainder hx hy hpos
  rw [if_neg negative.not_ge] at hvalue
  unfold wrapInto
  dsimp only
  by_cases hzero : residue (value y) (-value x) = 0
  · -- nothing is left on either side of zero
    have hresidue := residue_neg_of_zero hpos.ne' hzero
    rw [hzero, neg_zero] at hvalue
    rw [neg_neg] at hresidue
    rw [if_neg fun h => hvalue.not_lt (lt_zero_iff.1 h).2, hresidue, ← hvalue]
    exact isNearest_value number
  · have hlt : value (remainder x y) < 0 := by
      rw [hvalue, neg_lt_zero]
      exact lt_of_le_of_ne (residue_nonneg hpos _) (Ne.symm hzero)
    have hsum := isNearest_add (isFinite_remainder hx hy hpos) ((isFinite_abs y).trans hy)
    rw [hvalue, value_abs, abs_of_pos hpos, neg_add_eq_sub, ← residue_neg hzero, neg_neg] at hsum
    rwa [if_pos (lt_zero_iff.2 ⟨number, hlt⟩)]

theorem isFinite_of_wrapInto (h : (wrapInto y x).isFinite = true) : x.isFinite = true := by
  have hnan : nan.isFinite = false := by decide +kernel
  have hnot : ¬ nan < 0 := by decide +kernel
  by_contra hx
  have hremainder : remainder x y = nan := by
    replace hx : ¬ (unpack x).isFinite = true := hx
    unfold remainder
    generalize unpack x = u at hx ⊢
    cases u with
    | notANumber | infinity s => cases unpack y <;> rfl
    | zero s | finite s m e hm => exact absurd rfl hx
  rw [wrapInto, hremainder] at h
  simp [hnot, hnan] at h

-- ---------------------------------------------------------------------------
-- Just below a double
-- ---------------------------------------------------------------------------

theorem grid_of_between {t : ℚ} (least : -1074 ≤ g) (low : 2 ^ 52 ≤ t) (high : t < 2 ^ 53) :
    grid (t * 2 ^ g) = g := by
  have hpos : 0 < t * 2 ^ g := mul_pos (lt_of_lt_of_le (by norm_num) low) (two_zpow_pos g)
  have hlower : 52 + g ≤ Int.log 2 (t * 2 ^ g) := by
    refine (Int.zpow_le_iff_le_log one_lt_two hpos).1 ?_
    rw [Nat.cast_ofNat, zpow_add₀ two_ne_zero]
    exact mul_le_mul_of_nonneg_right (by exact_mod_cast low) (two_zpow_pos g).le
  have hupper : Int.log 2 (t * 2 ^ g) < 53 + g := by
    refine (Int.lt_zpow_iff_log_lt one_lt_two hpos).1 ?_
    rw [Nat.cast_ofNat, zpow_add₀ two_ne_zero]
    exact mul_lt_mul_of_pos_right (by exact_mod_cast high) (two_zpow_pos g)
  rw [grid_of_pos hpos]
  omega

theorem rounded_of_between {t : ℚ} {k : ℕ} (least : -1074 ≤ g) (fits : g ≤ 971) (low : 2 ^ 52 ≤ t)
    (high : t < 2 ^ 53) (hk : k < 2 ^ 53) (hnearest : nearest t = k) : rounded (t * 2 ^ g) = k * 2 ^ g := by
  have hmagnitude : (0 : ℚ) ≤ k * 2 ^ g := mul_nonneg (Nat.cast_nonneg k) (two_zpow_pos g).le
  rw [rounded, round, grid_of_between least low high, mul_div_cancel_right₀ _ (two_zpow_pos g).ne',
    hnearest, Int.cast_natCast, clamp_of_abs_le]
  rw [abs_of_nonneg hmagnitude]
  exact (magnitude_lt_huge hk fits).le

/-- A number below a double of even mantissa is rounded up to it if it is at most
half a step away. -/
theorem rounded_lt_iff {k : ℕ} (even : k % 2 = 0) (full : 2 ^ 52 < k) (below : k < 2 ^ 53)
    (least : -1074 ≤ g) (fits : g ≤ 971) :
    rounded q < k * 2 ^ g ↔ q < (k - 1 / 2) * 2 ^ g := by
  obtain ⟨j, rfl⟩ : ∃ j, k = j + 1 := ⟨k - 1, by omega⟩
  have hlow : (2 ^ 52 : ℚ) ≤ j := by exact_mod_cast Nat.le_of_lt_succ full
  have hhigh : (j + 1 : ℚ) < 2 ^ 53 := by exact_mod_cast below
  push_cast
  constructor
  · intro hlt
    by_contra hge
    have tie : nearest (((j + 1 : ℕ) : ℤ) - 1 / 2) = (j + 1 : ℕ) := by
      rw [nearest_sub_half]
      omega
    have hup := rounded_of_between least fits (by push_cast; linarith) (by push_cast; linarith) below tie
    have hmono := rounded_mono (not_lt.1 hge)
    push_cast at hup
    rw [hup] at hmono
    exact hmono.not_gt hlt
  · -- the double before it is as far down as rounding goes
    intro hlt
    rw [← div_lt_iff₀ (two_zpow_pos g)] at hlt
    have hj : (j : ℚ) ≤ max (q / 2 ^ g) j := le_max_right _ _
    have hhalf : max (q / 2 ^ g) j < j + 1 / 2 := max_lt (by linarith) (by linarith)
    have hnearest : nearest (max (q / 2 ^ g) j) = j := by
      have hstep := nearest_add_of_lt (h := max (q / 2 ^ g) j - j) j (by linarith) (by linarith)
      rwa [Int.cast_natCast, add_sub_cancel] at hstep
    have hdown := rounded_of_between least fits (hlow.trans hj) (by linarith) (by omega) hnearest
    calc rounded q ≤ rounded (max (q / 2 ^ g) j * 2 ^ g) :=
          rounded_mono ((div_le_iff₀ (two_zpow_pos g)).1 (le_max_left _ _))
      _ = j * 2 ^ g := hdown
      _ < (j + 1) * 2 ^ g := mul_lt_mul_of_pos_right (lt_add_one _) (two_zpow_pos g)

end DriveBench.Binary64
