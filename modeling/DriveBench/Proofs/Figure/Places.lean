import DriveBench.Proofs.Figure.AxisLength
import DriveBench.Proofs.Numeral.Whole

/-!
# Places on an axis

A value that an axis holds is drawn between the two ends of its extent. Its
share of the axis is a double from zero to one, and the thousandth that is
allowed for in counting pixels does not make up a pixel more.
-/

namespace DriveBench

open Binary64 (IsNearest rounded value)

variable {a : Axis} {e : Extent} {v w x : Float} {t : ℚ} {k : ℕ} {n : ℤ}

-- ---------------------------------------------------------------------------
-- Shares
-- ---------------------------------------------------------------------------

namespace Axis

structure IsProper (a : Axis) : Prop where
  low_lt_high : a.low < a.high
  fits : (a.high - a.low).isFinite = true

def Shows (a : Axis) (v : Float) : Prop := a.Holds v ∧ v.isFinite = true

/-- How far along the axis a value is, both operations rounded. -/
def share (a : Axis) (v : Float) : ℚ :=
  rounded (rounded (value v - value a.low) / value (a.high - a.low))

theorem IsProper.isNearest_share (h : a.IsProper) (hv : a.Shows v) :
    IsNearest ((v - a.low) / (a.high - a.low))
      (rounded (value v - value a.low) / value (a.high - a.low)) := by
  have low := (Binary64.isFinite_of_sub h.fits).2
  have hnearest := Binary64.isNearest_div (hv.1.part h.fits hv.2).1 h.fits
    (span_pos h.low_lt_high h.fits).ne'
  rwa [(Binary64.isNearest_sub hv.2 low).value_eq] at hnearest

theorem IsProper.value_share (h : a.IsProper) (hv : a.Shows v) :
    value ((v - a.low) / (a.high - a.low)) = a.share v := (h.isNearest_share hv).value_eq

theorem IsProper.isFraction (h : a.IsProper) (hv : a.Shows v) :
    IsFraction ((v - a.low) / (a.high - a.low)) := by
  obtain ⟨hlow, hhigh⟩ := hv.1.fraction h.low_lt_high h.fits hv.2
  have nonneg := Binary64.value_zero ▸ (Binary64.le_iff.1 hlow).2.2
  have le_one := Binary64.value_one ▸ (Binary64.le_iff.1 hhigh).2.2
  have one : (1 : Float).isFinite = true := by decide +kernel
  exact ⟨Binary64.isFinite_of_value_le (h.isNearest_share hv).isNaN one nonneg
    (Binary64.value_one.symm ▸ le_one), nonneg, le_one⟩

end Axis

-- ---------------------------------------------------------------------------
-- Pixels of a share
-- ---------------------------------------------------------------------------

namespace Extent

/-- What a share may miss a pixel by. -/
def allowance : ℚ := value 1e-3

def reach (k : ℕ) (t : ℚ) : ℚ := rounded (rounded (k * t) + allowance)

def steps (k : ℕ) (t : ℚ) : ℤ := ⌊reach k t⌋

theorem allowance_between : 0 ≤ allowance ∧ allowance ≤ 1 / 2 := by decide +kernel

theorem rounded_mul_between (small : k < 2 ^ 32) (nonneg : 0 ≤ t) (le_one : t ≤ 1) :
    0 ≤ rounded (k * t) ∧ rounded (k * t) ≤ k := by
  have hwhole : rounded k = k := Binary64.rounded_natCast (by omega)
  have hk : (0 : ℚ) ≤ k := k.cast_nonneg
  constructor
  · rw [← Binary64.rounded_zero]
    exact Binary64.rounded_mono (mul_nonneg hk nonneg)
  · conv_rhs => rw [← hwhole]
    exact Binary64.rounded_mono (mul_le_of_le_one_right hk le_one)

theorem rounded_add_half (small : k < 2 ^ 32) : rounded (k + 1 / 2) = k + 1 / 2 := by
  have hhalves : (k + 1 / 2 : ℚ) = (2 * k + 1 : ℤ) * 2 ^ (-1 : ℤ) := by
    push_cast
    ring
  rw [hhalves]
  exact Binary64.rounded_mul_zpow (by decide) (by decide) (by omega)

theorem reach_between (small : k < 2 ^ 32) (nonneg : 0 ≤ t) (le_one : t ≤ 1) :
    0 ≤ reach k t ∧ reach k t ≤ k + 1 / 2 := by
  obtain ⟨hlow, hhigh⟩ := rounded_mul_between small nonneg le_one
  obtain ⟨hnonneg, hhalf⟩ := allowance_between
  constructor
  · rw [← Binary64.rounded_zero]
    exact Binary64.rounded_mono (by linarith)
  · rw [← rounded_add_half small]
    exact Binary64.rounded_mono (by linarith)

/-- The allowance is less than a pixel, so nothing is drawn past the end. -/
theorem steps_between (small : k < 2 ^ 32) (nonneg : 0 ≤ t) (le_one : t ≤ 1) :
    0 ≤ steps k t ∧ steps k t ≤ k := by
  obtain ⟨hlow, hhigh⟩ := reach_between small nonneg le_one
  refine ⟨Int.floor_nonneg.2 hlow, Int.lt_add_one_iff.1 (Int.floor_lt.2 ?_)⟩
  push_cast
  linarith

-- ---------------------------------------------------------------------------
-- Pixels of a value
-- ---------------------------------------------------------------------------

theorem value_ofInt_mul (small : n.natAbs < 2 ^ 32) (hx : Axis.IsFraction x) :
    (Float.ofInt n * x).isFinite = true ∧ value (Float.ofInt n * x) = rounded (n * value x) := by
  obtain ⟨hn, hvalue⟩ := Binary64.value_ofInt (n := n) (by omega)
  have hproduct := Binary64.isNearest_mul hn hx.finite
  rw [hvalue] at hproduct
  have habs : |n * value x| ≤ n.natAbs := by
    rw [abs_mul, abs_of_nonneg hx.nonneg, Nat.cast_natAbs, Int.cast_abs]
    exact mul_le_of_le_one_right (abs_nonneg _) hx.le_one
  have hle := Binary64.abs_rounded_le (by omega) habs
  refine ⟨Binary64.isFinite_of_abs_le hproduct.isNaN ?_, hproduct.value_eq⟩
  rw [hproduct.value_eq]
  exact hle.trans (by exact_mod_cast show n.natAbs ≤ 2 ^ 53 by omega)

theorem abs_reach_le (small : k < 2 ^ 32) (hx : Axis.IsFraction x) :
    |reach k (value x)| ≤ 2 ^ 53 := by
  obtain ⟨hlow, hhigh⟩ := reach_between small hx.nonneg hx.le_one
  have hk : (k : ℚ) < 2 ^ 32 := by exact_mod_cast small
  rw [abs_of_nonneg hlow]
  linarith

theorem floor_reach (small : n.natAbs < 2 ^ 32) (forwards : 0 ≤ n) (hx : Axis.IsFraction x) :
    Binary64.floor? (Float.ofInt n * x + 1e-3) = some (steps n.natAbs (value x)) := by
  obtain ⟨finite, hvalue⟩ := value_ofInt_mul small hx
  have hsum := Binary64.isNearest_add finite (y := 1e-3) (by decide +kernel)
  have hn : (n : ℚ) = n.natAbs := by rw [Nat.cast_natAbs, abs_of_nonneg forwards]
  have hreach : value (Float.ofInt n * x + 1e-3) = reach n.natAbs (value x) := by
    rw [hsum.value_eq, hvalue, hn, reach, allowance]
  have hfinite := Binary64.isFinite_of_abs_le hsum.isNaN (hreach ▸ abs_reach_le small hx)
  rw [Binary64.floor?_eq hfinite, hreach, steps]

theorem ceil_reach (small : n.natAbs < 2 ^ 32) (backwards : n ≤ 0) (hx : Axis.IsFraction x) :
    Binary64.ceil? (Float.ofInt n * x - 1e-3) = some (-steps n.natAbs (value x)) := by
  obtain ⟨finite, hvalue⟩ := value_ofInt_mul small hx
  have hsum := Binary64.isNearest_sub finite (y := 1e-3) (by decide +kernel)
  have hn : (n : ℚ) = -n.natAbs := by
    rw [Nat.cast_natAbs, abs_of_nonpos backwards, Int.cast_neg, neg_neg]
  have hreach : value (Float.ofInt n * x - 1e-3) = -reach n.natAbs (value x) := by
    rw [hsum.value_eq, hvalue, hn, neg_mul, Binary64.rounded_neg, ← neg_add', Binary64.rounded_neg,
      reach, allowance]
  have habs : |value (Float.ofInt n * x - 1e-3)| ≤ 2 ^ 53 := by
    rw [hreach, abs_neg]
    exact abs_reach_le small hx
  have hfinite := Binary64.isFinite_of_abs_le hsum.isNaN habs
  rw [Binary64.ceil?_eq hfinite, hreach, Int.ceil_neg, steps]

theorem pixel_eq (proper : a.IsProper) (hv : a.Shows v)
    (small : (e.stop - e.start).natAbs < 2 ^ 32) : e.pixel a v =
      e.start + (e.stop - e.start).sign * steps (e.stop - e.start).natAbs (a.share v) := by
  have hshare := proper.isFraction hv
  have distinct : ¬ (a.high == a.low) = true := fun h =>
    (Binary64.lt_iff.1 proper.low_lt_high).2.2.ne' (Binary64.beq_iff.1 h).2.2
  rw [← proper.value_share hv]
  unfold pixel
  rw [if_neg distinct]
  dsimp only
  generalize (v - a.low) / (a.high - a.low) = x at hshare ⊢
  rw [Binary64.isInf_of_isFinite hshare.finite]
  obtain hneg | hzero | hpos := lt_trichotomy (e.stop - e.start) 0
  · rw [if_neg hneg.ne, if_neg Bool.false_ne_true, if_neg hneg.not_gt, ceil_reach small hneg.le hshare,
      Int.sign_eq_neg_one_of_neg hneg, neg_one_mul]
    rfl
  · rw [if_pos hzero, hzero, Int.sign_zero, zero_mul]
    omega
  · rw [if_neg hpos.ne', if_neg Bool.false_ne_true, if_pos hpos, floor_reach small hpos.le hshare,
      Int.sign_eq_one_of_pos hpos, one_mul]
    rfl

theorem pixel_between (proper : a.IsProper) (hv : a.Shows v)
    (small : (e.stop - e.start).natAbs < 2 ^ 32) :
    min e.start e.stop ≤ e.pixel a v ∧ e.pixel a v ≤ max e.start e.stop := by
  have hshare := proper.isFraction hv
  obtain ⟨hlow, hhigh⟩ := steps_between small hshare.nonneg hshare.le_one
  rw [proper.value_share hv] at hlow hhigh
  rw [pixel_eq proper hv small]
  obtain hneg | hzero | hpos := lt_trichotomy (e.stop - e.start) 0
  · rw [Int.sign_eq_neg_one_of_neg hneg]
    omega
  · rw [hzero, Int.sign_zero]
    omega
  · rw [Int.sign_eq_one_of_pos hpos]
    omega

theorem pixel_congr (proper : a.IsProper) (hv : a.Shows v) (hw : a.Shows w) (same : (v == w) = true)
    (small : (e.stop - e.start).natAbs < 2 ^ 32) : e.pixel a v = e.pixel a w := by
  rw [pixel_eq proper hv small, pixel_eq proper hw small, Axis.share, (Binary64.beq_iff.1 same).2.2,
    Axis.share]

end Extent

end DriveBench
