import Mathlib.Data.Int.Log
import Mathlib.Data.Rat.Floor
import Mathlib.Algebra.Order.Field.Power
import Mathlib.Tactic.Linarith
import Mathlib.Tactic.Positivity
import Mathlib.Tactic.Ring

/-!
# Rounding to the nearest double

Doubles near a number lie on a grid: the multiples of a power of two. Where a
grid changes, the power of two between the two is a point of both, and no number
is rounded past it.
-/

namespace DriveBench.Binary64

variable {p q t : ℚ} {n : ℤ}

-- ---------------------------------------------------------------------------
-- Integers
-- ---------------------------------------------------------------------------

def nearest (t : ℚ) : ℤ :=
  if t - ⌊t⌋ < 1 / 2 then ⌊t⌋
  else if 1 / 2 < t - ⌊t⌋ then ⌊t⌋ + 1
  else ⌊t⌋ + ⌊t⌋ % 2

@[simp] theorem nearest_intCast (n : ℤ) : nearest n = n := by simp [nearest]

theorem floor_le_nearest (t : ℚ) : ⌊t⌋ ≤ nearest t := by
  unfold nearest
  split_ifs <;> omega

theorem nearest_le_floor_add_one (t : ℚ) : nearest t ≤ ⌊t⌋ + 1 := by
  unfold nearest
  split_ifs <;> omega

theorem nearest_mono (h : p ≤ q) : nearest p ≤ nearest q := by
  obtain hlt | heq := (Int.floor_mono h).lt_or_eq
  · calc nearest p ≤ ⌊p⌋ + 1 := nearest_le_floor_add_one p
      _ ≤ ⌊q⌋ := hlt
      _ ≤ nearest q := floor_le_nearest q
  · -- between the same two integers only the place of the half counts
    unfold nearest
    rw [heq]
    split_ifs <;> first | omega | linarith

theorem nearest_neg (t : ℚ) : nearest (-t) = -nearest t := by
  obtain heq | hne := eq_or_ne t ⌊t⌋
  · rw [heq, ← Int.cast_neg, nearest_intCast, nearest_intCast]
  · -- off the integers, what is behind the floor of the one is in front of the other's
    have hlt : ⌊t⌋ < t := lt_of_le_of_ne (Int.floor_le t) hne.symm
    have hfloor : ⌊-t⌋ = -⌊t⌋ - 1 := by
      rw [Int.floor_eq_iff]
      push_cast
      constructor <;> linarith [Int.lt_floor_add_one t]
    unfold nearest
    rw [hfloor]
    push_cast
    split_ifs <;> first | omega | linarith

-- ---------------------------------------------------------------------------
-- Grids
-- ---------------------------------------------------------------------------

/-- The exponent of the grid of doubles near a number. -/
def grid (q : ℚ) : ℤ := max (Int.log 2 |q| - 52) (-1074)

/-- The nearest number that is a double, were there no greatest. -/
def round (q : ℚ) : ℚ := nearest (q / 2 ^ grid q) * 2 ^ grid q

theorem two_zpow_pos (e : ℤ) : (0 : ℚ) < 2 ^ e := zpow_pos two_pos e

theorem grid_neg (q : ℚ) : grid (-q) = grid q := by rw [grid, abs_neg, grid]

theorem round_neg (q : ℚ) : round (-q) = -round q := by
  rw [round, grid_neg, neg_div, nearest_neg, round]
  push_cast
  ring

theorem exists_mul_zpow {e f : ℤ} (n : ℤ) (h : e ≤ f) : ∃ k : ℤ, (n * 2 ^ f : ℚ) = k * 2 ^ e := by
  obtain ⟨d, rfl⟩ := Int.le.dest h
  refine ⟨n * 2 ^ d, ?_⟩
  rw [zpow_add₀ two_ne_zero, zpow_natCast]
  push_cast
  ring

/-- Nothing is rounded past a point of its grid. -/
theorem round_le_mul_zpow {f : ℤ} (fine : grid q ≤ f) (h : q ≤ n * 2 ^ f) : round q ≤ n * 2 ^ f := by
  obtain ⟨k, hk⟩ := exists_mul_zpow n fine
  rw [hk] at h ⊢
  have hnearest : nearest (q / 2 ^ grid q) ≤ k := by
    rw [← nearest_intCast k]
    exact nearest_mono ((div_le_iff₀ (two_zpow_pos _)).2 h)
  exact mul_le_mul_of_nonneg_right (Int.cast_le.2 hnearest) (two_zpow_pos _).le

theorem mul_zpow_le_round {f : ℤ} (fine : grid q ≤ f) (h : n * 2 ^ f ≤ q) : n * 2 ^ f ≤ round q := by
  have hneg : round (-q) ≤ (-n : ℤ) * 2 ^ f :=
    round_le_mul_zpow (by rwa [grid_neg]) (by push_cast; linarith)
  rw [round_neg] at hneg
  push_cast at hneg
  linarith

theorem round_eq_self {f : ℤ} (fine : grid (n * 2 ^ f) ≤ f) : round (n * 2 ^ f) = n * 2 ^ f :=
  le_antisymm (round_le_mul_zpow fine le_rfl) (mul_zpow_le_round fine le_rfl)

-- ---------------------------------------------------------------------------
-- Order
-- ---------------------------------------------------------------------------

theorem round_nonneg (h : 0 ≤ q) : 0 ≤ round q := by
  simpa using mul_zpow_le_round (n := 0) (le_refl (grid q)) (by simpa using h)

theorem round_nonpos (h : q ≤ 0) : round q ≤ 0 := by
  simpa using round_le_mul_zpow (n := 0) (le_refl (grid q)) (by simpa using h)

theorem grid_of_pos (h : 0 < q) : grid q = max (Int.log 2 q - 52) (-1074) := by
  rw [grid, abs_of_pos h]

theorem grid_mono (hp : 0 < p) (h : p ≤ q) : grid p ≤ grid q := by
  have hlog : Int.log 2 p ≤ Int.log 2 q := Int.log_mono_right hp h
  rw [grid_of_pos hp, grid_of_pos (hp.trans_le h)]
  omega

theorem round_mono_of_pos (hp : 0 < p) (h : p ≤ q) : round p ≤ round q := by
  have hq : 0 < q := hp.trans_le h
  obtain hlt | heq := (grid_mono hp h).lt_or_eq
  · -- the power of two between them is a point of both grids
    rw [grid_of_pos hp, grid_of_pos hq] at hlt
    have hbetween : p ≤ 2 ^ Int.log 2 q := by
      calc p ≤ 2 ^ (Int.log 2 p + 1) := (Int.lt_zpow_succ_log_self one_lt_two p).le
        _ ≤ 2 ^ Int.log 2 q := zpow_le_zpow_right₀ one_le_two (by omega)
    have hbelow : round p ≤ (1 : ℤ) * 2 ^ Int.log 2 q :=
      round_le_mul_zpow (by rw [grid_of_pos hp]; omega) (by simpa using hbetween)
    have habove : (1 : ℤ) * 2 ^ Int.log 2 q ≤ round q :=
      mul_zpow_le_round (by rw [grid_of_pos hq]; omega)
        (by simpa using Int.zpow_log_le_self one_lt_two hq)
    exact hbelow.trans habove
  · rw [round, round, heq]
    have hnearest : nearest (p / 2 ^ grid q) ≤ nearest (q / 2 ^ grid q) :=
      nearest_mono (div_le_div_of_nonneg_right h (two_zpow_pos _).le)
    exact mul_le_mul_of_nonneg_right (Int.cast_le.2 hnearest) (two_zpow_pos _).le

theorem round_mono (h : p ≤ q) : round p ≤ round q := by
  obtain hp | hp := lt_or_ge 0 p
  · exact round_mono_of_pos hp h
  obtain hq | hq := lt_or_ge q 0
  · have hneg := round_mono_of_pos (neg_pos.2 hq) (neg_le_neg h)
    rwa [round_neg, round_neg, neg_le_neg_iff] at hneg
  · exact (round_nonpos hp).trans (round_nonneg hq)

-- ---------------------------------------------------------------------------
-- Numbers that are doubles
-- ---------------------------------------------------------------------------

theorem grid_le_of_abs_lt {f : ℤ} (least : -1074 ≤ f) (hne : q ≠ 0) (h : |q| < 2 ^ (f + 53)) :
    grid q ≤ f := by
  have hlog : Int.log 2 |q| < f + 53 := (Int.lt_zpow_iff_log_lt one_lt_two (abs_pos.2 hne)).1 h
  rw [grid]
  omega

theorem nearest_div_le (h : 0 < q) : nearest (q / 2 ^ grid q) ≤ 2 ^ 53 := by
  have hle : q / 2 ^ grid q ≤ ((2 ^ 53 : ℤ) : ℚ) := by
    rw [div_le_iff₀ (two_zpow_pos _)]
    calc q ≤ 2 ^ (Int.log 2 q + 1) := (Int.lt_zpow_succ_log_self one_lt_two q).le
      _ ≤ 2 ^ (53 + grid q) := zpow_le_zpow_right₀ one_le_two (by
          rw [grid_of_pos h]
          omega)
      _ = ((2 ^ 53 : ℤ) : ℚ) * 2 ^ grid q := by
          rw [zpow_add₀ two_ne_zero]
          norm_cast
  simpa only [nearest_intCast] using nearest_mono hle

theorem le_nearest_div (h : 0 < q) (coarse : grid q ≠ -1074) :
    2 ^ 52 ≤ nearest (q / 2 ^ grid q) := by
  have hgrid : Int.log 2 q = 52 + grid q := by
    rw [grid_of_pos h] at coarse ⊢
    omega
  have hle : ((2 ^ 52 : ℤ) : ℚ) ≤ q / 2 ^ grid q := by
    rw [le_div_iff₀ (two_zpow_pos _)]
    calc ((2 ^ 52 : ℤ) : ℚ) * 2 ^ grid q = 2 ^ (52 + grid q) := by
          rw [zpow_add₀ two_ne_zero]
          norm_cast
      _ ≤ q := hgrid ▸ Int.zpow_log_le_self one_lt_two h
  simpa only [nearest_intCast] using nearest_mono hle

theorem round_of_lt {f : ℤ} (least : -1074 ≤ f) (h : |n| < 2 ^ 53) :
    round (n * 2 ^ f) = n * 2 ^ f := by
  obtain rfl | hne := eq_or_ne n 0
  · simp [round, nearest]
  · refine round_eq_self (grid_le_of_abs_lt least ?_ ?_)
    · exact mul_ne_zero (Int.cast_ne_zero.2 hne) (two_zpow_pos f).ne'
    · rw [abs_mul, abs_of_pos (two_zpow_pos f), add_comm, zpow_add₀ two_ne_zero]
      exact mul_lt_mul_of_pos_right (by exact_mod_cast h) (two_zpow_pos f)

theorem round_two_zpow {f : ℤ} (least : -1074 ≤ f) : round (2 ^ f) = 2 ^ f := by
  simpa using round_of_lt (n := 1) least (by norm_num)

-- ---------------------------------------------------------------------------
-- Overflow
-- ---------------------------------------------------------------------------

def huge : ℚ := 2 ^ (1024 : ℤ)

def clamp (q : ℚ) : ℚ := max (-huge) (min q huge)

/-- The double that is nearest to a number, as a number. -/
def rounded (q : ℚ) : ℚ := clamp (round q)

theorem huge_pos : 0 < huge := two_zpow_pos 1024

theorem clamp_of_abs_le (h : |q| ≤ huge) : clamp q = q := by
  obtain ⟨hlow, hhigh⟩ := abs_le.1 h
  rw [clamp, min_eq_left hhigh, max_eq_right hlow]

theorem clamp_of_huge_le (h : huge ≤ q) : clamp q = huge := by
  rw [clamp, min_eq_right h, max_eq_right (neg_le_self huge_pos.le)]

theorem clamp_of_le_neg_huge (h : q ≤ -huge) : clamp q = -huge := by
  rw [clamp, min_eq_left (h.trans (neg_le_self huge_pos.le)), max_eq_left h]

theorem clamp_mono (h : p ≤ q) : clamp p ≤ clamp q := max_le_max le_rfl (min_le_min h le_rfl)

theorem clamp_lt_clamp_iff (hp : p ≤ t) (hq : t ≤ q) (ht : |t| < huge) : clamp p < clamp q ↔ p < q := by
  obtain ⟨hlow, hhigh⟩ := abs_lt.1 ht
  constructor
  · intro h
    exact lt_of_not_ge fun hle => (clamp_mono hle).not_gt h
  · intro h
    rw [clamp, min_eq_left (by linarith), clamp, max_eq_right (le_min (by linarith) (by linarith)),
      max_lt_iff, lt_min_iff, lt_min_iff]
    exact ⟨⟨by linarith, by linarith⟩, h, by linarith⟩

theorem rounded_mono (h : p ≤ q) : rounded p ≤ rounded q := clamp_mono (round_mono h)

theorem rounded_two_zpow {f : ℤ} (least : -1074 ≤ f) (fits : f ≤ 1024) : rounded (2 ^ f) = 2 ^ f := by
  rw [rounded, round_two_zpow least, clamp_of_abs_le]
  rw [abs_of_pos (two_zpow_pos f)]
  exact zpow_le_zpow_right₀ one_le_two fits

end DriveBench.Binary64
