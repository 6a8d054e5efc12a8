import DriveBench.Proofs.Numeral.Arithmetic

/-!
# Doubles and integers

The floor of a finite double is that of its number, and so is the ceiling. An
integer of at most 53 bits is a double.
-/

namespace DriveBench.Binary64

open Float.Model (UnpackedFloat)
open Float.Model.UnpackedFloat

variable {x y : Float} {q : ℚ} {n : ℤ}

-- ---------------------------------------------------------------------------
-- Opposites
-- ---------------------------------------------------------------------------

theorem clamp_neg (q : ℚ) : clamp (-q) = -clamp q := by
  obtain hle | hlow := le_or_gt q (-huge)
  · rw [clamp_of_le_neg_huge hle, clamp_of_huge_le (le_neg.1 hle), neg_neg]
  obtain hge | hhigh := le_or_gt huge q
  · rw [clamp_of_huge_le hge, clamp_of_le_neg_huge (neg_le_neg hge)]
  · have habs : |q| ≤ huge := (abs_lt.2 ⟨hlow, hhigh⟩).le
    rw [clamp_of_abs_le habs, clamp_of_abs_le (by rwa [abs_neg])]

theorem rounded_neg (q : ℚ) : rounded (-q) = -rounded q := by
  rw [rounded, round_neg, clamp_neg, rounded]

theorem unpack_neg (x : Float) : unpack (-x) = (unpack x).neg :=
  unpack_pack (canonical_unpack x).neg (fits_unpack x).neg

theorem value_neg (x : Float) : value (-x) = -value x := by
  rw [value, value, unpack_neg, number_neg]

theorem isFinite_neg (x : Float) : (-x).isFinite = x.isFinite := by
  show (unpack (-x)).isFinite = (unpack x).isFinite
  rw [unpack_neg]
  cases unpack x <;> rfl

-- ---------------------------------------------------------------------------
-- Floors and ceilings
-- ---------------------------------------------------------------------------

theorem floor?_eq (hx : x.isFinite = true) : floor? x = some ⌊value x⌋ := by
  replace hx : (unpack x).isFinite = true := hx
  rw [floor?, value]
  generalize unpack x = u at hx ⊢
  cases u with
  | notANumber | infinity s => cases hx
  | zero s => simp
  | finite s m e hm =>
    simp only [number, Option.some.injEq]
    split
    · rename_i hnonneg
      obtain ⟨k, rfl⟩ := Int.eq_ofNat_of_zero_le hnonneg
      have hint : (s.apply m * 2 ^ (k : ℤ) : ℚ) = (s.apply m * Int.ofNat (.pow 2 k) : ℤ) := by
        push_cast
        simp
      rw [hint, Int.floor_intCast, Int.toNat_natCast]
    · obtain ⟨k, rfl⟩ : ∃ k : ℕ, e = -k := ⟨(-e).toNat, by omega⟩
      have hquotient : (s.apply m * 2 ^ (-k : ℤ) : ℚ) = s.apply m / (2 ^ k : ℕ) := by
        rw [zpow_neg, zpow_natCast, ← div_eq_mul_inv]
        push_cast
        rfl
      rw [hquotient, Rat.floor_intCast_div_natCast, neg_neg, Int.toNat_natCast]
      rfl

theorem ceil?_eq (hx : x.isFinite = true) : ceil? x = some ⌈value x⌉ := by
  rw [ceil?, floor?_eq (by rwa [isFinite_neg]), value_neg]
  simp [Int.floor_neg]

-- ---------------------------------------------------------------------------
-- Integers
-- ---------------------------------------------------------------------------

theorem rounded_mul_zpow {f : ℤ} (least : -1074 ≤ f) (fits : f ≤ 971) (h : n.natAbs < 2 ^ 53) :
    rounded (n * 2 ^ f) = n * 2 ^ f := by
  have habs : |n| < 2 ^ 53 := by
    rw [Int.abs_eq_natAbs]
    exact_mod_cast h
  rw [rounded, round_of_lt least habs, clamp_of_abs_le]
  rw [abs_mul, abs_of_pos (two_zpow_pos f), ← Int.cast_abs, Int.abs_eq_natAbs, Int.cast_natCast]
  exact (magnitude_lt_huge h fits).le

theorem rounded_intCast (h : n.natAbs < 2 ^ 53) : rounded n = n := by
  simpa using rounded_mul_zpow (f := 0) (by decide) (by decide) h

theorem rounded_natCast {k : ℕ} (h : k < 2 ^ 53) : rounded k = k :=
  rounded_intCast (n := k) (by omega)

theorem rounded_zero : rounded 0 = 0 := rounded_intCast (n := 0) (by decide)

theorem abs_rounded_le {k : ℕ} (h : k < 2 ^ 53) (hq : |q| ≤ k) : |rounded q| ≤ k := by
  obtain ⟨hlow, hhigh⟩ := abs_le.1 hq
  have below := rounded_mono hlow
  have above := rounded_mono hhigh
  rw [rounded_neg, rounded_natCast h] at below
  rw [rounded_natCast h] at above
  exact abs_le.2 ⟨below, above⟩

theorem isFinite_of_abs_le (hx : x.isNaN = false) (h : |value x| ≤ 2 ^ 53) : x.isFinite = true := by
  have hlt : (2 ^ (53 : ℤ) : ℚ) < huge := zpow_lt_zpow_right₀ one_lt_two (by decide)
  exact isFinite_iff.2 ⟨hx, h.trans_lt (by exact_mod_cast hlt)⟩

theorem IsNearest.whole (hx : IsNearest x n) (h : n.natAbs < 2 ^ 53) :
    x.isFinite = true ∧ value x = n := by
  have hvalue : value x = n := hx.value_eq.trans (rounded_intCast h)
  refine ⟨isFinite_of_abs_le hx.isNaN ?_, hvalue⟩
  rw [hvalue, ← Int.cast_abs, Int.abs_eq_natAbs]
  exact_mod_cast h.le

theorem isNearest_toFloat (k : UInt64) : IsNearest k.toFloat (k.toNat : ℤ) := by
  have hr := (rounds_normalize k.toNat 0 .positive).pack
  rw [zpow_zero, mul_one] at hr
  exact hr

theorem ofNat_eq_mul {k : ℕ} (h : k < 2 ^ 53) :
    Float.ofNat k = k.toUInt64.toFloat * .ofBits 0x3FF0000000000000 := by
  show Float.ofScientific k false 0 = _
  rw [Float.ofScientific, dif_pos ⟨h, by decide⟩]
  rfl

theorem isNearest_ofNat {k : ℕ} (h : k < 2 ^ 53) : IsNearest (Float.ofNat k) (k : ℤ) := by
  have hword : k.toUInt64.toNat = k := UInt64.toNat_ofNat_of_lt' (by simp only [UInt64.size]; omega)
  have hnearest := isNearest_toFloat k.toUInt64
  rw [hword] at hnearest
  obtain ⟨hfinite, hvalue⟩ := hnearest.whole (by omega)
  have one : value (.ofBits 0x3FF0000000000000) = 1 := by decide +kernel
  have hmul := isNearest_mul hfinite (y := .ofBits 0x3FF0000000000000) (by decide +kernel)
  rwa [hvalue, one, mul_one, ← ofNat_eq_mul h] at hmul

theorem value_ofInt (h : n.natAbs < 2 ^ 53) :
    (Float.ofInt n).isFinite = true ∧ value (Float.ofInt n) = n := by
  cases n with
  | ofNat k => exact (isNearest_ofNat h).whole h
  | negSucc k =>
    have hk : k + 1 < 2 ^ 53 := by omega
    obtain ⟨hfinite, hvalue⟩ := (isNearest_ofNat hk).whole (by omega)
    show (-Float.ofNat (k + 1)).isFinite = true ∧ value (-Float.ofNat (k + 1)) = _
    rw [isFinite_neg, value_neg, hvalue]
    exact ⟨hfinite, by simp [Int.negSucc_eq]⟩

end DriveBench.Binary64
