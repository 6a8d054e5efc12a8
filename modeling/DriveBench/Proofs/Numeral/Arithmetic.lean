import DriveBench.Proofs.Numeral.Rounding

/-!
# Sums, differences, products and quotients of doubles

An operation on finite doubles gives the double nearest to the exact result.
-/

namespace DriveBench.Binary64

open Float.Model (UnpackedFloat Format totalExponent)
open Float.Model.UnpackedFloat

variable {x y : Float} {u v : UnpackedFloat} {p q : ℚ}

-- ---------------------------------------------------------------------------
-- Exact results, rounded
-- ---------------------------------------------------------------------------

theorem log2_mul_two_pow {m : ℕ} (hm : 0 < m) (k : ℕ) : (m * 2 ^ k).log2 = m.log2 + k := by
  have hpow : 0 < 2 ^ k := Nat.two_pow_pos k
  rw [Nat.log2_eq_iff (Nat.mul_pos hm hpow).ne', pow_add, pow_succ, pow_add]
  have hlow := Nat.log2_self_le hm.ne'
  have hhigh := Nat.lt_log2_self (n := m)
  rw [pow_succ] at hhigh
  exact ⟨Nat.mul_le_mul_right _ hlow, by nlinarith⟩

theorem shiftLeft_mul_zpow (m : ℕ) {e f : ℤ} (h : f ≤ e) :
    ((m <<< (e - f).toNat : ℕ) * 2 ^ f : ℚ) = m * 2 ^ e := by
  obtain ⟨k, rfl⟩ := Int.le.dest h
  rw [show (f + k - f).toNat = k by omega, Nat.shiftLeft_eq, zpow_add₀ two_ne_zero, zpow_natCast]
  push_cast
  ring

theorem rounds_exact {m : ℕ} {e : ℤ} (sign : Sign) (hm : 0 < m) (fine : e ≤ target m e) :
    Rounds (roundWithAccuracy .binary64 sign m e .exact) (sign.apply m * 2 ^ e) := by
  have h : Extends (.ofMantissaAndAccuracy m .exact) m := rfl
  rw [apply_natCast, mul_assoc]
  exact rounds_withAccuracy sign h (Nat.cast_pos.2 hm) fine

theorem rounds_round {m : ℕ} (sign : Sign) (e : ℤ) (hm : 0 < m) :
    Rounds (UnpackedFloat.round .binary64 sign m e) (sign.apply m * 2 ^ e) := by
  unfold UnpackedFloat.round decreaseExponent
  dsimp only
  rw [targetExponent_eq, Nat.shiftLeft_eq]
  generalize hk : (e - target m e).toNat = k
  have hlog := log2_mul_two_pow hm k
  have fine : e - k ≤ target (m * 2 ^ k) (e - k) := by
    unfold target at hk ⊢
    omega
  have hvalue : (sign.apply m * 2 ^ e : ℚ) = sign.apply (m * 2 ^ k : ℕ) * 2 ^ (e - k) := by
    rw [apply_natCast, apply_natCast sign (m * 2 ^ k), zpow_sub₀ two_ne_zero, zpow_natCast]
    push_cast
    field_simp
  rw [hvalue]
  exact rounds_exact sign (Nat.mul_pos hm (Nat.two_pow_pos k)) fine

theorem rounds_zero (sign : Sign) : Rounds (.zero sign) 0 :=
  ⟨trivial, rfl, by simp [round, nearest]⟩

theorem rounds_normalize (n : ℤ) (e : ℤ) (sign : Sign) :
    Rounds (UnpackedFloat.normalize .binary64 n e sign) (n * 2 ^ e) := by
  unfold UnpackedFloat.normalize
  obtain h | rfl | h := lt_trichotomy n 0
  · have hn : n = Sign.negative.apply (-n).toNat := by
      show n = -((-n).toNat : ℤ)
      omega
    rw [Int.compare_eq_lt.2 h]
    have hr := rounds_round .negative e (show 0 < (-n).toNat by omega)
    rwa [← hn] at hr
  · rw [Int.cast_zero, zero_mul]
    exact rounds_zero sign
  · have hn : n = Sign.positive.apply n.toNat := by
      show n = (n.toNat : ℤ)
      omega
    rw [Int.compare_eq_gt.2 h]
    have hr := rounds_round .positive e (show 0 < n.toNat by omega)
    rwa [← hn] at hr

theorem round_number (hc : Canonical u) : round (number u) = number u := by
  cases u with
  | notANumber | zero s => simp [number, round, nearest]
  | infinity s =>
    have hhuge : round huge = huge := round_two_zpow (by decide)
    cases s <;> simp [round_neg, hhuge]
  | finite s m e hm =>
    refine round_of_lt hc.2.1 ?_
    have hlt : (m : ℤ) < 2 ^ 53 := by exact_mod_cast hc.1
    cases s <;> simpa [Sign.apply] using hlt

theorem rounds_self (hc : Canonical u) (hu : u.isFinite = true) : Rounds u (number u) :=
  ⟨hc, hu, (round_number hc).symm⟩

-- ---------------------------------------------------------------------------
-- Operations
-- ---------------------------------------------------------------------------

theorem apply_shiftLeft (sign : Sign) (m : ℕ) {e f : ℤ} (h : f ≤ e) :
    (sign.apply (m <<< (e - f).toNat : ℕ) * 2 ^ f : ℚ) = sign.apply m * 2 ^ e := by
  rw [apply_natCast, mul_assoc, shiftLeft_mul_zpow m h, ← mul_assoc, ← apply_natCast]

theorem apply_neg (sign : Sign) (n : ℤ) : (-sign).apply n = -sign.apply n := by
  cases sign with
  | negative => exact (neg_neg n).symm
  | positive => rfl

theorem number_neg (u : UnpackedFloat) : number u.neg = -number u := by
  cases u with
  | notANumber | zero s => simp [UnpackedFloat.neg, number]
  | infinity s | finite s m e hm => simp [UnpackedFloat.neg, number, apply_neg]

theorem Canonical.neg (h : Canonical u) : Canonical u.neg := by cases u <;> exact h

theorem Fits.neg (h : Fits u) : Fits u.neg := by cases u <;> exact h

theorem sub_eq_add (u v : UnpackedFloat) : sub .binary64 u v = add .binary64 u v.neg := by
  cases u with
  | notANumber | infinity s | zero s => cases v <;> rfl
  | finite s m e hm =>
    cases v with
    | notANumber | infinity t | zero t => rfl
    | finite t n f hn =>
      have hsum : s.apply (m <<< (e - min e f).toNat : ℕ) - t.apply (n <<< (f - min e f).toNat : ℕ) =
          s.apply (m <<< (e - min e f).toNat : ℕ) + (-t).apply (n <<< (f - min e f).toNat : ℕ) := by
        rw [apply_neg, sub_eq_add_neg]
      exact congrArg (UnpackedFloat.normalize .binary64 · (min e f) .positive) hsum

theorem rounds_add (hc : Canonical u) (hd : Canonical v) (hu : u.isFinite = true)
    (hv : v.isFinite = true) : Rounds (add .binary64 u v) (number u + number v) := by
  cases u with
  | notANumber | infinity s => cases hu
  | zero s =>
    cases v with
    | notANumber | infinity t => cases hv
    | zero t =>
      rw [number_zero, number_zero, add_zero]
      cases s <;> cases t <;> exact rounds_zero _
    | finite t n f hn =>
      rw [number_zero, zero_add]
      exact rounds_self hd rfl
  | finite s m e hm =>
    cases v with
    | notANumber | infinity t => cases hv
    | zero t =>
      rw [number_zero, add_zero]
      exact rounds_self hc rfl
    | finite t n f hn =>
      have hr := rounds_normalize (s.apply (m <<< (e - min e f).toNat : ℕ) +
        t.apply (n <<< (f - min e f).toNat : ℕ)) (min e f) .positive
      rw [Int.cast_add, add_mul, apply_shiftLeft s m (min_le_left e f),
        apply_shiftLeft t n (min_le_right e f)] at hr
      exact hr

theorem rounds_sub (hc : Canonical u) (hd : Canonical v) (hu : u.isFinite = true)
    (hv : v.isFinite = true) : Rounds (sub .binary64 u v) (number u - number v) := by
  have finite : v.neg.isFinite = true := by cases v <;> exact hv
  rw [sub_eq_add, sub_eq_add_neg, ← number_neg]
  exact rounds_add hc hd.neg hu finite

theorem apply_mul (s t : Sign) : (s * t).apply 1 = s.apply 1 * t.apply 1 := by
  cases s <;> cases t <;> rfl

theorem mul_fine {s t : Sign} {m n : ℕ} {e f : ℤ} {hm : 0 < m} {hn : 0 < n}
    (hc : Canonical (.finite s m e hm)) (hd : Canonical (.finite t n f hn)) :
    e + f ≤ target (m * n) (e + f) := by
  obtain ⟨-, mleast, mfull⟩ := hc
  obtain ⟨-, nleast, nfull⟩ := hd
  have hmn := Nat.mul_pos hm hn
  obtain hge | hlt := le_or_gt (2 ^ 52) (m * n)
  · have := (Nat.le_log2 hmn.ne').2 hge
    unfold target
    omega
  · have hm' : m ≤ m * n := Nat.le_mul_of_pos_right m hn
    have hn' : n ≤ m * n := Nat.le_mul_of_pos_left n hm
    unfold target
    omega

theorem rounds_mul (hc : Canonical u) (hd : Canonical v) (hu : u.isFinite = true)
    (hv : v.isFinite = true) : Rounds (mul .binary64 u v) (number u * number v) := by
  cases u with
  | notANumber | infinity s => cases hu
  | zero s =>
    rw [number_zero, zero_mul]
    cases v with
    | notANumber | infinity t => cases hv
    | zero t | finite t n f hn => exact rounds_zero _
  | finite s m e hm =>
    cases v with
    | notANumber | infinity t => cases hv
    | zero t =>
      rw [number_zero, mul_zero]
      exact rounds_zero _
    | finite t n f hn =>
      have hr := rounds_exact (s * t) (Nat.mul_pos hm hn) (mul_fine hc hd)
      have hvalue : (((s * t).apply (m * n : ℕ)) * 2 ^ (e + f) : ℚ) =
          number (.finite s m e hm) * number (.finite t n f hn) := by
        rw [number, number, apply_natCast, apply_natCast s, apply_natCast t, zpow_add₀ two_ne_zero]
        rw [apply_mul]
        push_cast
        ring
      rw [hvalue] at hr
      exact hr

theorem apply_div (s t : Sign) : ((s / t).apply 1 : ℚ) = s.apply 1 / t.apply 1 := by
  cases s <;> cases t <;> decide +kernel

/-- The remainder of a division tells the digits behind the quotient. -/
theorem extends_quotient (m : ℕ) {n : ℕ} (hn : 0 < n) :
    Extends (.ofMantissaAndAccuracy (m / n) (accuracyOfFraction (m % n) n)) (m / n) := by
  have hn' : (0 : ℚ) < n := Nat.cast_pos.2 hn
  have hm : (m : ℚ) = n * (m / n : ℕ) + (m % n : ℕ) := by exact_mod_cast (Nat.div_add_mod m n).symm
  have hsplit : (m / n : ℚ) = (m / n : ℕ) + (m % n : ℕ) / n := by
    rw [div_eq_iff hn'.ne', add_mul, div_mul_cancel₀ _ hn'.ne', mul_comm, ← hm]
  have below : ((m % n : ℕ) / n : ℚ) < 1 := by
    rw [div_lt_one hn']
    exact_mod_cast Nat.mod_lt m hn
  rw [hsplit]
  generalize m / n = k at *
  generalize m % n = r at *
  unfold accuracyOfFraction
  split
  · rename_i hzero
    simp [Extends, ExtendedMantissa.ofMantissaAndAccuracy, hzero]
  · rename_i hne
    have hpos : (0 : ℚ) < r / n := div_pos (Nat.cast_pos.2 (Nat.pos_of_ne_zero hne)) hn'
    obtain h | h | h := lt_trichotomy (2 * r) n
    · have half : (r / n : ℚ) < 1 / 2 := by
        rw [div_lt_div_iff₀ hn' two_pos]
        exact_mod_cast show r * 2 < 1 * n by omega
      rw [Nat.compare_eq_lt.2 h]
      show (k : ℚ) < k + r / n ∧ (k + r / n : ℚ) < k + 1 / 2
      constructor <;> linarith
    · have half : (r / n : ℚ) = 1 / 2 := by
        rw [div_eq_div_iff hn'.ne' two_ne_zero]
        exact_mod_cast show r * 2 = 1 * n by omega
      rw [Nat.compare_eq_eq.2 h]
      show (k + r / n : ℚ) = k + 1 / 2
      rw [half]
    · have half : (1 / 2 : ℚ) < r / n := by
        rw [div_lt_div_iff₀ two_pos hn']
        exact_mod_cast show 1 * n < r * 2 by omega
      rw [Nat.compare_eq_gt.2 h]
      show (k + 1 / 2 : ℚ) < k + r / n ∧ (k + r / n : ℚ) < k + 1
      constructor <;> linarith

theorem div_fine {m n : ℕ} (hm : 0 < m) (hn : 0 < n) (e f : ℤ) :
    let core := divCore .binary64 m e n f
    core.2.1 ≤ target core.1 core.2.1 := by
  intro core
  show core.2.1 ≤ max ((core.1.log2 : ℤ) + core.2.1 - 52) (-1074)
  have haim : core.2.1 ≤ max (totalExponent m e - totalExponent n f - 53) (-1074) := min_le_right _ _
  have hdifference : core.2.1 ≤ e - f := min_le_left _ _
  unfold totalExponent at haim
  -- above the least exponent the dividend is shifted until the quotient has 53 bits
  obtain hmin | hfull := le_or_gt core.2.1 (-1074)
  · omega
  · have hquotient : 2 ^ 52 ≤ core.1 := by
      show 2 ^ 52 ≤ m <<< (e - f - core.2.1).toNat / n
      rw [Nat.le_div_iff_mul_le hn, Nat.shiftLeft_eq]
      calc 2 ^ 52 * n ≤ 2 ^ 52 * 2 ^ (n.log2 + 1) := Nat.mul_le_mul_left _ Nat.lt_log2_self.le
        _ = 2 ^ (53 + n.log2) := by rw [← pow_add]; congr 1; omega
        _ ≤ 2 ^ (m.log2 + (e - f - core.2.1).toNat) := Nat.pow_le_pow_right two_pos (by omega)
        _ = 2 ^ m.log2 * 2 ^ (e - f - core.2.1).toNat := pow_add _ _ _
        _ ≤ m * 2 ^ (e - f - core.2.1).toNat := Nat.mul_le_mul_right _ (Nat.log2_self_le hm.ne')
    have hlog := (Nat.le_log2 (by omega)).2 hquotient
    omega

theorem rounds_div (hu : u.isFinite = true) (hv : v.isFinite = true) (hne : number v ≠ 0) :
    Rounds (div .binary64 u v) (number u / number v) := by
  cases u with
  | notANumber | infinity s => cases hu
  | zero s =>
    rw [number_zero, zero_div]
    cases v with
    | notANumber | infinity t => cases hv
    | zero t => exact absurd rfl hne
    | finite t n f hn => exact rounds_zero _
  | finite s m e hm =>
    cases v with
    | notANumber | infinity t => cases hv
    | zero t => exact absurd rfl hne
    | finite t n f hn =>
      have fine := div_fine hm hn e f
      have hexact : (m <<< (e - f - (divCore .binary64 m e n f).2.1).toNat : ℕ) *
          2 ^ (divCore .binary64 m e n f).2.1 = (m * 2 ^ (e - f) : ℚ) :=
        shiftLeft_mul_zpow m (min_le_left _ _)
      have hpos : 0 < m <<< (e - f - (divCore .binary64 m e n f).2.1).toNat := by
        rw [Nat.shiftLeft_eq]
        exact Nat.mul_pos hm (Nat.two_pow_pos _)
      have hr := rounds_withAccuracy (s / t) (extends_quotient _ hn)
        (div_pos (Nat.cast_pos.2 hpos) (Nat.cast_pos.2 hn)) fine
      rw [div_mul_eq_mul_div, hexact, apply_div] at hr
      have hvalue : number (.finite s m e hm) / number (.finite t n f hn) =
          s.apply 1 / t.apply 1 * (m * 2 ^ (e - f) / n) := by
        rw [number, number, apply_natCast, apply_natCast t, zpow_sub₀ two_ne_zero]
        field_simp
      rw [hvalue]
      exact hr

-- ---------------------------------------------------------------------------
-- Doubles
-- ---------------------------------------------------------------------------

/-- The double nearest to a number. -/
structure IsNearest (x : Float) (q : ℚ) : Prop where
  isNaN : x.isNaN = false
  value_eq : value x = rounded q

theorem Rounds.pack (h : Rounds u q) : IsNearest (pack u) q where
  isNaN := by
    rw [isNaN_pack h.canonical]
    have hfinite := h.finite
    cases u <;> first | rfl | cases hfinite
  value_eq := by rw [value_pack h.canonical, h.number, rounded]

theorem isNearest_value (hx : x.isNaN = false) : IsNearest x (value x) where
  isNaN := hx
  value_eq := by
    have hround : round (value x) = value x := round_number (canonical_unpack x)
    rw [rounded, hround, clamp_of_abs_le (abs_value_le x)]

theorem IsNearest.le (hx : IsNearest x p) (hy : IsNearest y q) (h : p ≤ q) : x ≤ y :=
  le_iff.2 ⟨hx.isNaN, hy.isNaN, by rw [hx.value_eq, hy.value_eq]; exact rounded_mono h⟩

theorem IsNearest.le_value (hx : IsNearest x q) (hy : y.isNaN = false) (h : q ≤ value y) :
    value x ≤ value y :=
  (le_iff.1 (hx.le (isNearest_value hy) h)).2.2

theorem IsNearest.value_le (hx : IsNearest x q) (hy : y.isNaN = false) (h : value y ≤ q) :
    value y ≤ value x :=
  (le_iff.1 ((isNearest_value hy).le hx h)).2.2

theorem value_zero : value 0 = 0 := by decide +kernel

theorem value_one : value 1 = 1 := by decide +kernel

theorem value_half : value 0.5 = 1 / 2 := by decide +kernel

theorem IsNearest.nonneg (hx : IsNearest x q) (h : 0 ≤ q) : 0 ≤ value x :=
  value_zero ▸ hx.value_le (y := 0) (by decide +kernel) (value_zero ▸ h)

theorem zero_le_iff : 0 ≤ x ↔ x.isNaN = false ∧ 0 ≤ value x := by
  rw [le_iff, value_zero]
  exact and_iff_right (by decide +kernel)

theorem lt_zero_iff : x < 0 ↔ x.isNaN = false ∧ value x < 0 := by
  rw [lt_iff, value_zero]
  exact and_congr_right fun _ => and_iff_right (by decide +kernel)

theorem IsNearest.zero_le (hx : IsNearest x q) (h : 0 ≤ q) : 0 ≤ x := zero_le_iff.2 ⟨hx.isNaN, hx.nonneg h⟩

theorem isNearest_sub (hx : x.isFinite = true) (hy : y.isFinite = true) :
    IsNearest (x - y) (value x - value y) :=
  (rounds_sub (canonical_unpack x) (canonical_unpack y) hx hy).pack

theorem isNearest_add (hx : x.isFinite = true) (hy : y.isFinite = true) :
    IsNearest (x + y) (value x + value y) :=
  (rounds_add (canonical_unpack x) (canonical_unpack y) hx hy).pack

theorem isNearest_mul (hx : x.isFinite = true) (hy : y.isFinite = true) :
    IsNearest (x * y) (value x * value y) :=
  (rounds_mul (canonical_unpack x) (canonical_unpack y) hx hy).pack

theorem isNearest_div (hx : x.isFinite = true) (hy : y.isFinite = true) (hne : value y ≠ 0) :
    IsNearest (x / y) (value x / value y) :=
  (rounds_div hx hy hne).pack

theorem sub_le_self (hx : x.isFinite = true) (hy : y.isFinite = true) (h : 0 ≤ value y) :
    x - y ≤ x :=
  (isNearest_sub hx hy).le (isNearest_value (isNaN_of_isFinite hx)) (by linarith)

theorem le_add_self (hx : x.isFinite = true) (hy : y.isFinite = true) (h : 0 ≤ value y) :
    x ≤ x + y :=
  (isNearest_value (isNaN_of_isFinite hx)).le (isNearest_add hx hy) (by linarith)

-- ---------------------------------------------------------------------------
-- Operands of finite results
-- ---------------------------------------------------------------------------

theorem isFinite_of_pack (h : (pack u).isFinite = true) : u.isFinite = true := by
  cases u with
  | notANumber => exact h
  | infinity s => cases s <;> exact h
  | zero s | finite s m e hm => rfl

theorem isFinite_of_sub (h : (x - y).isFinite = true) : x.isFinite = true ∧ y.isFinite = true := by
  have hsub : (sub .binary64 (unpack x) (unpack y)).isFinite = true := isFinite_of_pack h
  show (unpack x).isFinite = true ∧ (unpack y).isFinite = true
  generalize unpack x = u at hsub ⊢
  generalize unpack y = v at hsub ⊢
  cases u with
  | notANumber => cases hsub
  | infinity s =>
    cases v with
    | infinity t => cases s <;> cases t <;> cases hsub
    | notANumber | zero t | finite t n f hn => cases hsub
  | zero s | finite s m e hm =>
    cases v with
    | notANumber | infinity t => cases hsub
    | zero t | finite t n f hn => exact ⟨rfl, rfl⟩

theorem isFinite_of_mul (h : (x * y).isFinite = true) : x.isFinite = true ∧ y.isFinite = true := by
  have hmul : (mul .binary64 (unpack x) (unpack y)).isFinite = true := isFinite_of_pack h
  show (unpack x).isFinite = true ∧ (unpack y).isFinite = true
  generalize unpack x = u at hmul ⊢
  generalize unpack y = v at hmul ⊢
  cases u <;> cases v <;> first | exact ⟨rfl, rfl⟩ | cases hmul

theorem Canonical.abs (h : Canonical u) : Canonical u.abs := by cases u <;> exact h

theorem Fits.abs (h : Fits u) : Fits u.abs := by cases u <;> exact h

theorem unpack_abs (x : Float) : unpack x.abs = (unpack x).abs :=
  unpack_pack (canonical_unpack x).abs (fits_unpack x).abs

theorem isNaN_abs (x : Float) : x.abs.isNaN = x.isNaN := by
  show (unpack x.abs).isNaN = (unpack x).isNaN
  rw [unpack_abs]
  cases unpack x <;> rfl

theorem value_abs (x : Float) : value x.abs = |value x| := by
  rw [value, value, unpack_abs]
  cases unpack x with
  | notANumber | zero s => simp [UnpackedFloat.abs, number]
  | infinity s => cases s <;> simp [UnpackedFloat.abs, abs_of_pos huge_pos]
  | finite s m e hm =>
    have hpos := mul_pos (Nat.cast_pos.2 hm) (two_zpow_pos e)
    cases s <;> simp [UnpackedFloat.abs, abs_of_pos hpos]

theorem isFinite_abs (x : Float) : x.abs.isFinite = x.isFinite := by
  rw [Bool.eq_iff_iff, isFinite_iff, isFinite_iff, isNaN_abs, value_abs, abs_abs]

theorem exists_units (hx : x.isFinite = true) : ∃ n : ℤ, value x = n * 2 ^ (-1074 : ℤ) := by
  have hc := canonical_unpack x
  show ∃ n : ℤ, number (unpack x) = n * 2 ^ (-1074 : ℤ)
  replace hx : (unpack x).isFinite = true := hx
  generalize unpack x = u at hc hx ⊢
  cases u with
  | notANumber | infinity s => cases hx
  | zero s => exact ⟨0, by simp⟩
  | finite s m e hm => exact exists_mul_zpow _ hc.2.1

theorem sub_pos_of_lt (hx : x.isFinite = true) (hy : y.isFinite = true) (h : value y < value x) :
    0 < value (x - y) := by
  obtain ⟨m, hm⟩ := exists_units hx
  obtain ⟨n, hn⟩ := exists_units hy
  have hlt : n < m := by
    rw [hm, hn] at h
    exact Int.cast_lt.1 (lt_of_mul_lt_mul_right h (two_zpow_pos _).le)
  have unit : (2 ^ (-1074 : ℤ) : ℚ) ≤ value x - value y := by
    rw [hm, hn, ← sub_mul]
    refine le_mul_of_one_le_left (two_zpow_pos _).le ?_
    exact_mod_cast show 1 ≤ m - n by omega
  have least : rounded (2 ^ (-1074 : ℤ)) = 2 ^ (-1074 : ℤ) := rounded_two_zpow le_rfl (by decide)
  rw [(isNearest_sub hx hy).value_eq]
  exact (two_zpow_pos (-1074)).trans_le (least ▸ rounded_mono unit)

end DriveBench.Binary64
