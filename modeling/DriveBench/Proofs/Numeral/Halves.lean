import DriveBench.Proofs.Numeral.Arithmetic

/-!
# Half a unit more or less

Half a unit taken from a double and added to it gives two doubles, unless the
double is an even whole number beyond `2 ^ 52`. There the grid has no halves.
-/

namespace DriveBench.Binary64

variable {x y : Float} {v h q : ℚ} {n : ℤ}

/-- An even whole number that is too great for halves. -/
def Unmoved (v : ℚ) : Prop := (∃ n : ℤ, v = 2 * n) ∧ 2 ^ 52 < |v|

-- ---------------------------------------------------------------------------
-- Integers
-- ---------------------------------------------------------------------------

theorem nearest_add_of_lt (n : ℤ) (nonneg : 0 ≤ h) (small : h < 1 / 2) : nearest (n + h) = n := by
  have hfloor : ⌊(n + h : ℚ)⌋ = n := by
    rw [Int.floor_eq_iff]
    constructor <;> linarith
  rw [nearest, hfloor, if_pos (by linarith)]

theorem nearest_sub_of_lt (n : ℤ) (nonneg : 0 ≤ h) (small : h < 1 / 2) : nearest (n - h) = n := by
  have hneg := nearest_add_of_lt (-n) nonneg small
  rw [show ((-n : ℤ) + h : ℚ) = -(n - h) by push_cast; ring, nearest_neg] at hneg
  omega

theorem nearest_add_half (n : ℤ) : nearest (n + 1 / 2) = n + n % 2 := by
  have hfloor : ⌊(n + 1 / 2 : ℚ)⌋ = n := by
    rw [Int.floor_eq_iff]
    constructor <;> linarith
  rw [nearest, hfloor, if_neg (by linarith), if_neg (by linarith)]

theorem nearest_sub_half (n : ℤ) : nearest (n - 1 / 2) = n - n % 2 := by
  have hneg := nearest_add_half (-n)
  rw [show ((-n : ℤ) + 1 / 2 : ℚ) = -(n - 1 / 2) by push_cast; ring, nearest_neg] at hneg
  omega

-- ---------------------------------------------------------------------------
-- Numbers that halves do not move
-- ---------------------------------------------------------------------------

theorem nearest_step {g : ℤ} (nonneg : 0 ≤ g) (even : g = 0 → n % 2 = 0) :
    nearest (n + 1 / 2 / 2 ^ g) = n ∧ nearest (n - 1 / 2 / 2 ^ g) = n := by
  obtain rfl | hpos := nonneg.eq_or_lt
  · rw [zpow_zero, div_one, nearest_add_half, nearest_sub_half, even rfl]
    omega
  · have hsmall : (1 / 2 / 2 ^ g : ℚ) < 1 / 2 :=
      div_lt_self (by norm_num) (one_lt_zpow₀ one_lt_two hpos)
    have hnonneg : (0 : ℚ) ≤ 1 / 2 / 2 ^ g := div_nonneg (by norm_num) (two_zpow_pos g).le
    exact ⟨nearest_add_of_lt n hnonneg hsmall, nearest_sub_of_lt n hnonneg hsmall⟩

theorem grid_nonneg (large : 2 ^ 52 ≤ q) : 0 ≤ grid q := by
  have hpos : 0 < q := lt_of_lt_of_le (by norm_num) large
  have hlog : 52 ≤ Int.log 2 q := by
    refine (Int.zpow_le_iff_le_log one_lt_two hpos).1 ?_
    exact_mod_cast large
  rw [grid_of_pos hpos]
  omega

theorem exists_point {g : ℤ} (hv : round v = v) (fine : g ≤ grid v) : ∃ n : ℤ, v = n * 2 ^ g := by
  obtain ⟨n, hn⟩ := exists_mul_zpow (nearest (v / 2 ^ grid v)) fine
  exact ⟨n, hv.symm.trans hn⟩

theorem exists_even_point {g : ℤ} (hv : round v = v) (fine : g ≤ grid v) (even : v = 2 * n) :
    ∃ k : ℤ, v = k * 2 ^ g ∧ (g = 0 → k % 2 = 0) := by
  obtain ⟨k, hk⟩ := exists_point hv fine
  refine ⟨k, hk, fun hzero => ?_⟩
  rw [hzero, zpow_zero, mul_one, even] at hk
  have hint : 2 * n = k := by exact_mod_cast hk
  omega

theorem grid_add_half (large : 2 ^ 52 ≤ v) (whole : v = n) : grid (v + 1 / 2) ≤ grid v := by
  have hpos : 0 < v := lt_of_lt_of_le (by norm_num) large
  have hgrid := grid_nonneg large
  rw [grid_of_pos hpos] at hgrid
  obtain ⟨l, hl⟩ := Int.eq_ofNat_of_zero_le (show 0 ≤ Int.log 2 v + 1 by omega)
  have hlt : v < 2 ^ (l : ℤ) := hl ▸ Int.lt_zpow_succ_log_self one_lt_two v
  rw [zpow_natCast, whole] at hlt
  have hle : n + 1 ≤ 2 ^ l := by exact_mod_cast hlt
  have hle' : v + 1 ≤ 2 ^ l := by
    rw [whole]
    exact_mod_cast hle
  have hlog : Int.log 2 (v + 1 / 2) < l := by
    refine (Int.lt_zpow_iff_log_lt one_lt_two (by linarith)).1 ?_
    rw [Nat.cast_ofNat, zpow_natCast]
    linarith
  rw [grid_of_pos hpos, grid_of_pos (by linarith)]
  omega

theorem round_add_half (hv : round v = v) (large : 2 ^ 52 < v) (even : v = 2 * n) :
    round (v + 1 / 2) = v := by
  have whole : v = (2 * n : ℤ) := by exact_mod_cast even
  have hgrid := grid_nonneg (q := v + 1 / 2) (by linarith)
  obtain ⟨k, hk, heven⟩ := exists_even_point hv (grid_add_half large.le whole) even
  rw [round, add_div, (div_eq_iff (two_zpow_pos _).ne').2 hk, (nearest_step hgrid heven).1, ← hk]

theorem round_sub_half (hv : round v = v) (large : 2 ^ 52 < v) (even : v = 2 * n) :
    round (v - 1 / 2) = v := by
  have whole : v = (2 * n : ℤ) := by exact_mod_cast even
  have hlarge : 2 ^ 52 + 1 ≤ v := by
    rw [whole] at large ⊢
    exact_mod_cast large
  have hgrid := grid_nonneg (q := v - 1 / 2) (by linarith)
  have fine : grid (v - 1 / 2) ≤ grid v := grid_mono (by linarith) (by linarith)
  obtain ⟨k, hk, heven⟩ := exists_even_point hv fine even
  rw [round, sub_div, (div_eq_iff (two_zpow_pos _).ne').2 hk, (nearest_step hgrid heven).2, ← hk]

theorem Unmoved.neg (h : Unmoved v) : Unmoved (-v) := by
  obtain ⟨⟨n, hn⟩, large⟩ := h
  exact ⟨⟨-n, by push_cast; linarith⟩, by rwa [abs_neg]⟩

theorem Unmoved.round (h : Unmoved v) (hv : round v = v) :
    round (v - 1 / 2) = v ∧ round (v + 1 / 2) = v := by
  obtain hpos | hneg := le_total 0 v
  · obtain ⟨⟨n, hn⟩, large⟩ := h
    rw [abs_of_nonneg hpos] at large
    exact ⟨round_sub_half hv large hn, round_add_half hv large hn⟩
  · obtain ⟨⟨n, hn⟩, large⟩ := h.neg
    rw [abs_of_nonneg (neg_nonneg.2 hneg)] at large
    have hv' : Binary64.round (-v) = -v := by rw [round_neg, hv]
    have hsub := round_sub_half hv' large hn
    have hadd := round_add_half hv' large hn
    rw [← neg_add', round_neg, neg_inj] at hsub
    rw [show -v + 1 / 2 = -(v - 1 / 2) by ring, round_neg, neg_inj] at hadd
    exact ⟨hadd, hsub⟩

-- ---------------------------------------------------------------------------
-- Numbers that halves move
-- ---------------------------------------------------------------------------

theorem grid_le_neg_one (small : |q| < 2 ^ 52) : grid q ≤ -1 := by
  obtain rfl | hne := eq_or_ne q 0
  · simp [grid]
  · exact grid_le_of_abs_lt (by decide) hne (by exact_mod_cast small)

theorem round_sub_half_lt (nonneg : 0 ≤ v) (small : v ≤ 2 ^ 52) : round (v - 1 / 2) < v := by
  have hgrid : grid (v - 1 / 2) ≤ -1 := by
    refine grid_le_neg_one (abs_lt.2 ⟨?_, by linarith⟩)
    have : (1 : ℚ) ≤ 2 ^ 52 := by norm_num
    linarith
  have below : v - 1 / 2 ≤ (⌈2 * v⌉ - 1 : ℤ) * 2 ^ (-1 : ℤ) := by
    rw [zpow_neg_one]
    push_cast
    linarith [Int.le_ceil (2 * v)]
  have above : ((⌈2 * v⌉ - 1 : ℤ) * 2 ^ (-1 : ℤ) : ℚ) < v := by
    rw [zpow_neg_one]
    push_cast
    linarith [Int.ceil_lt_add_one (2 * v)]
  exact (round_le_mul_zpow hgrid below).trans_lt above

/-- Where the grid has no halves, an odd number is left for the even one. -/
theorem lt_round_add_half (hv : round v = v) (large : 2 ^ 52 < v) (odd : ∀ n : ℤ, v ≠ 2 * n) :
    v < round (v + 1 / 2) := by
  have hnonneg := grid_nonneg large.le
  have hfine : grid v = 0 := by
    by_contra hne
    obtain ⟨n, hn⟩ := exists_point hv (show 1 ≤ grid v by omega)
    exact odd n (by rw [hn, zpow_one, mul_comm])
  obtain ⟨n, hn⟩ := exists_point hv hfine.ge
  rw [zpow_zero, mul_one] at hn
  have hgrid : grid (v + 1 / 2) = 0 :=
    le_antisymm (hfine ▸ grid_add_half large.le hn) (grid_nonneg (by linarith))
  have hodd : n % 2 = 1 := by
    by_contra heven
    refine odd (n / 2) ?_
    rw [hn]
    exact_mod_cast show n = 2 * (n / 2) by omega
  rw [round, hgrid, zpow_zero, div_one, mul_one, hn, nearest_add_half, hodd]
  push_cast
  linarith

theorem round_sub_half_le (hv : round v = v) : round (v - 1 / 2) ≤ v := hv ▸ round_mono (by linarith)

theorem le_round_add_half (hv : round v = v) : v ≤ round (v + 1 / 2) := by
  conv_lhs => rw [← hv]
  exact round_mono (by linarith)

theorem round_lt_of_nonneg (hv : round v = v) (moved : ¬ Unmoved v) (nonneg : 0 ≤ v) :
    round (v - 1 / 2) < round (v + 1 / 2) := by
  obtain small | large := le_or_gt v (2 ^ 52)
  · exact (round_sub_half_lt nonneg small).trans_le (le_round_add_half hv)
  · refine (round_sub_half_le hv).trans_lt (lt_round_add_half hv large fun n hn => moved ⟨⟨n, hn⟩, ?_⟩)
    rwa [abs_of_nonneg nonneg]

theorem round_lt_iff (hv : round v = v) : round (v - 1 / 2) < round (v + 1 / 2) ↔ ¬ Unmoved v := by
  constructor
  · intro hlt unmoved
    obtain ⟨hsub, hadd⟩ := unmoved.round hv
    rw [hsub, hadd] at hlt
    exact lt_irrefl v hlt
  · intro moved
    obtain hpos | hneg := le_total 0 v
    · exact round_lt_of_nonneg hv moved hpos
    · have hlt := round_lt_of_nonneg (v := -v) (by rw [round_neg, hv])
        (fun h => moved (neg_neg v ▸ h.neg)) (neg_nonneg.2 hneg)
      rw [← neg_add', show -v + 1 / 2 = -(v - 1 / 2) by ring, round_neg, round_neg] at hlt
      linarith

-- ---------------------------------------------------------------------------
-- Doubles
-- ---------------------------------------------------------------------------

theorem sub_half_lt_add_half_iff (hx : x.isFinite = true) (hy : y.isFinite = true)
    (same : value x = value y) : x - 0.5 < y + 0.5 ↔ ¬ Unmoved (value x) := by
  have half : (0.5 : Float).isFinite = true := by decide +kernel
  have hsub := isNearest_sub hx half
  have hadd := isNearest_add hy half
  rw [value_half] at hsub hadd
  rw [← same] at hadd
  have hv : round (value x) = value x := round_number (canonical_unpack x)
  rw [lt_iff, hsub.value_eq, hadd.value_eq, ← round_lt_iff hv, rounded, rounded,
    clamp_lt_clamp_iff (round_sub_half_le hv) (le_round_add_half hv) (isFinite_iff.1 hx).2]
  exact ⟨fun h => h.2.2, fun h => ⟨hsub.isNaN, hadd.isNaN, h⟩⟩

end DriveBench.Binary64
