import Mathlib
import DriveBench.Numeral.Binary64
import DriveBench.Proofs.Numeral.Nearest

/-!
# The order of doubles

Doubles are ordered as the numbers that they stand for. The comparison looks at
exponents first, which is right because an unpacked double is in canonical form.
-/

namespace DriveBench.Binary64

open Float.Model (UnpackedFloat Format)
open Float.Model.UnpackedFloat

variable {x y z : Float} {u v : UnpackedFloat}

def number : UnpackedFloat → ℚ
  | .finite sign m e _ => sign.apply m * 2 ^ e
  | .infinity sign => sign.apply 1 * huge
  | .zero _ | .notANumber => 0

@[simp] theorem number_zero (s : Sign) : number (.zero s) = 0 := rfl

@[simp] theorem number_infinity_positive : number (.infinity .positive) = huge := by
  simp [number, Sign.apply]

@[simp] theorem number_infinity_negative : number (.infinity .negative) = -huge := by
  simp [number, Sign.apply]

@[simp] theorem number_finite_positive {m : ℕ} {e : ℤ} {hm : 0 < m} :
    number (.finite .positive m e hm) = m * 2 ^ e := by
  simp [number, Sign.apply]

@[simp] theorem number_finite_negative {m : ℕ} {e : ℤ} {hm : 0 < m} :
    number (.finite .negative m e hm) = -(m * 2 ^ e) := by
  simp [number, Sign.apply]

/-- The number that a double stands for. -/
def value (x : Float) : ℚ := number (unpack x)

/-- The mantissa is full unless the exponent is the least. -/
def Canonical : UnpackedFloat → Prop
  | .finite _ m e _ => m < 2 ^ 53 ∧ -1074 ≤ e ∧ (2 ^ 52 ≤ m ∨ e = -1074)
  | _ => True

def Fits : UnpackedFloat → Prop
  | .finite _ _ e _ => e ≤ 971
  | _ => True

-- ---------------------------------------------------------------------------
-- Packed and unpacked
-- ---------------------------------------------------------------------------

theorem toNat_implicit (m : BitVec 52) : (1#1 ++ m).toNat = 2 ^ 52 + m.toNat := by
  rw [BitVec.toNat_append, ← Nat.shiftLeft_add_eq_or_of_lt m.isLt]
  rfl

def ofFields (sign : Sign) (e : BitVec 11) (m : BitVec 52) : UnpackedFloat :=
  if e = BitVec.allOnes 11 then
    if m = 0#52 then .infinity sign else .notANumber
  else if e = 0#11 then
    if h : m = 0#52 then .zero sign
    else .finite sign m.toNat (-1074) (by simpa [BitVec.toNat_pos, BitVec.pos_iff_ne_zero] using h)
  else .finite sign (2 ^ 52 + m.toNat) (e.toNat - 1075) (by omega)

theorem unpack_eq_ofFields (bits : BitVec 64) : UnpackedFloat.unpack .binary64 bits =
    ofFields (.ofBitVec (@unpackSign .binary64 bits)) (@unpackExponent .binary64 bits)
      (@unpackMantissa .binary64 bits) := by
  unfold UnpackedFloat.unpack ofFields
  dsimp only
  rw [BitVec.neg_one_eq_allOnes]
  split
  · rfl
  · split
    · rename_i hzero
      simp [hzero, Format.exponentBias]
    · simp only [toNat_implicit]
      rfl

theorem canonical_ofFields (sign : Sign) (e : BitVec 11) (m : BitVec 52) :
    Canonical (ofFields sign e m) ∧ Fits (ofFields sign e m) := by
  have hm := m.isLt
  have he := e.isLt
  unfold ofFields
  split
  · split <;> exact ⟨trivial, trivial⟩
  · rename_i hones
    have hfits : e.toNat ≠ 2047 := fun h => hones (BitVec.eq_of_toNat_eq h)
    split
    · split
      · exact ⟨trivial, trivial⟩
      · exact ⟨⟨by omega, le_rfl, .inr rfl⟩, show (-1074 : ℤ) ≤ 971 by decide⟩
    · rename_i hzero
      have hpos : e.toNat ≠ 0 := fun h => hzero (BitVec.eq_of_toNat_eq h)
      exact ⟨⟨by omega, by omega, .inl (by omega)⟩, by simp only [Fits]; omega⟩

theorem canonical_unpack (x : Float) : Canonical (unpack x) :=
  (unpack_eq_ofFields _ ▸ canonical_ofFields _ _ _).1

theorem fits_unpack (x : Float) : Fits (unpack x) :=
  (unpack_eq_ofFields _ ▸ canonical_ofFields _ _ _).2

theorem unpack_packComponents (sign : Sign) (e : BitVec 11) (m : BitVec 52) :
    UnpackedFloat.unpack .binary64 (packComponents .binary64 sign e m) = ofFields sign e m := by
  rw [unpack_eq_ofFields, unpackSign_packComponents, Sign.ofBitVec_toBitVec,
    unpackExponent_packComponents, unpackMantissa_packComponents]

theorem unpack_pack_of_overflow {sign : Sign} {m : ℕ} {e : ℤ} {hm : 0 < m} (h : 971 < e) :
    unpack (pack (.finite sign m e hm)) = .infinity sign := by
  have biased : 2 ^ 11 ≤ (e + (1023 : ℕ) + (52 : ℕ)).toNat + 1 := by omega
  have packed : UnpackedFloat.pack .binary64 (.finite sign m e hm) = packedInfinity .binary64 sign :=
    if_pos biased
  show UnpackedFloat.unpack .binary64 (UnpackedFloat.pack .binary64 (.finite sign m e hm)) = _
  rw [packed]
  exact unpack_packComponents sign _ _

theorem unpack_pack_normal {sign : Sign} {m : ℕ} {e : ℤ} {hm : 0 < m} (full : 2 ^ 52 ≤ m)
    (below : m < 2 ^ 53) (least : -1074 ≤ e) (fits : e ≤ 971) :
    unpack (pack (.finite sign m e hm)) = .finite sign m e hm := by
  have hlog : m.log2 + 1 = 53 := by rw [(Nat.log2_eq_iff hm.ne').2 ⟨full, below⟩]
  have biased : ¬ 2 ^ 11 ≤ (e + (1023 : ℕ) + (52 : ℕ)).toNat + 1 := by omega
  have packed : UnpackedFloat.pack .binary64 (.finite sign m e hm) = packComponents .binary64 sign
      (BitVec.ofNat 11 (e + (1023 : ℕ) + (52 : ℕ)).toNat) (BitVec.ofNat 52 m) := by
    rw [UnpackedFloat.pack]
    exact (if_neg biased).trans (if_pos hlog)
  show UnpackedFloat.unpack .binary64 (UnpackedFloat.pack .binary64 (.finite sign m e hm)) = _
  rw [packed, unpack_packComponents]
  have hexponent : (BitVec.ofNat 11 (e + (1023 : ℕ) + (52 : ℕ)).toNat).toNat = (e + 1075).toNat := by
    rw [BitVec.toNat_ofNat, Nat.mod_eq_of_lt (by omega)]
    omega
  have hmantissa : 2 ^ 52 + (BitVec.ofNat 52 m).toNat = m := by
    rw [BitVec.toNat_ofNat]
    omega
  have hones : BitVec.ofNat 11 (e + (1023 : ℕ) + (52 : ℕ)).toNat ≠ BitVec.allOnes 11 := by
    rw [← BitVec.toNat_ne_iff_ne, hexponent, BitVec.toNat_allOnes]
    omega
  have hzero : BitVec.ofNat 11 (e + (1023 : ℕ) + (52 : ℕ)).toNat ≠ 0#11 := by
    rw [← BitVec.toNat_ne_iff_ne, hexponent, BitVec.toNat_zero]
    omega
  rw [ofFields, if_neg hones, if_neg hzero]
  simp only [hmantissa, hexponent, UnpackedFloat.finite.injEq, true_and]
  omega

theorem unpack_pack_subnormal {sign : Sign} {m : ℕ} {hm : 0 < m} (below : m < 2 ^ 52) :
    unpack (pack (.finite sign m (-1074) hm)) = .finite sign m (-1074) hm := by
  have hlog : ¬ m.log2 + 1 = 53 := by
    have := (Nat.log2_lt hm.ne').2 below
    omega
  have packed : UnpackedFloat.pack .binary64 (.finite sign m (-1074) hm) = packComponents .binary64 sign
      0#11 (BitVec.ofNat 52 m) := by
    rw [UnpackedFloat.pack]
    exact (if_neg (by decide)).trans (if_neg hlog)
  show UnpackedFloat.unpack .binary64 (UnpackedFloat.pack .binary64 (.finite sign m (-1074) hm)) = _
  rw [packed, unpack_packComponents]
  have hmantissa : (BitVec.ofNat 52 m).toNat = m := by
    rw [BitVec.toNat_ofNat, Nat.mod_eq_of_lt below]
  have hne : BitVec.ofNat 52 m ≠ 0#52 := by
    rw [← BitVec.toNat_ne_iff_ne, hmantissa, BitVec.toNat_zero]
    omega
  rw [ofFields, if_neg (by decide), if_pos rfl, dif_neg hne]
  simp only [hmantissa]

theorem unpack_pack (hc : Canonical u) (hf : Fits u) : unpack (pack u) = u := by
  cases u with
  | notANumber => rfl
  | infinity sign => exact unpack_packComponents sign _ _
  | zero sign => exact unpack_packComponents sign _ _
  | finite sign m e hm =>
    obtain ⟨below, least, full⟩ := hc
    obtain hlt | hge := Nat.lt_or_ge m (2 ^ 52)
    · obtain rfl := full.resolve_left (by omega)
      exact unpack_pack_subnormal hlt
    · exact unpack_pack_normal hge below least hf

-- ---------------------------------------------------------------------------
-- Order
-- ---------------------------------------------------------------------------

theorem magnitude_lt_huge {m : ℕ} {e : ℤ} (below : m < 2 ^ 53) (fits : e ≤ 971) :
    (m * 2 ^ e : ℚ) < huge := by
  calc (m * 2 ^ e : ℚ) < 2 ^ (53 : ℤ) * 2 ^ e :=
        mul_lt_mul_of_pos_right (by exact_mod_cast below) (two_zpow_pos e)
    _ = 2 ^ (53 + e) := (zpow_add₀ two_ne_zero _ _).symm
    _ ≤ huge := zpow_le_zpow_right₀ one_le_two (by omega)

theorem magnitude_lt_of_exponent_lt {m n : ℕ} {e f : ℤ} (below : m < 2 ^ 53) (full : 2 ^ 52 ≤ n)
    (h : e < f) : (m * 2 ^ e : ℚ) < n * 2 ^ f := by
  calc (m * 2 ^ e : ℚ) < 2 ^ (53 : ℤ) * 2 ^ e :=
        mul_lt_mul_of_pos_right (by exact_mod_cast below) (two_zpow_pos e)
    _ = 2 ^ (53 + e) := (zpow_add₀ two_ne_zero _ _).symm
    _ ≤ 2 ^ (52 + f) := zpow_le_zpow_right₀ one_le_two (by omega)
    _ = 2 ^ (52 : ℤ) * 2 ^ f := zpow_add₀ two_ne_zero _ _
    _ ≤ n * 2 ^ f := mul_le_mul_of_nonneg_right (by exact_mod_cast full) (two_zpow_pos f).le

theorem compare_magnitudes {m n : ℕ} {e f : ℤ} {s t : Sign} {hm : 0 < m} {hn : 0 < n}
    (hc : Canonical (.finite s m e hm)) (hd : Canonical (.finite t n f hn)) :
    (compare e f).then (compare m n) = compare (m * 2 ^ e : ℚ) (n * 2 ^ f) := by
  obtain ⟨mbelow, mleast, mfull⟩ := hc
  obtain ⟨nbelow, nleast, nfull⟩ := hd
  obtain hlt | rfl | hgt := lt_trichotomy e f
  · rw [compare_lt_iff_lt.2 hlt, compare_lt_iff_lt.2 (magnitude_lt_of_exponent_lt mbelow
      (nfull.resolve_right (by omega)) hlt)]
    rfl
  · rw [compare_eq_iff_eq.2 rfl]
    obtain hlt | rfl | hgt := lt_trichotomy m n
    · rw [compare_lt_iff_lt.2 hlt, compare_lt_iff_lt.2
        (mul_lt_mul_of_pos_right (Nat.cast_lt.2 hlt) (two_zpow_pos e))]
      rfl
    · rw [compare_eq_iff_eq.2 rfl, compare_eq_iff_eq.2 rfl]
      rfl
    · rw [compare_gt_iff_gt.2 hgt, compare_gt_iff_gt.2
        (mul_lt_mul_of_pos_right (Nat.cast_lt.2 hgt) (two_zpow_pos e))]
      rfl
  · rw [compare_gt_iff_gt.2 hgt, compare_gt_iff_gt.2 (magnitude_lt_of_exponent_lt nbelow
      (mfull.resolve_right (by omega)) hgt)]
    rfl

theorem compare_neg_neg (p q : ℚ) : compare (-p) (-q) = (compare p q).swap := by
  obtain h | rfl | h := lt_trichotomy p q
  · rw [compare_lt_iff_lt.2 h, compare_gt_iff_gt.2 (neg_lt_neg h)]
    rfl
  · rw [compare_eq_iff_eq.2 rfl, compare_eq_iff_eq.2 rfl]
    rfl
  · rw [compare_gt_iff_gt.2 h, compare_lt_iff_lt.2 (neg_lt_neg h)]
    rfl

theorem some_lt {p q : ℚ} (h : p < q) : some Ordering.lt = some (compare p q) := by
  rw [compare_lt_iff_lt.2 h]

theorem some_gt {p q : ℚ} (h : q < p) : some Ordering.gt = some (compare p q) := by
  rw [compare_gt_iff_gt.2 h]

theorem some_eq (p : ℚ) : some Ordering.eq = some (compare p p) := by rw [compare_eq_iff_eq.2 rfl]

theorem compare_infinity (s : Sign) (hv : v.isNaN = false) (hd : Canonical v) (hg : Fits v) :
    (UnpackedFloat.infinity s).compare v = some (compare (number (.infinity s)) (number v)) := by
  have hhuge := huge_pos
  cases v with
  | notANumber => cases hv
  | infinity t =>
    cases s <;> cases t <;> simp only [number_infinity_positive, number_infinity_negative]
    exacts [some_eq _, some_lt (by linarith), some_gt (by linarith), some_eq _]
  | zero t =>
    cases s <;> simp only [number_infinity_positive, number_infinity_negative, number_zero]
    exacts [some_lt (by linarith), some_gt (by linarith)]
  | finite t n f hn =>
    have hpos := mul_pos (Nat.cast_pos.2 hn) (two_zpow_pos f)
    have hlt := magnitude_lt_huge hd.1 hg
    cases s <;> cases t <;> simp only [number_infinity_positive, number_infinity_negative,
      number_finite_positive, number_finite_negative]
    exacts [some_lt (by linarith), some_lt (by linarith), some_gt (by linarith), some_gt (by linarith)]

theorem compare_zero (s : Sign) (hv : v.isNaN = false) :
    (UnpackedFloat.zero s).compare v = some (compare (number (.zero s)) (number v)) := by
  have hhuge := huge_pos
  cases v with
  | notANumber => cases hv
  | infinity t =>
    cases t <;> simp only [number_infinity_positive, number_infinity_negative, number_zero]
    exacts [some_gt (by linarith), some_lt (by linarith)]
  | zero t => exact some_eq 0
  | finite t n f hn =>
    have hpos := mul_pos (Nat.cast_pos.2 hn) (two_zpow_pos f)
    cases t <;> simp only [number_finite_positive, number_finite_negative, number_zero]
    exacts [some_gt (by linarith), some_lt (by linarith)]

theorem compare_finite {s : Sign} {m : ℕ} {e : ℤ} {hm : 0 < m} (hv : v.isNaN = false)
    (hc : Canonical (.finite s m e hm)) (hd : Canonical v) (hf : Fits (.finite s m e hm)) :
    (UnpackedFloat.finite s m e hm).compare v =
      some (compare (number (.finite s m e hm)) (number v)) := by
  have hpos := mul_pos (Nat.cast_pos.2 hm) (two_zpow_pos e)
  cases v with
  | notANumber => cases hv
  | infinity t =>
    have hlt := magnitude_lt_huge hc.1 hf
    cases s <;> cases t <;> simp only [number_infinity_positive, number_infinity_negative,
      number_finite_positive, number_finite_negative]
    exacts [some_gt (by linarith), some_lt (by linarith), some_gt (by linarith), some_lt (by linarith)]
  | zero t =>
    cases s <;> simp only [number_finite_positive, number_finite_negative, number_zero]
    exacts [some_lt (by linarith), some_gt (by linarith)]
  | finite t n f hn =>
    have hpos' := mul_pos (Nat.cast_pos.2 hn) (two_zpow_pos f)
    have both := compare_magnitudes hc hd
    cases s <;> cases t <;> simp only [number_finite_positive, number_finite_negative]
    · rw [UnpackedFloat.compare, both, compare_neg_neg]
    · exact some_lt (by linarith)
    · exact some_gt (by linarith)
    · rw [UnpackedFloat.compare, both]

theorem compare_eq_some (hu : u.isNaN = false) (hv : v.isNaN = false) (hc : Canonical u)
    (hd : Canonical v) (hf : Fits u) (hg : Fits v) :
    u.compare v = some (compare (number u) (number v)) := by
  cases u with
  | notANumber => cases hu
  | infinity s => exact compare_infinity s hv hd hg
  | zero s => exact compare_zero s hv
  | finite s m e hm => exact compare_finite hv hc hd hf

theorem isNaN_of_compare {o : Ordering} (h : u.compare v = some o) :
    u.isNaN = false ∧ v.isNaN = false := by
  cases u <;> cases v <;> first | exact ⟨rfl, rfl⟩ | cases h

theorem compare_unpack (hx : x.isNaN = false) (hy : y.isNaN = false) :
    (unpack x).compare (unpack y) = some (compare (value x) (value y)) :=
  compare_eq_some hx hy (canonical_unpack x) (canonical_unpack y) (fits_unpack x) (fits_unpack y)

theorem le_iff_compare : x ≤ y ↔ ((unpack x).compare (unpack y)).any (·.isLE) = true := by
  show decide (x.toModel ≤ y.toModel) = true ↔ _
  rw [decide_eq_true_iff]
  rfl

theorem lt_iff_compare : x < y ↔ (unpack x).compare (unpack y) = some .lt := by
  show decide (x.toModel < y.toModel) = true ↔ _
  rw [decide_eq_true_iff, ← beq_iff_eq]
  rfl

theorem beq_iff_compare : (x == y) = true ↔ (unpack x).compare (unpack y) = some .eq := by
  show ((unpack x).compare (unpack y) == some .eq) = true ↔ _
  exact beq_iff_eq

theorem le_iff : x ≤ y ↔ x.isNaN = false ∧ y.isNaN = false ∧ value x ≤ value y := by
  rw [le_iff_compare]
  constructor
  · intro h
    obtain ⟨o, ho, hle⟩ := (Option.any_eq_true _ _).1 h
    obtain ⟨hx, hy⟩ := isNaN_of_compare ho
    rw [compare_unpack hx hy, Option.some.injEq] at ho
    rw [← ho, ← Ordering.ne_gt_iff_isLE] at hle
    exact ⟨hx, hy, compare_le_iff_le.1 hle⟩
  · rintro ⟨hx, hy, h⟩
    rw [compare_unpack hx hy]
    exact Ordering.ne_gt_iff_isLE.1 (compare_le_iff_le.2 h)

theorem lt_iff : x < y ↔ x.isNaN = false ∧ y.isNaN = false ∧ value x < value y := by
  rw [lt_iff_compare]
  constructor
  · intro h
    obtain ⟨hx, hy⟩ := isNaN_of_compare h
    rw [compare_unpack hx hy, Option.some.injEq, compare_lt_iff_lt] at h
    exact ⟨hx, hy, h⟩
  · rintro ⟨hx, hy, h⟩
    rw [compare_unpack hx hy, compare_lt_iff_lt.2 h]

theorem beq_iff : (x == y) = true ↔ x.isNaN = false ∧ y.isNaN = false ∧ value x = value y := by
  rw [beq_iff_compare]
  constructor
  · intro h
    obtain ⟨hx, hy⟩ := isNaN_of_compare h
    rw [compare_unpack hx hy, Option.some.injEq, compare_eq_iff_eq] at h
    exact ⟨hx, hy, h⟩
  · rintro ⟨hx, hy, h⟩
    rw [compare_unpack hx hy, compare_eq_iff_eq.2 h]

theorem abs_number_le (hc : Canonical u) (hf : Fits u) : |number u| ≤ huge := by
  have hhuge := huge_pos
  cases u with
  | notANumber | zero s => simp [number, hhuge.le]
  | infinity s => cases s <;> simp [abs_of_pos hhuge]
  | finite s m e hm =>
    have hpos := mul_pos (Nat.cast_pos.2 hm) (two_zpow_pos e)
    have hlt := magnitude_lt_huge hc.1 hf
    cases s <;> simp [abs_of_pos hpos, hlt.le]

theorem abs_value_le (x : Float) : |value x| ≤ huge :=
  abs_number_le (canonical_unpack x) (fits_unpack x)

theorem isFinite_iff : x.isFinite = true ↔ x.isNaN = false ∧ |value x| < huge := by
  show (unpack x).isFinite = true ↔ (unpack x).isNaN = false ∧ |number (unpack x)| < huge
  have hc := canonical_unpack x
  have hf := fits_unpack x
  have hhuge := huge_pos
  generalize unpack x = u at hc hf ⊢
  cases u with
  | notANumber => simp [UnpackedFloat.isFinite, UnpackedFloat.isNaN]
  | infinity s => cases s <;> simp [UnpackedFloat.isFinite, abs_of_pos hhuge]
  | zero s => simp [UnpackedFloat.isFinite, UnpackedFloat.isNaN, hhuge]
  | finite s m e hm =>
    have hpos := mul_pos (Nat.cast_pos.2 hm) (two_zpow_pos e)
    have hlt := magnitude_lt_huge hc.1 hf
    cases s <;> simp [UnpackedFloat.isFinite, UnpackedFloat.isNaN, abs_of_pos hpos, hlt]

theorem isFinite_of_value_le (hx : x.isNaN = false) (hy : y.isFinite = true) (nonneg : 0 ≤ value x)
    (h : value x ≤ value y) : x.isFinite = true := by
  have hlt := (isFinite_iff.1 hy).2
  rw [abs_of_nonneg (nonneg.trans h)] at hlt
  exact isFinite_iff.2 ⟨hx, (abs_of_nonneg nonneg).trans_lt (h.trans_lt hlt)⟩

theorem isNaN_of_isFinite (h : x.isFinite = true) : x.isNaN = false := (isFinite_iff.1 h).1

theorem isInf_of_isFinite (h : x.isFinite = true) : x.isInf = false := by
  replace h : (unpack x).isFinite = true := h
  show (unpack x).isInf = false
  generalize unpack x = u at h ⊢
  cases u <;> first | rfl | cases h

protected theorem le_refl (h : x.isNaN = false) : x ≤ x := le_iff.2 ⟨h, h, le_rfl⟩

protected theorem le_trans (hxy : x ≤ y) (hyz : y ≤ z) : x ≤ z := by
  obtain ⟨hx, -, h⟩ := le_iff.1 hxy
  obtain ⟨-, hz, h'⟩ := le_iff.1 hyz
  exact le_iff.2 ⟨hx, hz, h.trans h'⟩

protected theorem le_of_lt (h : x < y) : x ≤ y := by
  obtain ⟨hx, hy, hlt⟩ := lt_iff.1 h
  exact le_iff.2 ⟨hx, hy, hlt.le⟩

protected theorem lt_of_le_of_lt (hxy : x ≤ y) (hyz : y < z) : x < z := by
  obtain ⟨hx, -, h⟩ := le_iff.1 hxy
  obtain ⟨-, hz, h'⟩ := lt_iff.1 hyz
  exact lt_iff.2 ⟨hx, hz, h.trans_lt h'⟩

protected theorem lt_of_lt_of_le (hxy : x < y) (hyz : y ≤ z) : x < z := by
  obtain ⟨hx, -, h⟩ := lt_iff.1 hxy
  obtain ⟨-, hz, h'⟩ := le_iff.1 hyz
  exact lt_iff.2 ⟨hx, hz, h.trans_le h'⟩

theorem beq_of_le_of_le (hxy : x ≤ y) (hyx : y ≤ x) : (x == y) = true := by
  obtain ⟨hx, hy, hle⟩ := le_iff.1 hxy
  obtain ⟨-, -, hge⟩ := le_iff.1 hyx
  exact beq_iff.2 ⟨hx, hy, le_antisymm hle hge⟩

protected theorem le_of_not_lt (hx : x.isNaN = false) (hy : y.isNaN = false) (h : ¬ x < y) : y ≤ x :=
  le_iff.2 ⟨hy, hx, le_of_not_gt fun hlt => h (lt_iff.2 ⟨hx, hy, hlt⟩)⟩

-- ---------------------------------------------------------------------------
-- Overflow
-- ---------------------------------------------------------------------------

/-- A double that is too great for its form becomes an infinity. -/
theorem unpack_pack_cases (hc : Canonical u) : unpack (pack u) = u ∧ |number u| ≤ huge ∨
    ∃ sign m e hm, u = .finite sign m e hm ∧ huge ≤ (m * 2 ^ e : ℚ) ∧
      unpack (pack u) = .infinity sign := by
  by_cases hf : Fits u
  · exact .inl ⟨unpack_pack hc hf, abs_number_le hc hf⟩
  · cases u with
    | notANumber | infinity s | zero s => exact absurd trivial hf
    | finite s m e hm =>
      have hover : 971 < e := lt_of_not_ge hf
      have full : 2 ^ 52 ≤ m := hc.2.2.resolve_right (by omega)
      refine .inr ⟨s, m, e, hm, rfl, ?_, unpack_pack_of_overflow hover⟩
      calc huge ≤ 2 ^ (52 + e) := zpow_le_zpow_right₀ one_le_two (by omega)
        _ = 2 ^ (52 : ℤ) * 2 ^ e := zpow_add₀ two_ne_zero _ _
        _ ≤ m * 2 ^ e := mul_le_mul_of_nonneg_right (by exact_mod_cast full) (two_zpow_pos e).le

theorem isNaN_pack (hc : Canonical u) : (pack u).isNaN = u.isNaN := by
  show (unpack (pack u)).isNaN = u.isNaN
  obtain ⟨h, -⟩ | ⟨s, m, e, hm, rfl, -, h⟩ := unpack_pack_cases hc
  · rw [h]
  · rw [h]
    rfl

theorem value_pack (hc : Canonical u) : value (pack u) = clamp (number u) := by
  rw [value]
  obtain ⟨h, hle⟩ | ⟨s, m, e, hm, rfl, hge, h⟩ := unpack_pack_cases hc
  · rw [h, clamp_of_abs_le hle]
  · rw [h]
    cases s
    · rw [number_infinity_negative, number_finite_negative, clamp_of_le_neg_huge (by linarith)]
    · rw [number_infinity_positive, number_finite_positive, clamp_of_huge_le hge]

end DriveBench.Binary64
