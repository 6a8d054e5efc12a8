import DriveBench.Drive.Random
import DriveBench.Proofs.Numeral.Whole

/-!
# Uniform and normal numbers

The upper 53 bits of a word are a double, and so are they as a fraction of `2 ^
53`. Kept away from zero it has a logarithm, which is not positive.
-/

namespace DriveBench.Generator

open Binary64 (value)

variable {x : Float} {f f' : Functions} {g : Generator}

-- ---------------------------------------------------------------------------
-- Uniform numbers
-- ---------------------------------------------------------------------------

def upper (g : Generator) : ℕ := g.word.toNat / 2 ^ 11

theorem upper_lt (g : Generator) : g.upper < 2 ^ 53 := by
  have hword := g.word.toNat_lt
  unfold upper
  omega

theorem toNat_shiftRight (g : Generator) : (g.word >>> 11).toNat = g.upper := by
  rw [UInt64.toNat_shiftRight, Nat.shiftRight_eq_div_pow]
  rfl

theorem whole_upper (g : Generator) : (g.word >>> 11).toFloat.isFinite = true ∧
    value (g.word >>> 11).toFloat = g.upper := by
  have hlt := g.upper_lt
  have hnearest := Binary64.isNearest_toFloat (g.word >>> 11)
  rw [toNat_shiftRight] at hnearest
  exact_mod_cast hnearest.whole (by omega)

theorem fraction_between (g : Generator) : (0 : ℚ) ≤ g.upper / 2 ^ 53 ∧ (g.upper / 2 ^ 53 : ℚ) < 1 := by
  have hlt : (g.upper : ℚ) < 2 ^ 53 := by exact_mod_cast g.upper_lt
  exact ⟨by positivity, (div_lt_one (by norm_num)).2 hlt⟩

theorem value_uniform (g : Generator) :
    g.uniform.1.isFinite = true ∧ value g.uniform.1 = g.upper / 2 ^ 53 := by
  obtain ⟨finite, hupper⟩ := g.whole_upper
  have hscale : value ((1 : UInt64) <<< 53).toFloat = 2 ^ 53 := by decide +kernel
  have hnearest := Binary64.isNearest_div finite (y := ((1 : UInt64) <<< 53).toFloat)
    (by decide +kernel) (by rw [hscale]; norm_num)
  have hexact := Binary64.rounded_mul_zpow (n := g.upper) (f := -53) (by decide) (by decide)
    (by simpa using g.upper_lt)
  have hvalue : value g.uniform.1 = g.upper / 2 ^ 53 := by
    rw [uniform, hnearest.value_eq, hupper, hscale, div_eq_mul_inv]
    exact_mod_cast hexact
  have hsmall : |value g.uniform.1| ≤ 2 ^ 53 := by
    obtain ⟨nonneg, below⟩ := g.fraction_between
    rw [hvalue, abs_of_nonneg nonneg]
    exact below.le.trans (by norm_num)
  exact ⟨Binary64.isFinite_of_abs_le hnearest.isNaN hsmall, hvalue⟩

theorem uniform_lt_one (g : Generator) : g.uniform.1 < 1 := by
  obtain ⟨finite, hvalue⟩ := g.value_uniform
  refine Binary64.lt_iff.2 ⟨Binary64.isNaN_of_isFinite finite, by decide +kernel, ?_⟩
  rw [hvalue, Binary64.value_one]
  exact g.fraction_between.2

-- ---------------------------------------------------------------------------
-- Normal numbers
-- ---------------------------------------------------------------------------

theorem positive_between (g : Generator) : tiny ≤ g.positive.1 ∧ g.positive.1 < 1 := by
  have number := Binary64.isNaN_of_isFinite g.value_uniform.1
  unfold positive
  dsimp only
  split
  · decide +kernel
  · rename_i hge
    exact ⟨Binary64.le_of_not_lt number (by decide +kernel) hge, g.uniform_lt_one⟩

/-- What is assumed of a logarithm where one is taken. -/
structure IsLogarithmic (log : Float → Float) : Prop where
  finite : ∀ x, tiny ≤ x → x < 1 → (log x).isFinite = true
  nonpos : ∀ x, tiny ≤ x → x < 1 → log x ≤ 0

theorem IsLogarithmic.nonneg {log : Float → Float} (h : IsLogarithmic log) (low : tiny ≤ x)
    (high : x < 1) : 0 ≤ -2 * log x := by
  have hminus : value (-2) = -2 := by decide +kernel
  have hle : value (log x) ≤ 0 := Binary64.value_zero ▸ (Binary64.le_iff.1 (h.nonpos x low high)).2.2
  have hnearest := Binary64.isNearest_mul (x := -2) (by decide +kernel) (h.finite x low high)
  exact hnearest.zero_le (by rw [hminus]; linarith)

theorem isFinite_direction (g : Generator) : (2 * Binary64.pi * g.uniform.1).isFinite = true := by
  obtain ⟨finite, hvalue⟩ := g.value_uniform
  obtain ⟨nonneg, below⟩ := g.fraction_between
  rw [← hvalue] at nonneg below
  have turn : (2 * Binary64.pi).isFinite = true := by decide +kernel
  have hturn : 0 ≤ value (2 * Binary64.pi) := by decide +kernel
  have hnearest := Binary64.isNearest_mul turn finite
  exact Binary64.isFinite_of_value_le hnearest.isNaN turn (hnearest.nonneg (mul_nonneg hturn nonneg))
    (hnearest.le_value (Binary64.isNaN_of_isFinite turn) (mul_le_of_le_one_right hturn below.le))

/-- The same functions, as far as they are defined: logarithms between `tiny` and
one, roots of what is not negative, cosines of numbers. -/
structure Functions.SameOnDomains (f f' : Functions) : Prop where
  log : ∀ x, tiny ≤ x → x < 1 → f.log x = f'.log x
  sqrt : ∀ x, 0 ≤ x → f.sqrt x = f'.sqrt x
  cos : ∀ x, x.isFinite = true → f.cos x = f'.cos x

theorem normalWith_of_same (h : IsLogarithmic f.log) (same : f.SameOnDomains f') (g : Generator)
    (mean deviation : Float) : g.normalWith f mean deviation = g.normalWith f' mean deviation := by
  obtain ⟨low, high⟩ := g.positive_between
  have hlog := same.log _ low high
  have hsqrt := same.sqrt _ (h.nonneg low high)
  have hcos := same.cos _ g.advance.isFinite_direction
  simp only [normalWith, positive_snd, ← hlog, hsqrt, hcos]

/-- Every uniform number is what its bits are of `2 ^ 53`, and less than one. So a
normal number takes two words, the logarithm of a number from `tiny` up to one,
and the root of a number that is not negative: functions that are the same there
give the same number. -/
theorem normal_within_domains (g : Generator) :
    (g.upper < 2 ^ 53 ∧ g.uniform.1.isFinite = true ∧ value g.uniform.1 = g.upper / 2 ^ 53) ∧
      (tiny ≤ g.positive.1 ∧ g.positive.1 < 1) ∧
      (∀ mean deviation, (g.normal mean deviation).2 = g.advanceBy 2) ∧
      ∀ f : Functions, IsLogarithmic f.log → 0 ≤ -2 * f.log g.positive.1 ∧
        ∀ mean deviation,
          g.normalWith f mean deviation =
            (mean + deviation * (f.sqrt (-2 * f.log g.positive.1) *
              f.cos (2 * Binary64.pi * g.advance.uniform.1)), g.advanceBy 2) ∧
          ∀ f', f.SameOnDomains f' →
            g.normalWith f mean deviation = g.normalWith f' mean deviation := by
  obtain ⟨low, high⟩ := g.positive_between
  refine ⟨⟨g.upper_lt, g.value_uniform⟩, ⟨low, high⟩, fun _ _ => rfl, fun f h => ?_⟩
  exact ⟨h.nonneg low high, fun mean deviation =>
    ⟨rfl, fun f' same => normalWith_of_same h same g mean deviation⟩⟩

theorem normal_within_domains_zero :
    let g : Generator := ⟨1, 0, 0, 0⟩
    let log : Float → Float := fun x => if tiny < x then -1e-16 else -34.538776394910684
    let f : Functions := ⟨log, Float.sqrt, Float.cos⟩
    IsLogarithmic log ∧ value g.uniform.1 = 0 ∧ g.positive.1 = tiny ∧
      0 ≤ -2 * f.log g.positive.1 ∧ g.normalWith f 0 1 =
        (0 + 1 * (f.sqrt (-2 * f.log g.positive.1) *
          f.cos (2 * Binary64.pi * g.advance.uniform.1)), g.advanceBy 2) := by
  intro g log f
  have logarithmic : IsLogarithmic log := by
    constructor <;> intro x _ _ <;> dsimp only [log] <;> split <;> decide +kernel
  obtain ⟨-, -, -, domains⟩ := normal_within_domains g
  obtain ⟨nonneg, numbers⟩ := domains f logarithmic
  exact ⟨logarithmic, by decide +kernel, by decide +kernel, nonneg, (numbers 0 1).1⟩

end DriveBench.Generator
