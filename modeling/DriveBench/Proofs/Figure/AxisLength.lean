import DriveBench.Proofs.Figure.Containment
import DriveBench.Proofs.Numeral.Halves

/-!
# The length of an axis

An axis whose length is finite has two finite ends. They differ unless the
values are one and the same even whole number beyond `2 ^ 52`: half a unit is
then too little to leave it.
-/

namespace DriveBench.Axis

open Binary64 (IsNearest Unmoved value)

variable {a : Axis} {v share : Float} {values : List Float}

/-- All finite values are one number, which half a unit does not lead away from. -/
def Stuck (values : List Float) : Prop :=
  ∃ q, Unmoved q ∧ ∀ v ∈ values, v.isFinite = true → value v = q

theorem IsHull.stuck_iff (h : IsHull values a) :
    Stuck values ↔ value a.low = value a.high ∧ Unmoved (value a.low) := by
  constructor
  · rintro ⟨q, unmoved, all⟩
    have hlow := all a.low h.low.1 h.low.2
    have hhigh := all a.high h.high.1 h.high.2
    exact ⟨hlow.trans hhigh.symm, hlow ▸ unmoved⟩
  · rintro ⟨flat, unmoved⟩
    refine ⟨value a.low, unmoved, fun v hv finite => ?_⟩
    obtain ⟨above, below⟩ := h.holds v hv finite
    have hlow := (Binary64.le_iff.1 above).2.2
    have hhigh := (Binary64.le_iff.1 below).2.2
    exact le_antisymm (flat ▸ hhigh) hlow

-- ---------------------------------------------------------------------------
-- Spans
-- ---------------------------------------------------------------------------

theorem IsHull.isNearest_span (h : IsHull values a) :
    IsNearest (a.high - a.low) (value a.high - value a.low) :=
  Binary64.isNearest_sub h.high.2 h.low.2

theorem IsHull.span_fits_of_narrow (h : IsHull values a) (hnarrow : (a.high - a.low).abs < narrow) :
    (a.high - a.low).isFinite = true := by
  have hlt := (Binary64.lt_iff.1 hnarrow).2.2
  have hsmall : value narrow < Binary64.huge := by decide +kernel
  rw [Binary64.value_abs] at hlt
  exact Binary64.isFinite_iff.2 ⟨h.isNearest_span.isNaN, hlt.trans hsmall⟩

theorem IsHull.narrow_of_flat (h : IsHull values a) (flat : value a.low = value a.high) :
    (a.high - a.low).abs < narrow := by
  have hzero : value (a.high - a.low) = 0 := by
    rw [h.isNearest_span.value_eq, flat, sub_self]
    decide +kernel
  have hnarrow : 0 < value narrow := by decide +kernel
  refine Binary64.lt_iff.2 ⟨?_, by decide +kernel, ?_⟩
  · rw [Binary64.isNaN_abs, h.isNearest_span.isNaN]
  · rwa [Binary64.value_abs, hzero, abs_zero]

theorem IsHull.span_fits (h : IsHull values a)
    (fits : ((around (some a) share).high - (around (some a) share).low).isFinite = true) :
    (a.high - a.low).isFinite = true := by
  obtain ⟨-, hlow⟩ := Binary64.isFinite_of_sub fits
  unfold around at hlow
  dsimp only at hlow
  split at hlow
  · rename_i hnarrow
    exact h.span_fits_of_narrow hnarrow
  · exact (Binary64.isFinite_of_mul (Binary64.isFinite_of_sub hlow).2).1

theorem spanFits_of_around
    (fits : ((around (hull values) share).high - (around (hull values) share).low).isFinite = true) :
    SpanFits values := by
  intro a hsome
  obtain ⟨hnone, -⟩ | ⟨b, hb, hhull⟩ := hull_cases values
  · rw [hnone] at hsome
    cases hsome
  · obtain rfl := Option.some.inj (hb.symm.trans hsome)
    rw [hb] at fits
    exact hhull.span_fits fits

-- ---------------------------------------------------------------------------
-- Lengths
-- ---------------------------------------------------------------------------

theorem IsHull.around_lt_iff (h : IsHull values a) (fits : (a.high - a.low).isFinite = true)
    (hpart : IsFraction share) :
    (around (some a) share).low < (around (some a) share).high ↔ ¬ Stuck values := by
  obtain ⟨hlow, hhigh⟩ := h.within_around fits hpart
  rw [h.stuck_iff]
  obtain flat | hlt := (Binary64.le_iff.1 h.low_le_high).2.2.eq_or_lt
  · rw [around, if_pos (h.narrow_of_flat flat)]
    simp [Binary64.sub_half_lt_add_half_iff h.low.2 h.high.2 flat, flat]
  · have proper : a.low < a.high := Binary64.lt_iff.2
      ⟨Binary64.isNaN_of_isFinite h.low.2, Binary64.isNaN_of_isFinite h.high.2, hlt⟩
    exact iff_of_true (Binary64.lt_of_le_of_lt hlow (Binary64.lt_of_lt_of_le proper hhigh))
      fun stuck => hlt.ne stuck.1

theorem Holds.part (h : a.Holds v) (fits : (a.high - a.low).isFinite = true)
    (hv : v.isFinite = true) : (v - a.low).isFinite = true ∧ 0 ≤ value (v - a.low) ∧
      value (v - a.low) ≤ value (a.high - a.low) := by
  obtain ⟨high, low⟩ := Binary64.isFinite_of_sub fits
  have above := (Binary64.le_iff.1 h.1).2.2
  have below := (Binary64.le_iff.1 h.2).2.2
  have part := Binary64.isNearest_sub hv low
  have whole := Binary64.isNearest_sub high low
  have hpart : 0 ≤ value (v - a.low) := part.nonneg (by linarith)
  have hle : value (v - a.low) ≤ value (a.high - a.low) :=
    (Binary64.le_iff.1 (part.le whole (by linarith))).2.2
  exact ⟨Binary64.isFinite_of_value_le part.isNaN fits hpart hle, hpart, hle⟩

theorem span_pos (proper : a.low < a.high) (fits : (a.high - a.low).isFinite = true) :
    0 < value (a.high - a.low) := by
  obtain ⟨high, low⟩ := Binary64.isFinite_of_sub fits
  exact Binary64.sub_pos_of_lt high low (Binary64.lt_iff.1 proper).2.2

theorem Holds.fraction (h : a.Holds v) (proper : a.low < a.high)
    (fits : (a.high - a.low).isFinite = true) (hv : v.isFinite = true) :
    0 ≤ (v - a.low) / (a.high - a.low) ∧ (v - a.low) / (a.high - a.low) ≤ 1 := by
  obtain ⟨finite, hpart, hle⟩ := h.part fits hv
  have hwhole := span_pos proper fits
  have quotient := Binary64.isNearest_div finite fits hwhole.ne'
  constructor
  · refine (Binary64.isNearest_value (by decide +kernel)).le quotient ?_
    rw [Binary64.value_zero]
    exact div_nonneg hpart hwhole.le
  · refine quotient.le (Binary64.isNearest_value (by decide +kernel)) ?_
    rw [Binary64.value_one]
    exact (div_le_one hwhole).2 hle

/-- An axis of finite length has two ends, unless its values are stuck, and all of
them are on the way from one to the other. -/
theorem around_hull_proper (values : List Float) (share : Float)
    (padding : share = 0 ∨ share = Figure.room) (present : ∃ v ∈ values, v.isFinite = true)
    (fits : ((around (hull values) share).high - (around (hull values) share).low).isFinite = true) :
    let axis := around (hull values) share
    axis.low.isFinite = true ∧ axis.high.isFinite = true ∧
      (axis.low < axis.high ↔ ¬ Stuck values) ∧
      (axis.low < axis.high → ∀ v ∈ values, v.isFinite = true → axis.Holds v ∧
        0 ≤ (v - axis.low) / (axis.high - axis.low) ∧ (v - axis.low) / (axis.high - axis.low) ≤ 1) := by
  have hpart : IsFraction share := by
    obtain rfl | rfl := padding
    · exact isFraction_zero
    · exact isFraction_room
  obtain ⟨-, gaps⟩ | ⟨a, hsome, hhull⟩ := hull_cases values
  · obtain ⟨v, hv, finite⟩ := present
    exact absurd finite (by simp [gaps v hv])
  · have ends := Binary64.isFinite_of_sub fits
    have span := spanFits_of_around fits
    refine ⟨ends.2, ends.1, ?_, fun proper v hv finite => ?_⟩
    · rw [hsome]
      exact hhull.around_lt_iff (span a hsome) hpart
    · have holds := around_holds span hpart hv finite
      exact ⟨holds, holds.fraction proper fits finite⟩

theorem around_hull_proper_two_values :
    let values : List Float := [.ofBits 0x4340000000000000, Binary64.nan, .ofBits 0x433fffffffffffff]
    let axis := around (hull values) Figure.room
    axis.low < axis.high ∧ ∀ v ∈ values, v.isFinite = true → axis.Holds v ∧
      0 ≤ (v - axis.low) / (axis.high - axis.low) ∧ (v - axis.low) / (axis.high - axis.low) ≤ 1 := by
  intro values axis
  obtain ⟨-, -, -, fractions⟩ := around_hull_proper values Figure.room (.inr rfl)
    ⟨_, List.mem_cons_self, by decide +kernel⟩ (by decide +kernel)
  have proper : axis.low < axis.high := by decide +kernel
  exact ⟨proper, fractions proper⟩

/-- Equal values at `2 ^ 53` have an axis of no length, and opposite extremes one
whose ends are no numbers. -/
theorem axis_without_length :
    let same : List Float := [.ofBits 0x4340000000000000, .ofBits 0x4340000000000000]
    let extremes : List Float := [.ofBits 0xffefffffffffffff, .ofBits 0x7fefffffffffffff]
    (∀ v ∈ same ++ extremes, v.isFinite = true) ∧
      ¬ (around (hull same) 0).low < (around (hull same) 0).high ∧
      ¬ (around (hull same) Figure.room).low < (around (hull same) Figure.room).high ∧
      (around (hull extremes) 0).low.isNaN = true ∧
      (around (hull extremes) Figure.room).low.isInf = true := by
  decide +kernel

end DriveBench.Axis
