import DriveBench.Proofs.Figure.Runs
import DriveBench.Proofs.Numeral.Arithmetic

/-!
# What an axis holds

The hull of a series holds its finite values. An axis goes as far as the hull at
least, since rounding keeps order. Only a span that overflows spoils this, as
infinity has no fraction.
-/

namespace DriveBench

open Binary64 (IsNearest value rounded)

variable {a : Axis} {v share : Float} {values : List Float}

-- ---------------------------------------------------------------------------
-- Hulls
-- ---------------------------------------------------------------------------

namespace Axis

def Holds (a : Axis) (v : Float) : Prop := a.low ≤ v ∧ v ≤ a.high

instance (a : Axis) (v : Float) : Decidable (a.Holds v) := instDecidableAnd

/-- The least and the greatest finite values of a list, and all between them. -/
structure IsHull (values : List Float) (a : Axis) : Prop where
  low : a.low ∈ values ∧ a.low.isFinite = true
  high : a.high ∈ values ∧ a.high.isFinite = true
  holds : ∀ v ∈ values, v.isFinite = true → a.Holds v

theorem hull_concat (values : List Float) (v : Float) : hull (values ++ [v]) = widen (hull values) v := by
  simp [hull]

theorem IsHull.singleton (hv : v.isFinite = true) (gaps : ∀ w ∈ values, w.isFinite = false) :
    IsHull (values ++ [v]) ⟨v, v⟩ := by
  refine ⟨⟨by simp, hv⟩, ⟨by simp, hv⟩, fun w hw hfinite => ?_⟩
  obtain hw | hw := List.mem_append.1 hw
  · exact absurd hfinite (by simp [gaps w hw])
  · obtain rfl := List.mem_singleton.1 hw
    have hle := Binary64.le_refl (Binary64.isNaN_of_isFinite hv)
    exact ⟨hle, hle⟩

theorem IsHull.gap (h : IsHull values a) (hv : v.isFinite = false) : IsHull (values ++ [v]) a := by
  refine ⟨⟨by simp [h.low.1], h.low.2⟩, ⟨by simp [h.high.1], h.high.2⟩, fun w hw hfinite => ?_⟩
  obtain hw | hw := List.mem_append.1 hw
  · exact h.holds w hw hfinite
  · obtain rfl := List.mem_singleton.1 hw
    exact absurd hfinite (by simp [hv])

theorem IsHull.concat (h : IsHull values a) (hv : v.isFinite = true) : IsHull (values ++ [v])
    ⟨if a.low < v then a.low else v, if v < a.high then a.high else v⟩ := by
  have number := Binary64.isNaN_of_isFinite hv
  have lowNumber := Binary64.isNaN_of_isFinite h.low.2
  have highNumber := Binary64.isNaN_of_isFinite h.high.2
  have least : (if a.low < v then a.low else v) ≤ a.low ∧ (if a.low < v then a.low else v) ≤ v := by
    split
    · rename_i hlt
      exact ⟨Binary64.le_refl lowNumber, Binary64.le_of_lt hlt⟩
    · rename_i hlt
      exact ⟨Binary64.le_of_not_lt lowNumber number hlt, Binary64.le_refl number⟩
  have greatest : a.high ≤ (if v < a.high then a.high else v) ∧
      v ≤ (if v < a.high then a.high else v) := by
    split
    · rename_i hlt
      exact ⟨Binary64.le_refl highNumber, Binary64.le_of_lt hlt⟩
    · rename_i hlt
      exact ⟨Binary64.le_of_not_lt number highNumber hlt, Binary64.le_refl number⟩
  refine ⟨?_, ?_, fun w hw hfinite => ?_⟩
  · show (if a.low < v then a.low else v) ∈ _ ∧ _
    split
    · exact ⟨List.mem_append_left _ h.low.1, h.low.2⟩
    · exact ⟨by simp, hv⟩
  · show (if v < a.high then a.high else v) ∈ _ ∧ _
    split
    · exact ⟨List.mem_append_left _ h.high.1, h.high.2⟩
    · exact ⟨by simp, hv⟩
  · obtain hw | hw := List.mem_append.1 hw
    · obtain ⟨hlow, hhigh⟩ := h.holds w hw hfinite
      exact ⟨Binary64.le_trans least.1 hlow, Binary64.le_trans hhigh greatest.1⟩
    · obtain rfl := List.mem_singleton.1 hw
      exact ⟨least.2, greatest.2⟩

theorem hull_cases (values : List Float) :
    hull values = none ∧ (∀ v ∈ values, v.isFinite = false) ∨
      ∃ a, hull values = some a ∧ IsHull values a := by
  induction values using List.reverseRecOn with
  | nil => exact .inl ⟨rfl, by simp⟩
  | append_singleton values v ih =>
    rw [hull_concat]
    obtain ⟨hnone, gaps⟩ | ⟨a, hsome, hhull⟩ := ih
    · rw [hnone]
      unfold widen
      split
      · rename_i hv
        exact .inr ⟨⟨v, v⟩, rfl, .singleton hv gaps⟩
      · rename_i hv
        exact .inl ⟨rfl, by simpa [or_imp, forall_and, hv] using gaps⟩
    · rw [hsome]
      unfold widen
      split
      · rename_i hv
        exact .inr ⟨_, rfl, hhull.concat hv⟩
      · rename_i hv
        exact .inr ⟨a, rfl, hhull.gap (by simpa using hv)⟩

-- ---------------------------------------------------------------------------
-- Room
-- ---------------------------------------------------------------------------

structure IsFraction (share : Float) : Prop where
  finite : share.isFinite = true
  nonneg : 0 ≤ value share
  le_one : value share ≤ 1

theorem isFraction_zero : IsFraction 0 := by constructor <;> decide +kernel

theorem isFraction_room : IsFraction Figure.room := by constructor <;> decide +kernel

theorem share_of_span {span : Float} (hspan : span.isFinite = true) (nonneg : 0 ≤ value span)
    (hpart : IsFraction share) : (span * share).isFinite = true ∧ 0 ≤ value (span * share) := by
  have hnearest := Binary64.isNearest_mul hspan hpart.finite
  have hnonneg : 0 ≤ value (span * share) := hnearest.nonneg (mul_nonneg nonneg hpart.nonneg)
  have hle : value (span * share) ≤ value span :=
    hnearest.le_value (Binary64.isNaN_of_isFinite hspan) (mul_le_of_le_one_right nonneg hpart.le_one)
  exact ⟨Binary64.isFinite_of_value_le hnearest.isNaN hspan hnonneg hle, hnonneg⟩

theorem IsHull.low_le_high (h : IsHull values a) : a.low ≤ a.high := (h.holds _ h.low.1 h.low.2).2

theorem IsHull.span_nonneg (h : IsHull values a) : 0 ≤ value (a.high - a.low) := by
  have hle := (Binary64.le_iff.1 h.low_le_high).2.2
  exact (Binary64.isNearest_sub h.high.2 h.low.2).nonneg (sub_nonneg.2 hle)

theorem IsHull.within_around (h : IsHull values a) (fits : (a.high - a.low).isFinite = true)
    (hpart : IsFraction share) :
    (around (some a) share).low ≤ a.low ∧ a.high ≤ (around (some a) share).high := by
  have half : (0.5 : Float).isFinite = true := by decide +kernel
  have beyond {pad : Float} (finite : pad.isFinite = true) (nonneg : 0 ≤ value pad) :
      a.low - pad ≤ a.low ∧ a.high ≤ a.high + pad :=
    ⟨Binary64.sub_le_self h.low.2 finite nonneg, Binary64.le_add_self h.high.2 finite nonneg⟩
  unfold around
  dsimp only
  split
  · exact beyond half (by rw [Binary64.value_half]; norm_num)
  · obtain ⟨finite, nonneg⟩ := share_of_span fits h.span_nonneg hpart
    exact beyond finite nonneg

/-- The span of the finite values is finite as well. -/
def SpanFits (values : List Float) : Prop :=
  ∀ a ∈ hull values, (a.high - a.low).isFinite = true

instance (values : List Float) : Decidable (SpanFits values) :=
  inferInstanceAs (Decidable (∀ a ∈ hull values, _))

theorem around_holds (fits : SpanFits values) (hpart : IsFraction share) (hv : v ∈ values)
    (finite : v.isFinite = true) : (around (hull values) share).Holds v := by
  obtain ⟨-, gaps⟩ | ⟨a, hsome, hhull⟩ := hull_cases values
  · exact absurd finite (by simp [gaps v hv])
  · obtain ⟨hlow, hhigh⟩ := hhull.within_around (fits a hsome) hpart
    obtain ⟨above, below⟩ := hhull.holds v hv finite
    rw [hsome]
    exact ⟨Binary64.le_trans hlow above, Binary64.le_trans below hhigh⟩

end Axis

-- ---------------------------------------------------------------------------
-- Traces
-- ---------------------------------------------------------------------------

theorem Trace.mem_ofSeries {x y : List Float} {run : List Point} {p : Point}
    (hrun : run ∈ ofSeries x y) (hp : p ∈ run) :
    (p.1 ∈ x ∧ p.1.isFinite = true) ∧ p.2 ∈ y ∧ p.2.isFinite = true := by
  have hmem : p ∈ (ofSeries x y).flatten := List.mem_flatten.2 ⟨run, hrun, hp⟩
  rw [ofSeries, (cuts_ofPoints _).flatten, List.mem_filter, Point.isFinite, Bool.and_eq_true] at hmem
  obtain ⟨hzip, hx, hy⟩ := hmem
  exact ⟨⟨(List.of_mem_zip hzip).1, hx⟩, (List.of_mem_zip hzip).2, hy⟩

namespace Figure

/-- Every point that is drawn lies in the box of its axes. -/
theorem trace_inside_axes (recording : Recording) (fields : List String) (timeColumn xLabel : String)
    (width height i : Nat) (field : String) (colour : Colour)
    (xfits : Axis.SpanFits (recording.series timeColumn))
    (yfits : Axis.SpanFits (recording.series field)) :
    let panel := (ofRecording recording fields timeColumn xLabel).panel recording width height i
      field colour
    panel.xAxis = Axis.around (Axis.hull (recording.series timeColumn)) 0 ∧
      panel.yAxis = Axis.around (Axis.hull (recording.series field)) room ∧
      ∀ run ∈ panel.trace, ∀ p ∈ run, panel.xAxis.Holds p.1 ∧ panel.yAxis.Holds p.2 := by
  refine ⟨rfl, rfl, fun run hrun p hp => ?_⟩
  obtain ⟨⟨hx, xfinite⟩, hy, yfinite⟩ := Trace.mem_ofSeries hrun hp
  exact ⟨Axis.around_holds xfits Axis.isFraction_zero hx xfinite,
    Axis.around_holds yfits Axis.isFraction_room hy yfinite⟩

theorem trace_inside_axes_four_samples :
    let r : Recording := ⟨⟨["time", "id"], [.ofCells [("time", 0), ("id", 8e307)],
      .ofCells [("time", 1e-13), ("id", -8e307)], .ofCells [("time", 2e-13)], .ofCells [("id", 1)]]⟩, "a"⟩
    let panel := (ofRecording r ["id"] "time" "time [s]").panel r 800 250 0 "id" ⟨0, 0, 0⟩
    Axis.SpanFits (r.series "time") ∧ Axis.SpanFits (r.series "id") ∧
      panel.trace = [[(0, 8e307), (1e-13, -8e307)]] ∧
      ∀ run ∈ panel.trace, ∀ p ∈ run, panel.xAxis.Holds p.1 ∧ panel.yAxis.Holds p.2 := by
  intro r panel
  have xfits : Axis.SpanFits (r.series "time") := by decide +kernel
  have yfits : Axis.SpanFits (r.series "id") := by decide +kernel
  exact ⟨xfits, yfits, by decide +kernel,
    (trace_inside_axes r ["id"] "time" "time [s]" 800 250 0 "id" ⟨0, 0, 0⟩ xfits yfits).2.2⟩

end Figure

end DriveBench
