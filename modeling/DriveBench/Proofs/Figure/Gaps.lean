import DriveBench.Figure.Drawing
import Mathlib.Data.List.Forall2

/-!
# Gaps in a figure

A cell without a value, NaN and the two infinities all leave the same gap. So
two recordings that differ only in how they spell their gaps have the same
figure, to the pixel.
-/

namespace DriveBench

inductive ShownAlike (shown : α → Bool) : α → α → Prop
  | same (ha : shown a = true) : ShownAlike shown a a
  | hidden (ha : shown a = false) (hb : shown b = false) : ShownAlike shown a b

theorem shownAlike_iff {shown : α → Bool} :
    ShownAlike shown a b ↔ shown a = true ∧ a = b ∨ shown a = false ∧ shown b = false := by
  constructor
  · rintro (ha | ⟨ha, hb⟩)
    · exact .inl ⟨ha, rfl⟩
    · exact .inr ⟨ha, hb⟩
  · rintro (⟨ha, rfl⟩ | ⟨ha, hb⟩)
    · exact .same ha
    · exact .hidden ha hb

instance [DecidableEq α] (shown : α → Bool) (a b : α) : Decidable (ShownAlike shown a b) :=
  decidable_of_iff _ shownAlike_iff.symm

theorem filter_of_shownAlike {shown : α → Bool} (h : List.Forall₂ (ShownAlike shown) as bs) :
    as.filter shown = bs.filter shown := by
  induction h with
  | nil => rfl
  | cons hab _ ih =>
    cases hab with
    | same ha => rw [List.filter_cons_of_pos ha, List.filter_cons_of_pos ha, ih]
    | hidden ha hb =>
      rw [List.filter_cons_of_neg (by simp [ha]), List.filter_cons_of_neg (by simp [hb]), ih]

-- ---------------------------------------------------------------------------
-- Axes and traces
-- ---------------------------------------------------------------------------

theorem Axis.hull_filter (values : List Float) : hull (values.filter Float.isFinite) = hull values := by
  unfold hull
  rw [List.foldl_filter]
  congr 1
  funext hull value
  unfold widen
  split <;> simp_all

theorem Axis.hull_of_shownAlike (h : List.Forall₂ (ShownAlike Float.isFinite) values others) :
    hull values = hull others := by
  rw [← hull_filter values, ← hull_filter others, filter_of_shownAlike h]

theorem shownAlike_zip (hx : List.Forall₂ (ShownAlike Float.isFinite) xs xs')
    (hy : List.Forall₂ (ShownAlike Float.isFinite) ys ys') :
    List.Forall₂ (ShownAlike Point.isFinite) (xs.zip ys) (xs'.zip ys') := by
  induction hx generalizing ys ys' with
  | nil => exact .nil
  | cons hx _ ih =>
    cases hy with
    | nil => exact .nil
    | cons hy hys =>
      refine .cons ?_ (ih hys)
      cases hx with
      | hidden hx hx' => exact .hidden (by simp [Point.isFinite, hx]) (by simp [Point.isFinite, hx'])
      | same hx =>
        cases hy with
        | hidden hy hy' => exact .hidden (by simp [Point.isFinite, hy]) (by simp [Point.isFinite, hy'])
        | same hy => exact .same (by simp [Point.isFinite, hx, hy])

theorem Trace.extend_of_shownAlike (h : List.Forall₂ (ShownAlike Point.isFinite) points others)
    (current : List Point) : extend current points = extend current others := by
  induction h generalizing current with
  | nil => rfl
  | cons hp _ ih =>
    cases hp with
    | same hp => simp only [extend, hp, if_true, ih]
    | hidden hp hq => simp only [extend, hp, hq, Bool.false_eq_true, if_false, ih]

-- ---------------------------------------------------------------------------
-- Figures
-- ---------------------------------------------------------------------------

/-- Samples whose cells in some columns have the same finite values, and gaps of
any kind in the same places. -/
def Sample.AlikeIn (columns : List String) (s t : Sample) : Prop :=
  ∀ column ∈ columns, ShownAlike (Option.any Float.isFinite) (s.get? column) (t.get? column)

instance (columns : List String) (s t : Sample) : Decidable (s.AlikeIn columns t) :=
  List.decidableBAll _ _

theorem isFinite_getD (s : Sample) (name : String) :
    (s.getD name).isFinite = (s.get? name).any Float.isFinite := by
  have hnan : Binary64.nan.isFinite = false := by decide +kernel
  rw [Sample.getD]
  cases s.get? name with
  | none => exact hnan
  | some value => rfl

theorem Sample.AlikeIn.getD {columns : List String} {s t : Sample} (h : s.AlikeIn columns t)
    (listed : column ∈ columns) : ShownAlike Float.isFinite (s.getD column) (t.getD column) := by
  obtain ⟨hs, heq⟩ | ⟨hs, ht⟩ := shownAlike_iff.1 (h column listed)
  · rw [← isFinite_getD] at hs
    rw [Sample.getD, Sample.getD, ← heq, ← Sample.getD]
    exact .same hs
  · exact .hidden ((isFinite_getD s column).trans hs) ((isFinite_getD t column).trans ht)

theorem Recording.series_alike {columns : List String} {r other : Recording}
    (alike : List.Forall₂ (Sample.AlikeIn columns) r.samples other.samples)
    (listed : column ∈ columns) :
    List.Forall₂ (ShownAlike Float.isFinite) (r.series column) (other.series column) := by
  rw [series, series, List.forall₂_map_left_iff, List.forall₂_map_right_iff]
  exact alike.imp fun _ _ h => h.getD listed

namespace Figure

/-- Recordings of one length that differ only in what kinds of gaps are in the
columns of a figure have the same axes and traces, and so the same pixels. -/
theorem panels_of_alike {r other : Recording} {timeColumn : String} {fields : List String}
    (alike : List.Forall₂ (Sample.AlikeIn (timeColumn :: fields)) r.samples other.samples)
    (xLabel otherLabel : String) (width height : Nat) :
    let figure := ofRecording r fields timeColumn xLabel
    let figure' := ofRecording other fields timeColumn otherLabel
    Axis.around (Axis.hull figure.x) 0 = Axis.around (Axis.hull figure'.x) 0 ∧
      figure.panels r width height = figure'.panels other width height ∧
      figure.draw r width height = figure'.draw other width height := by
  intro figure figure'
  have time : List.Forall₂ (ShownAlike Float.isFinite) figure.x figure'.x :=
    Recording.series_alike alike List.mem_cons_self
  have xAxis := Axis.hull_of_shownAlike time
  have panel : ∀ field ∈ fields, ∀ i colour, figure.panel r width height i field colour =
      figure'.panel other width height i field colour := by
    intro field hfield i colour
    have values := Recording.series_alike alike (List.mem_cons_of_mem timeColumn hfield)
    have trace := Trace.extend_of_shownAlike (shownAlike_zip time values) []
    simp only [Figure.panel, xAxis, Axis.hull_of_shownAlike values, Trace.ofSeries, Trace.ofPoints, trace]
    rfl
  have panels : figure.panels r width height = figure'.panels other width height := by
    refine List.mapIdx_eq_mapIdx_iff.2 fun i hi => ?_
    exact panel _ (List.of_mem_zip (List.getElem_mem hi)).1 i _
  refine ⟨by rw [xAxis], panels, ?_⟩
  rw [draw, panels, ← draw]

theorem panels_of_alike_three_samples :
    let infinite : Float := .ofBits 0x7FF0000000000000
    let r : Recording := ⟨⟨["time", "id", "iq"], [.ofCells [("time", 0), ("id", 1), ("iq", 4)],
      .ofCells [("time", 1), ("id", infinite)], .ofCells [("time", -infinite), ("id", 3)]]⟩, "a"⟩
    let other : Recording := ⟨⟨["time", "id"], [.ofCells [("time", 0), ("id", 1)],
      .ofCells [("time", 1), ("id", Binary64.nan)], .ofCells [("id", 3)]]⟩, "b"⟩
    List.Forall₂ (Sample.AlikeIn ["time", "id"]) r.samples other.samples ∧
      r.samples ≠ other.samples ∧
      (ofRecording r ["id"] "time" "time [s]").panels r 800 250 =
        (ofRecording other ["id"] "time" "").panels other 800 250 := by
  intro infinite r other
  have alike : List.Forall₂ (Sample.AlikeIn ["time", "id"]) r.samples other.samples :=
    .cons (by decide +kernel) (.cons (by decide +kernel) (.cons (by decide +kernel) .nil))
  refine ⟨alike, ?_, (panels_of_alike alike "time [s]" "" 800 250).2.1⟩
  intro heq
  have names := congrArg (List.map Sample.names) heq
  have differ : r.samples.map Sample.names ≠ other.samples.map Sample.names := by decide +kernel
  exact differ names

end Figure

end DriveBench
