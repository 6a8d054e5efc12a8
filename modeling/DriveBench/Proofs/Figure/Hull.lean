import DriveBench.Proofs.Figure.Containment

/-!
# The hull of a series

The hull of a list goes from one of its finite values to another and leaves none
out. So it is known but for the sign of a zero as soon as the finite values are,
in any order.
-/

namespace DriveBench.Axis

structure SameEnds (a b : Axis) : Prop where
  low : (a.low == b.low) = true
  high : (a.high == b.high) = true

/-- Lists that differ in their order, and in gaps put in or taken out anywhere. -/
inductive SameFinite : List Float → List Float → Prop
  | perm (h : values.Perm others) : SameFinite values others
  | gap (front : List Float) (v : Float) (back : List Float) (hv : v.isFinite = false) :
    SameFinite (front ++ v :: back) (front ++ back)
  | symm (h : SameFinite values others) : SameFinite others values
  | trans (h : SameFinite values others) (h' : SameFinite others more) : SameFinite values more

variable {a b : Axis} {v : Float} {values others : List Float}

theorem SameFinite.mem_iff (h : SameFinite values others) (finite : v.isFinite = true) :
    v ∈ values ↔ v ∈ others := by
  induction h with
  | perm h => exact h.mem_iff
  | gap front w back hw =>
    have hne : v ≠ w := by
      rintro rfl
      exact absurd finite (by simp [hw])
    simp [hne]
  | symm _ ih => exact ih.symm
  | trans _ _ ih ih' => exact ih.trans ih'

theorem hull_eq_none_iff : hull values = none ↔ ∀ v ∈ values, v.isFinite = false := by
  obtain ⟨hnone, gaps⟩ | ⟨a, hsome, hhull⟩ := hull_cases values
  · exact iff_of_true hnone gaps
  · refine iff_of_false (by simp [hsome]) fun gaps => ?_
    exact absurd hhull.low.2 (by simp [gaps _ hhull.low.1])

theorem IsHull.of_hull (h : hull values = some a) : IsHull values a := by
  obtain ⟨hnone, -⟩ | ⟨b, hsome, hhull⟩ := hull_cases values
  · simp [hnone] at h
  · obtain rfl := Option.some.inj (hsome.symm.trans h)
    exact hhull

/-- Each hull holds the ends of the other. -/
theorem IsHull.sameEnds (ha : IsHull values a) (hb : IsHull others b)
    (h : SameFinite values others) : SameEnds a b := by
  have low : a.Holds b.low := ha.holds _ ((h.mem_iff hb.low.2).2 hb.low.1) hb.low.2
  have high : a.Holds b.high := ha.holds _ ((h.mem_iff hb.high.2).2 hb.high.1) hb.high.2
  have low' : b.Holds a.low := hb.holds _ ((h.mem_iff ha.low.2).1 ha.low.1) ha.low.2
  have high' : b.Holds a.high := hb.holds _ ((h.mem_iff ha.high.2).1 ha.high.1) ha.high.2
  exact ⟨Binary64.beq_of_le_of_le low.1 low'.1, Binary64.beq_of_le_of_le high'.2 high.2⟩

theorem hull_of_sameFinite (h : SameFinite values others) :
    Option.Rel SameEnds (hull values) (hull others) := by
  obtain ⟨hvalues, gaps⟩ | ⟨a, hvalues, ha⟩ := hull_cases values <;>
    obtain ⟨hothers, gaps'⟩ | ⟨b, hothers, hb⟩ := hull_cases others <;> rw [hvalues, hothers]
  · exact .none
  · exact absurd hb.low.2 (by simp [gaps _ ((h.mem_iff hb.low.2).2 hb.low.1)])
  · exact absurd ha.low.2 (by simp [gaps' _ ((h.mem_iff ha.low.2).1 ha.low.1)])
  · exact .some (ha.sameEnds hb h)

/-- There is a hull if there is a finite value, and then it is exact: its ends are
finite values of the list, and all finite values lie between them. Gaps and the
order of the values do not matter. -/
theorem hull_exact (values : List Float) :
    (hull values = none ↔ ∀ v ∈ values, v.isFinite = false) ∧
      (∀ a, hull values = some a →
        (a.low.isFinite = true ∧ a.high.isFinite = true) ∧ (a.low ∈ values ∧ a.high ∈ values) ∧
        ∀ v ∈ values, v.isFinite = true → a.low ≤ v ∧ v ≤ a.high) ∧
      ∀ others, SameFinite values others → Option.Rel SameEnds (hull values) (hull others) := by
  refine ⟨hull_eq_none_iff, fun a ha => ?_, fun others => hull_of_sameFinite⟩
  have h := IsHull.of_hull ha
  exact ⟨⟨h.low.2, h.high.2⟩, ⟨h.low.1, h.high.1⟩, h.holds⟩

theorem hull_exact_zeros :
    let values : List Float := [.ofBits 0x7ff0000000000000, 0, Binary64.nan, -0.0, 3, -0.0]
    let others : List Float := [-0.0, 3, .ofBits 0xfff0000000000000, -0.0, 0]
    SameFinite values others ∧ hull values = some ⟨-0.0, 3⟩ ∧ hull others = some ⟨0, 3⟩ ∧
      (-0.0 ∈ values ∧ 3 ∈ values) ∧ Option.Rel SameEnds (hull values) (hull others) := by
  intro values others
  have same : SameFinite values others := by
    refine .trans (.gap [] _ _ (by decide +kernel)) (.trans (.gap [0] _ _ (by decide +kernel)) ?_)
    exact .trans (.perm (by decide +kernel)) (.symm (.gap [-0.0, 3] _ _ (by decide +kernel)))
  have ends : hull values = some ⟨-0.0, 3⟩ := by decide +kernel
  obtain ⟨-, found, alike⟩ := hull_exact values
  exact ⟨same, ends, by decide +kernel, (found _ ends).2.1, alike others same⟩

end DriveBench.Axis
