import Mathlib.Data.List.Forall2

/-!
# One after the other

Steps that can fail, and lists that are gone over until something does. A
failure is the first of its kind, with nothing but successes in front of it.
-/

namespace DriveBench

-- ---------------------------------------------------------------------------
-- Results one after the other
-- ---------------------------------------------------------------------------

theorem map_ok {x : Except ε α} {f : α → β} :
    x.map f = .ok b ↔ ∃ a, x = .ok a ∧ f a = b := by
  cases x <;> simp [Except.map]

theorem map_error {x : Except ε α} {f : α → β} : x.map f = .error d ↔ x = .error d := by
  cases x <;> simp [Except.map]

theorem bind_ok {x : Except ε α} {f : α → Except ε β} :
    (x >>= f) = .ok b ↔ ∃ a, x = .ok a ∧ f a = .ok b := by
  cases x <;> simp [bind, Except.bind]

theorem bind_error {x : Except ε α} {f : α → Except ε β} :
    (x >>= f) = .error d ↔ x = .error d ∨ ∃ a, x = .ok a ∧ f a = .error d := by
  cases x <;> simp [bind, Except.bind]

/-- `bad` holds of some element and its index, and `good` of all before it. -/
def FirstAt (good : α → Prop) (bad : Nat → α → Prop) (items : List α) : Prop :=
  ∃ front item back, items = front ++ item :: back ∧ (∀ a ∈ front, good a) ∧ bad front.length item

@[simp] theorem not_firstAt_nil : ¬ FirstAt good bad [] := by
  rintro ⟨front, item, back, h, -⟩
  simp at h

theorem firstAt_cons :
    FirstAt good bad (a :: items) ↔
      bad 0 a ∨ (good a ∧ FirstAt good (fun i => bad (i + 1)) items) := by
  constructor
  · rintro ⟨front, item, back, heq, hgood, hbad⟩
    cases front with
    | nil =>
      obtain ⟨rfl, -⟩ := List.cons.inj heq
      exact .inl hbad
    | cons b front =>
      obtain ⟨rfl, rfl⟩ := List.cons.inj heq
      obtain ⟨ha, hfront⟩ := List.forall_mem_cons.1 hgood
      exact .inr ⟨ha, front, item, back, rfl, hfront, hbad⟩
  · rintro (hbad | ⟨ha, front, item, back, rfl, hgood, hbad⟩)
    · exact ⟨[], a, items, rfl, by simp, hbad⟩
    · exact ⟨a :: front, item, back, rfl, List.forall_mem_cons.2 ⟨ha, hgood⟩, hbad⟩

theorem firstAt_map {f : α → β} :
    FirstAt good bad (items.map f) ↔ FirstAt (fun a => good (f a)) (fun i a => bad i (f a)) items := by
  induction items generalizing bad with
  | nil => simp
  | cons a items ih => simp [firstAt_cons, ih]

-- ---------------------------------------------------------------------------
-- Lists side by side
-- ---------------------------------------------------------------------------

theorem exists_forall₂_iff {R : α → β → Prop} :
    (∃ bs, List.Forall₂ R as bs) ↔ ∀ a ∈ as, ∃ b, R a b := by
  induction as with
  | nil => simp
  | cons a as ih =>
    rw [List.forall_mem_cons, ← ih]
    constructor
    · rintro ⟨_, hab⟩
      cases hab with
      | cons hb hbs => exact ⟨⟨_, hb⟩, _, hbs⟩
    · rintro ⟨⟨b, hb⟩, bs, hbs⟩
      exact ⟨b :: bs, .cons hb hbs⟩

theorem forall₂_comp_map {R : α → β → Prop} {f : β → γ} :
    (∃ bs, List.Forall₂ R as bs ∧ bs.map f = cs) ↔
      List.Forall₂ (fun a c => ∃ b, R a b ∧ f b = c) as cs := by
  induction as generalizing cs with
  | nil => simp [eq_comm]
  | cons a as ih =>
    simp only [List.forall₂_cons_left_iff, ← ih]
    constructor
    · rintro ⟨_, ⟨b, bs, hb, hbs, rfl⟩, rfl⟩
      exact ⟨f b, bs.map f, ⟨b, hb, rfl⟩, ⟨bs, hbs, rfl⟩, rfl⟩
    · rintro ⟨_, _, ⟨b, hb, rfl⟩, ⟨bs, hbs, rfl⟩, rfl⟩
      exact ⟨b :: bs, ⟨b, bs, hb, hbs, rfl⟩, rfl⟩

theorem isEmpty_eq_of_forall₂ {R : α → β → Prop} (h : List.Forall₂ R as bs) :
    bs.isEmpty = as.isEmpty := by
  cases h <;> rfl

end DriveBench
