import DriveBench.Figure.Drawing

/-!
# Runs of a trace

A trace cuts its points at the gaps and nowhere else. Points are told apart by
their number, counted over all runs, since two of them may well be equal.
-/

namespace DriveBench

def shownAt (points : List Point) (i : Nat) : Bool := points[i]?.any Point.isFinite

def shownBefore (points : List Point) (i : Nat) : Nat := (points.take i).countP Point.isFinite

section

variable {p : Point} {points run rest : List Point}

@[simp] theorem shownAt_nil (i : Nat) : shownAt [] i = false := by simp [shownAt]

@[simp] theorem shownAt_cons_zero : shownAt (p :: rest) 0 = p.isFinite := by simp [shownAt]

@[simp] theorem shownAt_cons_succ (i : Nat) : shownAt (p :: rest) (i + 1) = shownAt rest i := by
  simp [shownAt]

theorem shownAt_append_of_lt {i : Nat} (shown : ∀ p ∈ run, p.isFinite = true) (hi : i < run.length) :
    shownAt (run ++ rest) i = true := by
  rw [shownAt, List.getElem?_append_left hi, List.getElem?_eq_getElem hi]
  exact shown _ (List.getElem_mem hi)

@[simp] theorem shownAt_append_length_add (i : Nat) :
    shownAt (run ++ rest) (run.length + i) = shownAt rest i := by
  rw [shownAt, List.getElem?_append_right (Nat.le_add_right _ _), Nat.add_sub_cancel_left, shownAt]

theorem shownBefore_cons_of_gap (gap : p.isFinite = false) (i : Nat) :
    shownBefore (p :: rest) (i + 1) = shownBefore rest i := by
  simp [shownBefore, gap]

theorem shownBefore_append_of_le {i : Nat} (shown : ∀ p ∈ run, p.isFinite = true)
    (hi : i ≤ run.length) : shownBefore (run ++ rest) i = i := by
  have front : (run.take i).countP Point.isFinite = (run.take i).length :=
    List.countP_eq_length.2 fun p hp => shown p (List.mem_of_mem_take hp)
  simp [shownBefore, List.take_append_of_le_length hi, front, hi]

theorem getElem?_filter_shownBefore {i : Nat} (shown : shownAt points i = true) :
    (points.filter Point.isFinite)[shownBefore points i]? = points[i]? := by
  induction points generalizing i with
  | nil => simp at shown
  | cons p rest ih =>
    cases i with
    | zero =>
      have hp : p.isFinite = true := by simpa using shown
      simp [shownBefore, hp]
    | succ i =>
      have next := ih (i := i) (by simpa using shown)
      cases hp : p.isFinite with
      | true => simpa [shownBefore, hp] using next
      | false => simpa [shownBefore, hp] using next

theorem shownBefore_append_length_add (shown : ∀ p ∈ run, p.isFinite = true) (i : Nat) :
    shownBefore (run ++ rest) (run.length + i) = run.length + shownBefore rest i := by
  rw [shownBefore, List.take_append, List.take_of_length_le (Nat.le_add_right _ _),
    Nat.add_sub_cancel_left, List.countP_append, List.countP_eq_length.2 shown, shownBefore]

end

namespace Trace

/-- Whether two points of a trace, given by their numbers, are in one run. -/
def together : Trace → Nat → Nat → Bool
  | [], _, _ => false
  | run :: rest, m, n =>
    if m < run.length then n < run.length
    else run.length ≤ n && together rest (m - run.length) (n - run.length)

/-- A trace is what is left of some points when they are cut at their gaps: a
run ends where the points do or at a gap. -/
inductive Cuts : List Point → Trace → Prop
  | nil : Cuts [] []
  | gap {p : Point} : p.isFinite = false → Cuts rest trace → Cuts (p :: rest) trace
  | run {run rest : List Point} : run ≠ [] → (∀ p ∈ run, p.isFinite = true) →
      shownAt rest 0 = false → Cuts rest trace → Cuts (run ++ rest) (run :: trace)

theorem cuts_extend (points current : List Point) (shown : ∀ p ∈ current, p.isFinite = true) :
    Cuts (current.reverse ++ points) (extend current points) := by
  induction points generalizing current with
  | nil =>
    cases current with
    | nil => exact .nil
    | cons q current =>
      have whole : ∀ p ∈ (q :: current).reverse, p.isFinite = true :=
        fun p hp => shown p (List.mem_reverse.1 hp)
      have closed : Cuts ((q :: current).reverse ++ []) [(q :: current).reverse] :=
        .run (by simp) whole (by simp) .nil
      exact closed
  | cons p rest ih =>
    cases hp : p.isFinite with
    | true =>
      have more := ih (p :: current) (by simpa [hp] using shown)
      simpa [extend, hp] using more
    | false =>
      have next : Cuts (p :: rest) (extend [] rest) := .gap hp (ih [] (by simp))
      cases current with
      | nil => simpa [extend, hp] using next
      | cons q current =>
        have whole : ∀ p ∈ (q :: current).reverse, p.isFinite = true :=
          fun p hp => shown p (List.mem_reverse.1 hp)
        have closed : Cuts ((q :: current).reverse ++ p :: rest) ((q :: current).reverse :: extend [] rest) :=
          .run (by simp) whole (by simpa using hp) next
        simpa [extend, hp] using closed

theorem cuts_ofPoints (points : List Point) : Cuts points (ofPoints points) :=
  cuts_extend points [] (by simp)

section

variable {points : List Point} {trace : Trace}

theorem Cuts.flatten (h : Cuts points trace) : trace.flatten = points.filter Point.isFinite := by
  induction h with
  | nil => rfl
  | gap hp _ ih => simp [hp, ih]
  | run _ shown _ _ ih => simp [ih, List.filter_eq_self.2 shown]

theorem Cuts.nil_notMem (h : Cuts points trace) : [] ∉ trace := by
  induction h with
  | nil => simp
  | gap _ _ ih => exact ih
  | run some _ _ _ ih => simp [ih, Ne.symm some]

theorem Cuts.together_iff (h : Cuts points trace) {i j : Nat} (hij : i < j)
    (hi : shownAt points i = true) (hj : shownAt points j = true) :
    trace.together (shownBefore points i) (shownBefore points j) = true ↔
      ∀ k, i < k → k < j → shownAt points k = true := by
  induction h generalizing i j with
  | nil => simp at hi
  | @gap rest trace p hp _ ih =>
    cases i with
    | zero => simp [hp] at hi
    | succ i =>
      cases j with
      | zero => omega
      | succ j =>
        rw [shownBefore_cons_of_gap hp, shownBefore_cons_of_gap hp]
        rw [ih (by omega) (by simpa using hi) (by simpa using hj)]
        constructor
        · intro between k hik hkj
          obtain ⟨k, rfl⟩ : ∃ m, k = m + 1 := ⟨k - 1, by omega⟩
          simpa using between k (by omega) (by omega)
        · intro between k hik hkj
          simpa using between (k + 1) (by omega) (by omega)
  | @run trace run rest _ shown stop _ ih =>
    by_cases hjr : j < run.length
    · rw [shownBefore_append_of_le shown (by omega), shownBefore_append_of_le shown (by omega)]
      have between : ∀ k, i < k → k < j → shownAt (run ++ rest) k = true :=
        fun k _ hkj => shownAt_append_of_lt shown (by omega)
      simpa [together, hjr, Nat.lt_trans hij hjr] using between
    · obtain ⟨j, rfl⟩ : ∃ m, j = run.length + m := ⟨j - run.length, by omega⟩
      rw [shownBefore_append_length_add shown]
      by_cases hir : i < run.length
      · rw [shownBefore_append_of_le shown (by omega)]
        -- the place right behind the run is a gap
        have edge : shownAt (run ++ rest) run.length = false := by
          rw [← Nat.add_zero run.length, shownAt_append_length_add, stop]
        have parted : ¬ ∀ k, i < k → k < run.length + j → shownAt (run ++ rest) k = true := by
          intro between
          cases j with
          | zero => simp [edge] at hj
          | succ j =>
            have inside := between run.length hir (by omega)
            rw [edge] at inside
            cases inside
        have apart : together (run :: trace) i (run.length + shownBefore rest j) = false := by
          simp [together, hir]
        rw [apart]
        exact iff_of_false (by simp) parted
      · obtain ⟨i, rfl⟩ : ∃ m, i = run.length + m := ⟨i - run.length, by omega⟩
        rw [shownBefore_append_length_add shown]
        simp only [together, Nat.not_lt.2 (Nat.le_add_right _ _), if_false, Nat.le_add_right,
          decide_true, Bool.true_and, Nat.add_sub_cancel_left]
        rw [ih (by omega) (by simpa using hi) (by simpa using hj)]
        constructor
        · intro between k hik hkj
          obtain ⟨k, rfl⟩ : ∃ m, k = run.length + m := ⟨k - run.length, by omega⟩
          simpa using between k (by omega) (by omega)
        · intro between k hik hkj
          simpa using between (run.length + k) (by omega) (by omega)

theorem Cuts.isDrawn_iff (h : Cuts points trace) :
    trace.isDrawn = true ↔ ∃ i, shownAt points i = true ∧ shownAt points (i + 1) = true := by
  induction h with
  | nil => simp [isDrawn]
  | @gap rest trace p hp _ ih =>
    rw [ih]
    constructor
    · rintro ⟨i, hi, hnext⟩
      exact ⟨i + 1, by simpa using hi, by simpa using hnext⟩
    · rintro ⟨i, hi, hnext⟩
      cases i with
      | zero => simp [hp] at hi
      | succ i => exact ⟨i, by simpa using hi, by simpa using hnext⟩
  | @run trace run rest some shown stop _ ih =>
    have split : Trace.isDrawn (run :: trace) = true ↔ 2 ≤ run.length ∨ trace.isDrawn = true := by
      simp [isDrawn]
    have here : 0 < run.length := List.length_pos_iff.2 some
    rw [split, ih]
    constructor
    · rintro (long | ⟨i, hi, hnext⟩)
      · exact ⟨0, shownAt_append_of_lt shown here, shownAt_append_of_lt shown long⟩
      · exact ⟨run.length + i, by simpa using hi, by simpa [Nat.add_assoc] using hnext⟩
    · rintro ⟨i, hi, hnext⟩
      by_cases hir : i + 1 < run.length
      · exact .inl (by omega)
      · by_cases hlast : i + 1 = run.length
        · rw [hlast, ← Nat.add_zero run.length, shownAt_append_length_add, stop] at hnext
          cases hnext
        · obtain ⟨i, rfl⟩ : ∃ m, i = run.length + m := ⟨i - run.length, by omega⟩
          rw [Nat.add_assoc] at hnext
          exact .inr ⟨i, by simpa using hi, by simpa using hnext⟩

end

def shows (timeColumn field : String) (s : Sample) : Bool :=
  (s.getD timeColumn).isFinite && (s.getD field).isFinite

theorem shownAt_series (r : Recording) (timeColumn field : String) (i : Nat) :
    shownAt ((r.series timeColumn).zip (r.series field)) i =
      r.samples[i]?.any (shows timeColumn field) := by
  rw [Recording.series, Recording.series, List.zip_map', shownAt, List.getElem?_map]
  cases r.samples[i]? with
  | none => rfl
  | some s => rfl

theorem exists_shown_iff (r : Recording) (timeColumn field : String) :
    (∃ i, shownAt ((r.series timeColumn).zip (r.series field)) i = true ∧
        shownAt ((r.series timeColumn).zip (r.series field)) (i + 1) = true) ↔
      ∃ front s t back, r.samples = front ++ s :: t :: back ∧
        shows timeColumn field s = true ∧ shows timeColumn field t = true := by
  simp only [shownAt_series]
  constructor
  · rintro ⟨i, hi, hnext⟩
    simp only [Option.any_eq_true, List.getElem?_eq_some_iff] at hi hnext
    obtain ⟨s, ⟨hs, rfl⟩, shown⟩ := hi
    obtain ⟨t, ⟨ht, rfl⟩, shown'⟩ := hnext
    refine ⟨r.samples.take i, r.samples[i], r.samples[i + 1], r.samples.drop (i + 2), ?_, shown, shown'⟩
    rw [← List.drop_eq_getElem_cons ht, ← List.drop_eq_getElem_cons hs, List.take_append_drop]
  · rintro ⟨front, s, t, back, hsamples, hs, ht⟩
    refine ⟨front.length, ?_, ?_⟩
    · simp [hsamples, hs]
    · simp [hsamples, ht]

/-- A trace is made of the longest runs of finite points. -/
theorem ofSeries_maximal_runs (x y : List Float) :
    (ofSeries x y).flatten = (x.zip y).filter Point.isFinite ∧
      [] ∉ ofSeries x y ∧
      (∀ i, shownAt (x.zip y) i = true →
        (ofSeries x y).flatten[shownBefore (x.zip y) i]? = (x.zip y)[i]?) ∧
      (∀ i j, i < j → shownAt (x.zip y) i = true → shownAt (x.zip y) j = true →
        ((ofSeries x y).together (shownBefore (x.zip y) i) (shownBefore (x.zip y) j) = true ↔
          ∀ k, i < k → k < j → shownAt (x.zip y) k = true)) ∧
      ((ofSeries x y).isDrawn = true ↔
        ∃ i, shownAt (x.zip y) i = true ∧ shownAt (x.zip y) (i + 1) = true) ∧
      ∀ (r : Recording) (fields : List String) (timeColumn xLabel : String) (width height i : Nat)
        (field : String) (colour : Colour),
        ((Figure.ofRecording r fields timeColumn xLabel).panel r width height i field
            colour).trace.isDrawn = true ↔
          ∃ front s t back, r.samples = front ++ s :: t :: back ∧
            shows timeColumn field s = true ∧ shows timeColumn field t = true := by
  have cuts : Cuts (x.zip y) (ofSeries x y) := cuts_ofPoints _
  refine ⟨cuts.flatten, cuts.nil_notMem, fun i hi => ?_, fun i j hij hi hj => ?_, ?_, ?_⟩
  · rw [cuts.flatten]
    exact getElem?_filter_shownBefore hi
  · exact cuts.together_iff hij hi hj
  · exact cuts.isDrawn_iff
  · intro r fields timeColumn xLabel width height i field colour
    rw [← exists_shown_iff]
    exact (cuts_ofPoints _).isDrawn_iff

theorem ofSeries_maximal_runs_five_points :
    let x : List Float := [0, 1, 2, 3, 4]
    let y : List Float := [1, Binary64.nan, 3, 4, Binary64.nan]
    let points := x.zip y
    shownAt points 0 = true ∧ shownAt points 2 = true ∧ shownAt points 3 = true ∧
      (ofSeries x y).together (shownBefore points 0) (shownBefore points 2) = false ∧
      (ofSeries x y).together (shownBefore points 2) (shownBefore points 3) = true := by
  intro x y points
  have first : shownAt points 0 = true := by decide +kernel
  have third : shownAt points 2 = true := by decide +kernel
  have fourth : shownAt points 3 = true := by decide +kernel
  obtain ⟨-, -, -, together, -⟩ := ofSeries_maximal_runs x y
  refine ⟨first, third, fourth, ?_, ?_⟩
  · rw [← Bool.not_eq_true]
    intro same
    have gap : shownAt points 1 = false := by decide +kernel
    have inside := (together 0 2 (by omega) first third).1 same 1 (by omega) (by omega)
    cases gap.symm.trans inside
  · exact (together 2 3 (by omega) third fourth).2 fun k hk hk' => by omega

end Trace

end DriveBench
