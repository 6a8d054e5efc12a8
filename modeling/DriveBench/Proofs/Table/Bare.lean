import DriveBench.Numeral.Reading
import DriveBench.Proofs.Text.Trimming

/-!
# Texts that are cells as they stand

A bare text has nothing in it that a file of records would read as anything
but itself: no comma, no quotation mark, no line end, and nothing to trim.
Whatever is read as a number is bare.
-/

namespace DriveBench

-- ---------------------------------------------------------------------------
-- Texts without blanks and marks
-- ---------------------------------------------------------------------------

def IsInert (c : Char) : Prop := 33 ≤ c.toNat ∧ c.toNat < 127 ∧ c.toNat ≠ 44 ∧ c.toNat ≠ 34

instance (c : Char) : Decidable (IsInert c) := inferInstanceAs (Decidable (_ ∧ _))

def IsBare (text : String) : Prop := ∀ c ∈ text.toList, IsInert c

instance (text : String) : Decidable (IsBare text) := List.decidableBAll _ _

theorem IsBare.trimText {text : String} (h : IsBare text) : trimText text = text := by
  have visible : ∀ c ∈ text.toList, Blank.isChar c = false := by
    intro c hc
    have hinert := h c hc
    unfold IsInert at hinert
    simp [Blank.isChar, Blank.ranges]
    omega
  rw [DriveBench.trimText, trimEnds_of_forall visible, String.ofList_toList]

-- ---------------------------------------------------------------------------
-- Numerals are bare
-- ---------------------------------------------------------------------------

namespace Numeral

theorem isInert_of_isDigit {c : Char} (h : c.isDigit = true) : IsInert c := by
  simp [Char.isDigit, UInt32.le_iff_toNat_le] at h
  unfold IsInert
  omega

theorem isInert_of_toLower {c : Char} (h : IsInert c.toLower) : IsInert c := by
  unfold Char.toLower at h
  split at h
  · rename_i hupper
    simp [UInt32.le_iff_toNat_le] at hupper
    unfold IsInert
    omega
  · exact h

theorem takeSign_append (text : List Char) :
    ∃ sign, text = sign ++ (takeSign text).2 ∧ ∀ c ∈ sign, IsInert c := by
  unfold takeSign
  split
  · exact ⟨['-'], rfl, by simp [IsInert]⟩
  · exact ⟨['+'], rfl, by simp [IsInert]⟩
  · exact ⟨[], rfl, by simp⟩

theorem isInert_of_takeSign {text : List Char} (h : ∀ c ∈ (takeSign text).2, IsInert c) :
    ∀ c ∈ text, IsInert c := by
  obtain ⟨sign, htext, hsign⟩ := takeSign_append text
  rw [htext]
  exact List.forall_mem_append.2 ⟨hsign, h⟩

theorem isInert_of_exponent? {text : List Char} {e : Int} (h : exponent? text = some e) :
    ∀ c ∈ text, IsInert c := by
  cases text with
  | nil => simp
  | cons mark rest =>
    simp only [exponent?] at h
    split at h
    · rename_i hform
      simp only [Bool.and_eq_true, Bool.or_eq_true, beq_iff_eq, List.all_eq_true] at hform
      have hmark : IsInert mark := by rcases hform.1.1 with rfl | rfl <;> decide
      refine List.forall_mem_cons.2 ⟨hmark, isInert_of_takeSign fun c hc => ?_⟩
      exact isInert_of_isDigit (hform.2 c hc)
    · contradiction

theorem isInert_of_decimal? {text : List Char} {x : Float} (h : decimal? text = some x) :
    ∀ c ∈ text, IsInert c := by
  have digits : ∀ l : List Char, ∀ c ∈ l.takeWhile Char.isDigit, IsInert c := fun l c hc =>
    isInert_of_isDigit (List.mem_takeWhile_imp hc)
  unfold decimal? at h
  dsimp only at h
  rw [← List.takeWhile_append_dropWhile (p := Char.isDigit) (l := text)]
  refine List.forall_mem_append.2 ⟨digits text, ?_⟩
  split at h
  · rename_i after hpoint
    rw [hpoint, ← List.takeWhile_append_dropWhile (p := Char.isDigit) (l := after)]
    split at h
    · contradiction
    · obtain ⟨e, he, -⟩ := Option.map_eq_some_iff.1 h
      refine List.forall_mem_cons.2 ⟨by decide, ?_⟩
      exact List.forall_mem_append.2 ⟨digits after, isInert_of_exponent? he⟩
  · split at h
    · contradiction
    · obtain ⟨e, he, -⟩ := Option.map_eq_some_iff.1 h
      exact isInert_of_exponent? he

theorem isInert_of_word {text : List Char} {word : String} (h : text.map Char.toLower = word.toList)
    (bare : IsBare word) : ∀ c ∈ text, IsInert c := fun c hc =>
  isInert_of_toLower (bare c.toLower (h ▸ List.mem_map_of_mem hc))

theorem isInert_of_unsigned? {text : List Char} {x : Float} (h : unsigned? text = some x) :
    ∀ c ∈ text, IsInert c := by
  unfold unsigned? at h
  dsimp only at h
  split at h
  · rename_i hword
    rcases hword with hword | hword
    · exact isInert_of_word hword (by decide +kernel)
    · exact isInert_of_word hword (by decide +kernel)
  split at h
  · rename_i hword
    exact isInert_of_word hword (by decide +kernel)
  · exact isInert_of_decimal? h

/-- Whatever reads as a number can stand in a line without quotation marks. -/
theorem isBare_of_parse? {text : String} {x : Float} (h : parse? text = some x) : IsBare text := by
  obtain ⟨y, hy, -⟩ := Option.map_eq_some_iff.1 h
  exact isInert_of_takeSign (isInert_of_unsigned? hy)

theorem ne_empty_of_parse? {text : String} {x : Float} (h : parse? text = some x) : text ≠ "" := by
  rintro rfl
  rw [parse?_empty] at h
  contradiction

end Numeral

end DriveBench
