import DriveBench.Proofs.Text.Utf8
import DriveBench.Text.Blank
import Mathlib.Data.List.TakeWhile

/-!
# What trimming leaves

Blanks around a text make no difference to what is left of it, so a text may be
trimmed of some of its blanks first.
-/

namespace DriveBench

variable {α : Type u} {β : Type v} {blank : α → Bool} {items : List α}

theorem trimEnds_of_forall (h : ∀ a ∈ items, blank a = false) : trimEnds blank items = items :=
  trimEnds_of_ends blank items (fun a ha => h a (List.mem_of_mem_head? ha))
    (fun a ha => h a (List.mem_of_mem_getLast? ha))

theorem trimEnds_append {left right : List α} (hleft : ∀ a ∈ left, blank a = true)
    (hright : ∀ a ∈ right, blank a = true) :
    trimEnds blank (left ++ items ++ right) = trimEnds blank items := by
  have hback : ∀ a ∈ right.reverse, blank a = true := fun a ha => hright a (List.mem_reverse.1 ha)
  unfold trimEnds
  rw [List.append_assoc, List.dropWhile_append_of_pos hleft, List.dropWhile_append]
  cases hfront : items.dropWhile blank with
  | nil =>
    have hright : right.dropWhile blank = [] := List.dropWhile_eq_nil_iff.2 hright
    simp [hright]
  | cons first rest =>
    rw [List.isEmpty_cons, if_neg (by simp), List.reverse_append, List.dropWhile_append_of_pos hback]

theorem exists_trimEnds (blank : α → Bool) (items : List α) :
    ∃ left right, items = left ++ trimEnds blank items ++ right ∧
      (∀ a ∈ left, blank a = true) ∧ ∀ a ∈ right, blank a = true := by
  refine ⟨items.takeWhile blank, ((items.dropWhile blank).reverse.takeWhile blank).reverse, ?_,
    fun a ha => List.mem_takeWhile_imp ha, fun a ha => List.mem_takeWhile_imp (List.mem_reverse.1 ha)⟩
  rw [trimEnds, List.append_assoc, ← List.reverse_append, List.takeWhile_append_dropWhile,
    List.reverse_reverse, List.takeWhile_append_dropWhile]

theorem trimEnds_trimEnds {some : α → Bool} (h : ∀ a, some a = true → blank a = true) :
    trimEnds blank (trimEnds some items) = trimEnds blank items := by
  obtain ⟨left, right, hitems, hleft, hright⟩ := exists_trimEnds some items
  have hall : trimEnds blank (left ++ trimEnds some items ++ right) =
      trimEnds blank (trimEnds some items) :=
    trimEnds_append (fun a ha => h a (hleft a ha)) (fun a ha => h a (hright a ha))
  rw [← hall, ← hitems]

-- ---------------------------------------------------------------------------
-- Trimming before decoding
-- ---------------------------------------------------------------------------

section Encoding

variable {parts : α → List β} {blankPart : β → Bool}

theorem dropWhile_flatMap (nonempty : ∀ a, parts a ≠ [])
    (agree : ∀ a, ∀ b ∈ parts a, blankPart b = blank a) :
    (items.flatMap parts).dropWhile blankPart = (items.dropWhile blank).flatMap parts := by
  induction items with
  | nil => rfl
  | cons a rest ih =>
    rw [List.flatMap_cons]
    cases ha : blank a with
    | true =>
      rw [List.dropWhile_append_of_pos fun b hb => (agree a b hb).trans ha, ih,
        List.dropWhile_cons_of_pos ha]
    | false =>
      obtain ⟨b, more, hb⟩ := List.exists_cons_of_ne_nil (nonempty a)
      have hfirst : blankPart b = false := (agree a b (by simp [hb])).trans ha
      rw [List.dropWhile_cons_of_neg (by simp [ha]), List.flatMap_cons, hb, List.cons_append,
        List.dropWhile_cons_of_neg (by simp [hfirst])]

/-- Where the parts of an item are blank if it is, items can be trimmed before
they are taken apart or after. -/
theorem trimEnds_flatMap (nonempty : ∀ a, parts a ≠ [])
    (agree : ∀ a, ∀ b ∈ parts a, blankPart b = blank a) :
    trimEnds blankPart (items.flatMap parts) = (trimEnds blank items).flatMap parts := by
  have hback : ((items.dropWhile blank).reverse.flatMap fun a => (parts a).reverse).dropWhile blankPart =
      ((items.dropWhile blank).reverse.dropWhile blank).flatMap fun a => (parts a).reverse :=
    dropWhile_flatMap (fun a => by simpa using nonempty a)
      (fun a b hb => agree a b (List.mem_reverse.1 hb))
  unfold trimEnds
  rw [dropWhile_flatMap nonempty agree, List.reverse_flatMap, Function.comp_def, hback,
    List.reverse_flatMap, Function.comp_def]
  simp

end Encoding

def Blank.isAscii (c : Char) : Bool := c == '\t' || c == '\n' || c == '\x0c' || c == '\r' || c == ' '

theorem Blank.isChar_of_isAscii {c : Char} (h : isAscii c = true) : isChar c = true := by
  simp only [isAscii, Bool.or_eq_true, beq_iff_eq] at h
  rcases h with (((rfl | rfl) | rfl) | rfl) | rfl <;> decide

theorem Blank.isByte_of_mem {c : Char} {b : UInt8} (h : b ∈ String.utf8EncodeChar c) :
    isByte b = isAscii c := by
  rw [Bool.eq_iff_iff]
  simp only [isByte, isAscii, Bool.or_eq_true, beq_iff_eq, ← UInt8.toNat_inj, ← Char.toNat_inj]
  rcases Utf8.of_mem_encodeChar h with ⟨hb, -⟩ | ⟨hb, hc⟩
  · rw [hb]
    rfl
  · simp only [UInt8.reduceToNat, Char.reduceToNat]
    omega

theorem trimBytes_encode (text : String) :
    trimBytes (Utf8.encode text) = Utf8.encode (.ofList (trimEnds Blank.isAscii text.toList)) := by
  rw [trimBytes, Utf8.encode, Utf8.encode, String.toList_ofList]
  exact trimEnds_flatMap (fun _ => String.utf8EncodeChar_ne_nil) fun _ _ => Blank.isByte_of_mem

theorem trimText_ofList_trimEnds (text : String) :
    trimText (.ofList (trimEnds Blank.isAscii text.toList)) = trimText text := by
  rw [trimText, String.toList_ofList, trimEnds_trimEnds fun _ => Blank.isChar_of_isAscii, trimText]

end DriveBench
