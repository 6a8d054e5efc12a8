import DriveBench.Proofs.Storage.Naming

/-!
# A plain name at the end of a path

A plain name joined to a path is its last piece, and nothing of the path in
front gets into it.
-/

namespace DriveBench

/-- A name for one thing in a directory. -/
structure IsPlainName (name : String) : Prop where
  slash : '/' ∉ name.toList
  ne_empty : name ≠ ""
  ne_dot : name ≠ "."
  ne_dots : name ≠ ".."

instance (name : String) : Decidable (IsPlainName name) :=
  decidable_of_iff ('/' ∉ name.toList ∧ name ≠ "" ∧ name ≠ "." ∧ name ≠ "..")
    ⟨fun h => ⟨h.1, h.2.1, h.2.2.1, h.2.2.2⟩, fun h => ⟨h.slash, h.ne_empty, h.ne_dot, h.ne_dots⟩⟩

namespace Path

variable {base name other : String}

theorem not_isAbsolute_of_plain (plain : IsPlainName name) : isAbsolute name = false := by
  cases h : name.toList with
  | nil => simp [isAbsolute, h]
  | cons c rest =>
    have hc : c ≠ '/' := fun heq => plain.slash (by simp [h, heq])
    simp [isAbsolute, h, hc]

theorem join_of_plain (plain : IsPlainName name) : join base name =
    if base.toList.getLast?.all (· == '/') then base ++ name else base ++ "/" ++ name := by
  rw [join, if_neg (by simp [not_isAbsolute_of_plain plain])]

theorem join_inj_of_plain (plain : IsPlainName name) (plain' : IsPlainName other) :
    join base name = join base other ↔ name = other := by
  refine ⟨fun heq => ?_, fun heq => by rw [heq]⟩
  rw [join_of_plain plain, join_of_plain plain', ← String.toList_inj] at heq
  split at heq <;> simpa [String.toList_inj] using heq

theorem pieces_join_of_plain (base : String) (plain : IsPlainName name) :
    ∃ front, pieces (join base name) = front ++ [name.toList] := by
  rw [join_of_plain plain]
  split
  · rename_i hslash
    rcases List.eq_nil_or_concat base.toList with hnil | ⟨front, last, hbase⟩
    · exact ⟨[], by rw [pieces, String.toList_append, hnil, List.nil_append,
        pieces_of_notMem plain.slash, List.nil_append]⟩
    · obtain rfl : last = '/' := by simpa [hbase] using hslash
      refine ⟨DriveBench.pieces '/' front, ?_⟩
      rw [pieces, String.toList_append, hbase, List.concat_eq_append, List.append_assoc,
        List.singleton_append, pieces_separator, pieces_of_notMem plain.slash]
  · refine ⟨DriveBench.pieces '/' base.toList, ?_⟩
    have htext : (base ++ "/" ++ name).toList = base.toList ++ '/' :: name.toList := by simp
    rw [pieces, htext, pieces_separator, pieces_of_notMem plain.slash]

theorem fileName?_of_pieces {path : String} {front : List (List Char)} (plain : IsPlainName name)
    (h : pieces path = front ++ [name.toList]) : fileName? path = some name.toList := by
  have kept : name.toList ≠ [] ∧ name.toList ≠ ['.'] :=
    ⟨mt String.toList_eq_nil_iff.1 plain.ne_empty, fun h => plain.ne_dot (String.toList_inj.1 h)⟩
  have last : [name.toList].filter (fun piece => piece ≠ [] ∧ piece ≠ ['.']) = [name.toList] :=
    List.filter_eq_self.2 (by simpa using kept)
  unfold fileName?
  rw [h, List.filter_append, last, List.getLast?_concat]
  split
  · rename_i heq
    exact absurd (String.toList_inj.1 (Option.some.inj heq)) plain.ne_dots
  · rename_i heq
    cases heq
  · rename_i heq
    exact heq.symm

theorem stem_join_of_plain (plain : IsPlainName name) : stem (join base name) = stem name := by
  obtain ⟨front, hjoin⟩ := pieces_join_of_plain base plain
  have hname : pieces name = [] ++ [name.toList] := pieces_of_notMem plain.slash
  rw [stem, stem, fileName?_of_pieces plain hjoin, fileName?_of_pieces plain hname]

end Path

end DriveBench
