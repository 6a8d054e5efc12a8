/-!
# Pieces of a text

A separator parts a text into pieces, one more than there are separators.
-/

namespace DriveBench

def extendFirst (c : Char) : List (List Char) → List (List Char)
  | [] => [[c]]
  | piece :: rest => (c :: piece) :: rest

def pieces (separator : Char) : List Char → List (List Char)
  | [] => [[]]
  | c :: rest =>
    if c = separator then [] :: pieces separator rest else extendFirst c (pieces separator rest)

theorem mem_extendFirst {c : Char} {piece : List Char} {all : List (List Char)}
    (h : piece ∈ extendFirst c all) :
    piece ∈ all ∨ ∃ rest, piece = c :: rest ∧ (rest = [] ∨ rest ∈ all) := by
  cases all with
  | nil => exact .inr ⟨[], by simpa [extendFirst] using h⟩
  | cons first more =>
    rcases List.mem_cons.1 h with rfl | h
    · exact .inr ⟨first, rfl, .inr List.mem_cons_self⟩
    · exact .inl (List.mem_cons_of_mem _ h)

/-- No piece has a separator in it. -/
theorem separator_notMem_of_mem_pieces {separator : Char} {text piece : List Char}
    (h : piece ∈ pieces separator text) : separator ∉ piece := by
  induction text generalizing piece with
  | nil => simp_all [pieces]
  | cons c rest ih =>
    unfold pieces at h
    split at h
    · rcases List.mem_cons.1 h with rfl | h
      · simp
      · exact ih h
    · rename_i hc
      rcases mem_extendFirst h with h | ⟨tail, rfl, rfl | h⟩
      · exact ih h
      · simpa using Ne.symm hc
      · simpa [Ne.symm hc] using ih h

end DriveBench
