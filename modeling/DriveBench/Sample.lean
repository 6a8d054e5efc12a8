import DriveBench.Assoc
import DriveBench.Numeral.Binary64

/-!
# Samples

One line of a recording: at most one value for a column name. The names are kept
in strictly increasing order, so two samples with the same values are the same
sample.
-/

namespace DriveBench

structure Sample where
  cells : List (String × Float)
  ordered : cells.Pairwise (fun a b => a.1 < b.1) := by simp

namespace Sample

def insertInto (name : String) (value : Float) : List (String × Float) → List (String × Float)
  | [] => [(name, value)]
  | cell :: rest =>
    if name < cell.1 then (name, value) :: cell :: rest
    else if name = cell.1 then (name, value) :: rest
    else cell :: insertInto name value rest

theorem mem_insertInto {name : String} {value : Float} {cells : List (String × Float)}
    {cell : String × Float} (h : cell ∈ insertInto name value cells) :
    cell = (name, value) ∨ cell ∈ cells := by
  induction cells with
  | nil => simpa [insertInto] using h
  | cons head rest ih =>
    simp only [insertInto] at h
    split at h
    · simpa using h
    · split at h
      · rcases List.mem_cons.1 h with h | h
        · exact .inl h
        · exact .inr (List.mem_cons_of_mem _ h)
      · rcases List.mem_cons.1 h with h | h
        · exact .inr (h ▸ List.mem_cons_self)
        · exact (ih h).imp id (List.mem_cons_of_mem _)

theorem ordered_insertInto (name : String) (value : Float) {cells : List (String × Float)}
    (h : cells.Pairwise (fun a b => a.1 < b.1)) :
    (insertInto name value cells).Pairwise (fun a b => a.1 < b.1) := by
  induction cells with
  | nil => simp [insertInto]
  | cons head rest ih =>
    obtain ⟨hhead, hrest⟩ := List.pairwise_cons.1 h
    simp only [insertInto]
    split
    · rename_i hlt
      refine List.pairwise_cons.2 ⟨fun cell hc => ?_, h⟩
      rcases List.mem_cons.1 hc with rfl | hc
      · exact hlt
      · exact String.lt_trans hlt (hhead cell hc)
    · split
      · rename_i heq
        exact List.pairwise_cons.2 ⟨fun cell hc => heq ▸ hhead cell hc, hrest⟩
      · rename_i hnlt hne
        refine List.pairwise_cons.2 ⟨fun cell hc => ?_, ih hrest⟩
        rcases mem_insertInto hc with rfl | hc
        · rcases Decidable.em (head.1 < name) with hlt | hle
          · exact hlt
          · exact absurd (String.le_antisymm (String.not_lt.1 hle) (String.not_lt.1 hnlt)) hne
        · exact hhead cell hc

def empty : Sample := { cells := [] }

def insert (s : Sample) (name : String) (value : Float) : Sample :=
  { cells := insertInto name value s.cells, ordered := ordered_insertInto name value s.ordered }

/-- The sample of a list of cells; of two cells of one name the later counts. -/
def ofCells (cells : List (String × Float)) : Sample :=
  cells.foldl (fun s cell => s.insert cell.1 cell.2) empty

def get? (s : Sample) (name : String) : Option Float := Assoc.find name s.cells

@[simp] theorem get?_empty (name : String) : empty.get? name = none := rfl

theorem find_insertInto (name other : String) (value : Float) (cells : List (String × Float)) :
    Assoc.find other (insertInto name value cells) =
      if other = name then some value else Assoc.find other cells := by
  induction cells with
  | nil => rfl
  | cons head rest ih =>
    simp only [insertInto]
    split
    · rfl
    · split
      · rename_i heq
        subst heq
        by_cases h : other = head.1 <;> simp [Assoc.find, h]
      · rename_i hne
        by_cases h : other = head.1
        · subst h
          simp [Assoc.find, Ne.symm hne]
        · simp [Assoc.find, h, ih]

@[simp] theorem get?_insert (s : Sample) (name other : String) (value : Float) :
    (s.insert name value).get? other = if other = name then some value else s.get? other :=
  find_insertInto name other value s.cells

/-- The value at `name`, or NaN, which a trace shows as a gap. -/
def getD (s : Sample) (name : String) : Float := (s.get? name).getD Binary64.nan

def names (s : Sample) : List String := s.cells.map Prod.fst

instance : BEq Sample where
  beq s t := s.cells == t.cells

end Sample

end DriveBench
