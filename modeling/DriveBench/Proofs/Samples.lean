import DriveBench.Sample
import Mathlib.Data.List.Nodup

/-!
# Samples by their values

A sample is the map that looking up its names shows, and the map of a list of
cells has under each name the last cell of that name.
-/

namespace DriveBench

theorem Assoc.find_append [DecidableEq α] (key : α) (front back : List (α × β)) :
    find key (front ++ back) = (find key front).or (find key back) := by
  induction front with
  | nil => rfl
  | cons pair rest ih =>
    rw [List.cons_append, find, find, ih]
    split <;> rfl

theorem Assoc.find_eq_none_iff [DecidableEq α] {pairs : List (α × β)} :
    find key pairs = none ↔ key ∉ pairs.map Prod.fst := by
  induction pairs with
  | nil => simp
  | cons pair rest ih =>
    rw [find, List.map_cons, List.mem_cons, not_or, ← ih]
    split <;> simp_all

theorem Assoc.find_eq_some_iff [DecidableEq α] {pairs : List (α × β)}
    (nodup : (pairs.map Prod.fst).Nodup) : find key pairs = some value ↔ (key, value) ∈ pairs := by
  induction pairs with
  | nil => simp
  | cons pair rest ih =>
    obtain ⟨hfirst, hrest⟩ := List.nodup_cons.1 nodup
    rw [find, List.mem_cons]
    split
    · rename_i hkey
      subst hkey
      have absent : (pair.1, value) ∉ rest := fun h => hfirst (List.mem_map.2 ⟨_, h, rfl⟩)
      simp [absent, Prod.ext_iff, eq_comm]
    · rename_i hkey
      rw [ih hrest]
      simp [Prod.ext_iff, hkey]

theorem Assoc.find_perm [DecidableEq α] {pairs others : List (α × β)} (perm : pairs.Perm others)
    (nodup : (pairs.map Prod.fst).Nodup) (key : α) : find key pairs = find key others := by
  have nodup' : (others.map Prod.fst).Nodup := (perm.map Prod.fst).nodup_iff.1 nodup
  refine Option.ext fun value => ?_
  rw [find_eq_some_iff nodup, find_eq_some_iff nodup', perm.mem_iff]

namespace Sample

theorem nodup_names (s : Sample) : s.names.Nodup :=
  List.pairwise_map.2 (s.ordered.imp fun {a b} hlt heq => by
    rw [heq] at hlt
    exact String.lt_irrefl _ hlt)

theorem ext_get? {s t : Sample} (h : ∀ name, s.get? name = t.get? name) : s = t := by
  have members : ∀ cell, cell ∈ s.cells ↔ cell ∈ t.cells := fun cell => by
    rw [← Assoc.find_eq_some_iff s.nodup_names, ← Assoc.find_eq_some_iff t.nodup_names]
    exact Eq.congr_left (h cell.1)
  have perm : s.cells.Perm t.cells :=
    (List.perm_ext_iff_of_nodup s.nodup_names.of_map t.nodup_names.of_map).2 members
  have equal : s.cells = t.cells :=
    perm.eq_of_pairwise (fun _ _ _ _ hlt hgt => absurd (String.lt_trans hlt hgt) (String.lt_irrefl _))
      s.ordered t.ordered
  cases s
  cases t
  simpa using equal

/-- Under each name is the last cell of that name. -/
theorem get?_ofCells (cells : List (String × Float)) (name : String) :
    (ofCells cells).get? name = Assoc.find name cells.reverse := by
  have insertAll : ∀ s : Sample, (cells.foldl (fun s cell => s.insert cell.1 cell.2) s).get? name =
      (Assoc.find name cells.reverse).or (s.get? name) := by
    induction cells with
    | nil => exact fun s => rfl
    | cons cell rest ih =>
      intro s
      rw [List.foldl_cons, ih, get?_insert, List.reverse_cons, Assoc.find_append, Option.or_assoc]
      congr 1
      rw [Assoc.find]
      split <;> rfl
  rw [ofCells, insertAll, get?_empty, Option.or_none]

theorem mem_names_iff {s : Sample} : name ∈ s.names ↔ s.get? name ≠ none := by
  rw [get?, Ne, Assoc.find_eq_none_iff, not_not, names]

theorem mem_names_ofCells {cells : List (String × Float)} :
    name ∈ (ofCells cells).names ↔ name ∈ cells.map Prod.fst := by
  rw [mem_names_iff, get?_ofCells, Ne, Assoc.find_eq_none_iff, not_not, List.map_reverse,
    List.mem_reverse]

theorem get?_ofCells_zip {front back : List String} {values : List Float} (last : name ∉ back)
    (width : values.length = (front ++ name :: back).length) :
    (ofCells ((front ++ name :: back).zip values)).get? name = values[front.length]? := by
  rw [get?_ofCells]
  induction front generalizing values with
  | nil =>
    cases values with
    | nil => simp at width
    | cons value values =>
      have absent : name ∉ ((back.zip values).reverse).map Prod.fst := by
        rw [List.map_reverse, List.mem_reverse]
        intro h
        obtain ⟨cell, hcell, rfl⟩ := List.mem_map.1 h
        exact last (List.of_mem_zip hcell).1
      rw [List.nil_append, List.zip_cons_cons, List.reverse_cons, Assoc.find_append,
        Assoc.find_eq_none_iff.2 absent]
      simp [Assoc.find]
  | cons other front ih =>
    cases values with
    | nil => simp at width
    | cons value values =>
      have inside : front.length < values.length := by simp at width; omega
      rw [List.cons_append, List.zip_cons_cons, List.reverse_cons, Assoc.find_append,
        ih (by simpa using width), List.getElem?_eq_getElem inside]
      simp [inside]

theorem ofCells_perm {cells others : List (String × Float)} (perm : cells.Perm others)
    (nodup : (cells.map Prod.fst).Nodup) : ofCells cells = ofCells others := by
  have reversed : cells.reverse.Perm others.reverse :=
    (cells.reverse_perm.trans perm).trans others.reverse_perm.symm
  refine ext_get? fun name => ?_
  rw [get?_ofCells, get?_ofCells]
  exact Assoc.find_perm reversed (by simpa using nodup) name

end Sample

end DriveBench
