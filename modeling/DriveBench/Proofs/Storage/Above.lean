import DriveBench.Proofs.Storage.Keeping

/-!
# The paths above a path

The paths above a path are beginnings of its text, each cut off before a slash
with more than slashes behind it.
-/

namespace DriveBench

-- ---------------------------------------------------------------------------
-- Paths above a path
-- ---------------------------------------------------------------------------

namespace Path

def Over (upper path : String) : Prop :=
  upper ≠ "" ∧ ∃ rest, path.toList = upper.toList ++ '/' :: rest ∧ ∃ c ∈ rest, c ≠ '/'

theorem Over.isAbsolute (h : Over upper path) : isAbsolute path = isAbsolute upper := by
  obtain ⟨hne, rest, htext, -⟩ := h
  obtain ⟨c, more, hcons⟩ := List.exists_cons_of_ne_nil (mt String.toList_eq_nil_iff.1 hne)
  simp [Path.isAbsolute, htext, hcons]

theorem exists_ne_nil_of_mem {text : List Char} (h : c ∈ text) (hc : c ≠ separator) :
    ∃ piece ∈ DriveBench.pieces separator text, piece ≠ [] := by
  induction text with
  | nil => cases h
  | cons d rest ih =>
    unfold DriveBench.pieces
    split
    · rename_i hd
      subst hd
      obtain ⟨piece, hp, hne⟩ := ih ((List.mem_cons.1 h).resolve_left hc)
      exact ⟨piece, List.mem_cons_of_mem _ hp, hne⟩
    · cases hrest : DriveBench.pieces separator rest with
      | nil => exact ⟨[d], by simp [extendFirst], by simp⟩
      | cons first more => exact ⟨d :: first, by simp [extendFirst], by simp⟩

theorem Over.pieces (h : Over upper path) :
    ∃ rest, pieces path = pieces upper ++ rest ∧ ∃ piece ∈ rest, piece ≠ [] := by
  obtain ⟨-, rest, htext, c, hc, hslash⟩ := h
  refine ⟨DriveBench.pieces '/' rest, ?_, exists_ne_nil_of_mem hc hslash⟩
  rw [Path.pieces, htext, pieces_separator, Path.pieces]

theorem exists_pieces (separator : Char) (text : List Char) :
    ∃ first rest, DriveBench.pieces separator text = first :: rest ∧
      text = first ++ rest.flatMap (separator :: ·) := by
  induction text with
  | nil => exact ⟨[], [], rfl, rfl⟩
  | cons c text ih =>
    obtain ⟨first, rest, hpieces, htext⟩ := ih
    by_cases hc : c = separator
    · refine ⟨[], first :: rest, by simp [DriveBench.pieces, hc, hpieces], ?_⟩
      rw [hc, List.flatMap_cons, List.nil_append, List.cons_append, ← htext]
    · refine ⟨c :: first, rest, by simp [DriveBench.pieces, hc, hpieces, extendFirst], ?_⟩
      rw [List.cons_append, ← htext]

theorem of_mem_beginnings {text found : List Char} {rest : List (List Char)}
    (slashless : ∀ piece ∈ rest, '/' ∉ piece) (h : found ∈ beginnings (some text) rest) :
    found <+: text ++ rest.flatMap ('/' :: ·) ∧
      ∃ more, found = text ++ '/' :: more ∧ ∃ c ∈ more, c ≠ '/' := by
  induction rest generalizing text with
  | nil => cases h
  | cons piece rest ih =>
    obtain ⟨hpiece, hrest⟩ := List.forall_mem_cons.1 slashless
    have htext : text ++ (piece :: rest).flatMap ('/' :: ·) =
        text ++ '/' :: piece ++ rest.flatMap ('/' :: ·) := by simp
    have deeper (h : found ∈ beginnings (some (text ++ '/' :: piece)) rest) :
        found <+: text ++ (piece :: rest).flatMap ('/' :: ·) ∧
          ∃ more, found = text ++ '/' :: more ∧ ∃ c ∈ more, c ≠ '/' := by
      obtain ⟨hbegins, more, hfound, c, hc, hslash⟩ := ih hrest h
      rw [htext]
      exact ⟨hbegins, piece ++ '/' :: more, by simp [hfound], c, by simp [hc], hslash⟩
    unfold beginnings at h
    dsimp only [Option.elim] at h
    split at h
    · rename_i hcomponent
      rcases List.mem_cons.1 h with rfl | h
      · obtain ⟨c, more, rfl⟩ := List.exists_cons_of_ne_nil hcomponent.1
        refine ⟨htext ▸ List.prefix_append _ _, c :: more, rfl, c, List.mem_cons_self, ?_⟩
        rintro rfl
        exact hpiece List.mem_cons_self
      · exact deeper h
    · exact deeper h

theorem pairwise_beginnings {front : Option (List Char)} {rest : List (List Char)}
    (slashless : ∀ piece ∈ rest, '/' ∉ piece) :
    (beginnings front rest).Pairwise fun upper lower =>
      upper ≠ [] ∧ ∃ more, lower = upper ++ '/' :: more ∧ ∃ c ∈ more, c ≠ '/' := by
  induction rest generalizing front with
  | nil => exact .nil
  | cons piece rest ih =>
    obtain ⟨-, hrest⟩ := List.forall_mem_cons.1 slashless
    unfold beginnings
    dsimp only
    split
    · rename_i hcomponent
      refine List.pairwise_cons.2 ⟨fun lower hl => ⟨?_, (of_mem_beginnings hrest hl).2⟩, ih hrest⟩
      cases front with
      | none => exact hcomponent.1
      | some text => simp [Option.elim]
    · exact ih hrest

theorem prefix_of_mem_beginnings {path : String} {found : List Char}
    (h : found ∈ beginnings none (pieces path)) : found <+: path.toList := by
  obtain ⟨first, rest, hpieces, htext⟩ := exists_pieces '/' path.toList
  have slashless : ∀ piece ∈ rest, '/' ∉ piece := by
    intro piece hp
    have hmem : piece ∈ DriveBench.pieces '/' path.toList := by
      rw [hpieces]
      exact List.mem_cons_of_mem _ hp
    exact separator_notMem_of_mem_pieces hmem
  rw [pieces, hpieces] at h
  unfold beginnings at h
  dsimp only [Option.elim] at h
  rw [htext]
  split at h
  · rcases List.mem_cons.1 h with rfl | h
    · exact List.prefix_append _ _
    · exact (of_mem_beginnings slashless h).1
  · exact (of_mem_beginnings slashless h).1

/-- Each of the paths above a path is over all that come before it. -/
theorem pairwise_above (path : String) :
    (path :: above path).Pairwise fun lower upper => upper = "/" ∨ Over upper lower := by
  let inner := (beginnings none (pieces path)).dropLast.reverse.map String.ofList
  have deeper : (beginnings none (pieces path)).Pairwise fun upper lower =>
      upper ≠ [] ∧ ∃ more, lower = upper ++ '/' :: more ∧ ∃ c ∈ more, c ≠ '/' :=
    pairwise_beginnings fun piece hp => separator_notMem_of_mem_pieces hp
  have over_path : ∀ upper ∈ inner, Over upper path := by
    intro upper hu
    obtain ⟨found, hf, rfl⟩ := List.mem_map.1 hu
    rw [List.mem_reverse] at hf
    -- behind what is dropped there is one more beginning, and the path begins with it
    obtain ⟨front, last, hall⟩ : ∃ front last, beginnings none (pieces path) = front ++ [last] :=
      ⟨_, _, (List.dropLast_concat_getLast fun hnil => by simp [hnil] at hf).symm⟩
    rw [hall, List.dropLast_concat] at hf
    obtain ⟨-, -, hlast⟩ := List.pairwise_append.1 (hall ▸ deeper)
    obtain ⟨hne, more, heq, c, hc, hslash⟩ := hlast found hf last List.mem_cons_self
    have hlast : last ∈ beginnings none (pieces path) := by simp [hall]
    obtain ⟨tail, htail⟩ := prefix_of_mem_beginnings hlast
    refine ⟨by simpa using hne, more ++ tail, ?_, c, List.mem_append_left _ hc, hslash⟩
    simp [← htail, heq]
  have over_inner : inner.Pairwise fun lower upper => upper = "/" ∨ Over upper lower := by
    rw [List.pairwise_map, List.pairwise_reverse]
    refine (deeper.sublist (List.dropLast_sublist _)).imp fun {upper lower} h => .inr ?_
    obtain ⟨hne, more, heq, hmore⟩ := h
    exact ⟨by simpa using hne, more, by simp [heq], hmore⟩
  unfold above
  split
  · refine List.pairwise_cons.2 ⟨fun upper hu => ?_, List.pairwise_append.2 ⟨over_inner, by simp, ?_⟩⟩
    · rcases List.mem_append.1 hu with hu | hu
      · exact .inr (over_path upper hu)
      · exact .inl (List.mem_singleton.1 hu)
    · intro lower _ upper hu
      exact .inl (List.mem_singleton.1 hu)
  · exact List.pairwise_cons.2 ⟨fun upper hu => .inr (over_path upper hu), over_inner⟩

end Path

namespace Filesystem

variable {fs made before after : Filesystem} {path upper : String}

-- ---------------------------------------------------------------------------
-- What is above a directory is a directory
-- ---------------------------------------------------------------------------

theorem origin_of_over (h : Path.Over upper path) : fs.origin path = fs.origin upper := by
  rw [origin, origin, h.isAbsolute]

theorem textFault?_of_over (h : Path.Over upper path) (text : textFault? path = none) :
    textFault? upper = none := by
  obtain ⟨hne, rest, htext, -⟩ := h
  unfold textFault? at text ⊢
  split at text
  · cases text
  · rename_i hnul
    split at text
    · cases text
    · split at text
      · cases text
      · rename_i hsize
        have hpath : path = upper ++ String.ofList ('/' :: rest) := by
          rw [← String.toList_inj, htext]; simp
        have hshort : upper.utf8ByteSize ≤ path.utf8ByteSize := by
          rw [hpath, String.utf8ByteSize_append]; exact Nat.le_add_right _ _
        rw [htext] at hnul
        rw [if_neg fun h => hnul (by simp_all), if_neg (by simpa using hne), if_neg (by omega)]

theorem directory_of_walk {location reached : Location} {steps : List Step}
    (hw : fs.walk location steps = .ok reached) (hd : fs.get? reached = some .directory) :
    fs.get? location = some .directory := by
  cases steps with
  | nil => cases hw; exact hd
  | cons s rest =>
    by_cases h : fs.get? location = some .directory
    · exact h
    · simp [walk, step, h, bind, Except.bind] at hw

theorem isDirectory_of_walk {rest : List (List Char)} {reached : Location}
    (text : textFault? path = none)
    (hw : fs.walk (fs.origin path) ((Path.pieces path ++ rest).map Step.ofPiece) = .ok reached)
    (hd : fs.get? reached = some .directory) : fs.isDirectory path = true := by
  rw [List.map_append, walk_append] at hw
  cases hfront : fs.walk (fs.origin path) ((Path.pieces path).map Step.ofPiece) with
  | error fault => rw [hfront] at hw; cases hw
  | ok location =>
    rw [hfront] at hw
    refine isDirectory_iff.2 (lookup_ok.2 ⟨location, locate_ok.2 ⟨text, hfront⟩, ?_⟩)
    exact directory_of_walk hw hd

theorem locate_root : fs.locate "/" = .ok [] := by
  have horigin : fs.origin "/" = [] := if_pos (by decide)
  have hpieces : (Path.pieces "/").map Step.ofPiece = [.stay, .stay] := by decide
  refine locate_ok.2 ⟨by decide, ?_⟩
  rw [horigin, hpieces]
  simp [walk, step, bind, Except.bind]

theorem isDirectory_root : fs.isDirectory "/" = true :=
  isDirectory_iff.2 (lookup_ok.2 ⟨[], locate_root, get?_nil fs⟩)

theorem isDirectory_above (h : upper = "/" ∨ Path.Over upper path)
    (hd : fs.isDirectory path = true) : fs.isDirectory upper = true := by
  obtain rfl | h := h
  · exact isDirectory_root
  · obtain ⟨rest, hpieces, -⟩ := h.pieces
    obtain ⟨location, hlocate, hget⟩ := lookup_ok.1 (isDirectory_iff.1 hd)
    obtain ⟨text, hw⟩ := locate_ok.1 hlocate
    rw [hpieces, origin_of_over h] at hw
    exact isDirectory_of_walk (textFault?_of_over h text) hw hget

theorem isDirectory_above_of_makeDirectory (h : upper = "/" ∨ Path.Over upper path)
    (hm : fs.makeDirectory path = .ok made) : fs.isDirectory upper = true := by
  obtain rfl | h := h
  · exact isDirectory_root
  · obtain ⟨name, parent, inside, slash, target, -⟩ := get?_makeDirectory hm
    obtain ⟨front, last, blank, hsplit, hblank, -, -, text, hw⟩ := target_fresh target
    obtain ⟨rest, hpieces, piece, hp, hne⟩ := h.pieces
    -- the name is behind `upper`, as the pieces behind the name are empty
    obtain ⟨between, rfl⟩ : ∃ between, front = Path.pieces upper ++ between := by
      rcases List.append_eq_append_iff.1 (hpieces.symm.trans hsplit) with
        ⟨between, hfront, -⟩ | ⟨extra, hupper, hbehind⟩
      · exact ⟨between, hfront⟩
      · cases extra with
        | nil => exact ⟨[], by simpa using hupper.symm⟩
        | cons first extra =>
          obtain ⟨-, rfl⟩ := List.cons.inj hbehind
          exact absurd (hblank piece (List.mem_append_right _ hp)) hne
    rw [origin_of_over h] at hw
    exact isDirectory_of_walk (textFault?_of_over h text) hw inside

end Filesystem

end DriveBench
