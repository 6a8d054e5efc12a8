import DriveBench.Storage.Change
import Mathlib.Data.List.TakeWhile

/-!
# The name at the end of a path

What a path leads to, and what it asks to make, has its name from the last piece
of the text. Nothing else about the text is needed.
-/

namespace DriveBench

-- ---------------------------------------------------------------------------
-- Pieces
-- ---------------------------------------------------------------------------

section Pieces

variable {separator : Char}

theorem pieces_ne_nil (text : List Char) : pieces separator text ≠ [] := by
  induction text with
  | nil => simp [pieces]
  | cons c rest ih =>
    unfold pieces
    split
    · simp
    · cases h : pieces separator rest <;> simp [extendFirst]

theorem extendFirst_append (c : Char) (first more : List (List Char)) (h : first ≠ []) :
    extendFirst c (first ++ more) = extendFirst c first ++ more := by
  cases first with
  | nil => exact absurd rfl h
  | cons piece rest => rfl

theorem pieces_of_notMem {text : List Char} (h : separator ∉ text) :
    pieces separator text = [text] := by
  induction text with
  | nil => rfl
  | cons c rest ih =>
    simp only [List.mem_cons, not_or] at h
    obtain ⟨hc, hrest⟩ := h
    simp [pieces, Ne.symm hc, ih hrest, extendFirst]

theorem pieces_separator (front back : List Char) :
    pieces separator (front ++ separator :: back) =
      pieces separator front ++ pieces separator back := by
  induction front with
  | nil => simp [pieces]
  | cons c rest ih =>
    simp only [List.cons_append, pieces, ih]
    split
    · rfl
    · exact extendFirst_append c _ _ (pieces_ne_nil rest)

theorem pieces_append {tail : List Char} (front : List Char) (h : separator ∉ tail) :
    ∃ first last, pieces separator front = first ++ [last] ∧
      pieces separator (front ++ tail) = first ++ [last ++ tail] := by
  induction front with
  | nil => exact ⟨[], [], rfl, by simpa using pieces_of_notMem h⟩
  | cons c rest ih =>
    obtain ⟨first, last, hrest, happ⟩ := ih
    by_cases hc : c = separator
    · exact ⟨[] :: first, last, by simp [pieces, hc, hrest], by simp [pieces, hc, happ]⟩
    · cases first with
      | nil => exact ⟨[], c :: last, by simp [pieces, hc, hrest, extendFirst],
          by simp [pieces, hc, happ, extendFirst]⟩
      | cons piece more => exact ⟨(c :: piece) :: more, last, by simp [pieces, hc, hrest, extendFirst],
          by simp [pieces, hc, happ, extendFirst]⟩

end Pieces

-- ---------------------------------------------------------------------------
-- Suffixes of names
-- ---------------------------------------------------------------------------

/-- A text that is part of one name wherever a path ends in it. -/
structure IsNameSuffix (suffix : List Char) : Prop where
  slash : '/' ∉ suffix
  letter : ∃ c ∈ suffix, c ≠ '.'

instance (suffix : List Char) : Decidable (IsNameSuffix suffix) :=
  decidable_of_iff ('/' ∉ suffix ∧ suffix.any (· != '.') = true)
    ⟨fun h => ⟨h.1, by simpa using h.2⟩, fun h => ⟨h.slash, by simpa using h.letter⟩⟩

def Location.EndsIn (suffix : List Char) (location : Location) : Prop :=
  ∃ name parent, location = name :: parent ∧ suffix <:+ name.toList

theorem Location.EndsIn.eq {first second : List Char} {location : Location}
    (h : EndsIn first location) (h' : EndsIn second location)
    (hl : first.length = second.length) : first = second := by
  obtain ⟨name, parent, rfl, hs⟩ := h
  obtain ⟨_, _, heq, hs'⟩ := h'
  obtain ⟨rfl, rfl⟩ := List.cons.inj heq
  exact (List.suffix_of_suffix_length_le hs hs' (Nat.le_of_eq hl)).eq_of_length hl

theorem Path.join_toList (base rest : String) :
    ∃ front, (join base rest).toList = front ++ rest.toList := by
  unfold join
  split
  · exact ⟨[], rfl⟩
  · split
    · exact ⟨base.toList, by simp⟩
    · exact ⟨base.toList ++ ['/'], by simp⟩

theorem Step.ofPiece_append {suffix : List Char} (hs : IsNameSuffix suffix) (piece : List Char) :
    ofPiece (piece ++ suffix) = name (String.ofList (piece ++ suffix)) := by
  obtain ⟨c, hc, hdot⟩ := hs.letter
  have hmem : c ∈ piece ++ suffix := List.mem_append_right _ hc
  unfold ofPiece
  split
  · rename_i h; simp [h] at hmem
  · rename_i h; simp [h, hdot] at hmem
  · rename_i h; simp [h, hdot] at hmem
  · rfl

namespace Filesystem

variable {fs : Filesystem} {path : String}

theorem walk_append (location : Location) (front back : List Step) :
    fs.walk location (front ++ back) = fs.walk location front >>= fun reached => fs.walk reached back := by
  induction front generalizing location with
  | nil => rfl
  | cons s rest ih =>
    simp only [List.cons_append, walk]
    cases fs.step location s with
    | error fault => rfl
    | ok reached => exact ih reached

theorem step_name_ok {location reached : Location} {name : String} :
    fs.step location (.name name) = .ok reached ↔ fs.get? location = some .directory ∧
      name.utf8ByteSize ≤ nameLimit ∧ (fs.get? (name :: location)).isSome ∧
      reached = name :: location := by
  unfold step
  split
  · simp_all
  · rename_i h
    simp only [ne_eq, Decidable.not_not] at h
    dsimp only
    split
    · simp [Nat.not_le.2 ‹_›]
    · split
      · simp_all
      · rename_i hsome
        simp only [Option.isNone_iff_eq_none, ← ne_eq, Option.ne_none_iff_isSome] at hsome
        simp [h, hsome, Nat.not_lt.1 ‹_›, eq_comm]

theorem step_stay_ok {location reached : Location} :
    fs.step location .stay = .ok reached ↔ fs.get? location = some .directory ∧ reached = location := by
  unfold step
  split
  · simp_all
  · rename_i h
    simp only [ne_eq, Decidable.not_not] at h
    simp [h, eq_comm]

theorem get?_of_step {location reached : Location} {s : Step} (h : fs.step location s = .ok reached) :
    (∃ name, s = .name name) ∨ fs.get? reached = some .directory := by
  cases s with
  | name n => exact .inl ⟨n, rfl⟩
  | stay =>
    obtain ⟨hd, rfl⟩ := step_stay_ok.1 h
    exact .inr hd
  | up =>
    unfold step at h
    split at h
    · cases h
    · rename_i hd
      obtain rfl : location.tail = reached := by simpa using h
      simp only [ne_eq, Decidable.not_not] at hd
      cases location with
      | nil => exact .inr hd
      | cons name parent => exact .inr (fs.get?_parent (Option.isSome_of_eq_some hd))

theorem walk_concat_ok {location reached : Location} {front : List Step} {s : Step} :
    fs.walk location (front ++ [s]) = .ok reached ↔
      ∃ before, fs.walk location front = .ok before ∧ fs.step before s = .ok reached := by
  rw [walk_append]
  cases fs.walk location front with
  | error fault => simp [bind, Except.bind]
  | ok before =>
    cases h : fs.step before s <;> simp [walk, bind, Except.bind, h]

theorem locate_ok {location : Location} :
    fs.locate path = .ok location ↔ textFault? path = none ∧
      fs.walk (fs.origin path) ((Path.pieces path).map Step.ofPiece) = .ok location := by
  unfold locate
  split
  · simp_all
  · simp_all

theorem endsIn_of_locate {suffix front : List Char} {location : Location} (hs : IsNameSuffix suffix)
    (htext : path.toList = front ++ suffix) (h : fs.locate path = .ok location) :
    location.EndsIn suffix := by
  obtain ⟨first, last, -, hpieces⟩ := pieces_append front hs.slash
  obtain ⟨-, hw⟩ := locate_ok.1 h
  rw [Path.pieces, htext, hpieces, List.map_append, walk_append] at hw
  cases hfront : fs.walk (fs.origin path) (first.map Step.ofPiece) with
  | error fault => simp [hfront, bind, Except.bind] at hw
  | ok parent =>
    simp only [hfront, bind, Except.bind, List.map_cons, List.map_nil, walk,
      Step.ofPiece_append hs] at hw
    cases hstep : fs.step parent (.name (String.ofList (last ++ suffix))) with
    | error fault =>
      rw [hstep] at hw
      cases hw
    | ok reached =>
      rw [hstep] at hw
      obtain ⟨-, -, -, rfl⟩ := step_name_ok.1 hstep
      simp only [Except.ok.injEq] at hw
      exact ⟨_, _, hw.symm, by simp⟩

theorem pieces_of_dropWhile {pieces front : List (List Char)} {last : List Char}
    (h : pieces.reverse.dropWhile (·.isEmpty) = last :: front) :
    ∃ blank, pieces = front.reverse ++ last :: blank ∧ ∀ piece ∈ blank, piece = [] := by
  refine ⟨(pieces.reverse.takeWhile (·.isEmpty)).reverse, ?_, fun piece hp => ?_⟩
  · have hall := List.takeWhile_append_dropWhile (p := (·.isEmpty)) (l := pieces.reverse)
    rw [h] at hall
    simpa using (congrArg List.reverse hall).symm
  · simpa using List.mem_takeWhile_imp (List.mem_reverse.1 hp)

/-- A target: all pieces up to the last that is not empty lead to the directory,
and that one is the name. Empty pieces behind it are slashes. -/
theorem target_fresh {name : String} {parent : Location} {inside : fs.get? parent = some .directory}
    {slash : Bool} (h : fs.target path = .ok (.fresh name parent inside slash)) :
    ∃ front last blank, Path.pieces path = front ++ last :: blank ∧ (∀ piece ∈ blank, piece = []) ∧
      (slash = false → blank = []) ∧ Step.ofPiece last = .name name ∧ textFault? path = none ∧
      fs.walk (fs.origin path) (front.map Step.ofPiece) = .ok parent := by
  unfold target at h
  split at h
  · cases h
  · rename_i hfault
    dsimp only at h
    split at h
    · cases h
    · rename_i last front hdrop
      obtain ⟨blank, hpieces, hblank⟩ := pieces_of_dropWhile hdrop
      split at h
      · cases h
      · rename_i reached hwalk
        split at h
        · split at h
          · rename_i n hpiece
            simp only [Except.ok.injEq, Target.fresh.injEq] at h
            obtain ⟨rfl, rfl, rfl⟩ := h
            refine ⟨front.reverse, last, blank, hpieces, hblank, fun hslash => ?_, hpiece, hfault, hwalk⟩
            -- the piece at the very end is empty if there is one behind the name
            cases hrev : blank.reverse with
            | nil => simpa using hrev
            | cons piece rest =>
              have hempty : piece = [] := hblank piece (by simpa using congrArg (piece ∈ ·) hrev)
              simp [hpieces, hrev, hempty] at hslash
          · cases h
        · cases h

theorem endsIn_of_target {suffix front : List Char} {name : String} {parent : Location}
    {inside : fs.get? parent = some .directory} (hs : IsNameSuffix suffix)
    (htext : path.toList = front ++ suffix)
    (h : fs.target path = .ok (.fresh name parent inside false)) :
    Location.EndsIn suffix (name :: parent) := by
  obtain ⟨first, last, -, hpieces⟩ := pieces_append front hs.slash
  obtain ⟨others, piece, blank, hsplit, -, hslash, hname, -, -⟩ := target_fresh h
  rw [Path.pieces, htext, hpieces, hslash rfl] at hsplit
  obtain ⟨rfl, hlast⟩ := List.append_inj' hsplit rfl
  obtain rfl := List.singleton_inj.1 hlast
  rw [Step.ofPiece_append hs, Step.name.injEq] at hname
  exact ⟨name, parent, rfl, by simp [← hname]⟩

end Filesystem

end DriveBench
