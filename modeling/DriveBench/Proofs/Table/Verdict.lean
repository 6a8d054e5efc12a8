import DriveBench.Proofs.Sequence
import DriveBench.Proofs.Table.Splitting
import DriveBench.Proofs.Text.Utf8
import DriveBench.Recording.Loading
import DriveBench.Storage.Change

/-!
# The verdict on a file

What a file is worth, said of its records all at once: `Verdict` has a case for
each way to end, and each case names the first defect by what stands before it.
-/

namespace DriveBench

def Utf8.IsText (bytes : List UInt8) : Prop := ∃ text, encode text = bytes

theorem Utf8.decode?_eq_none_iff : decode? bytes = none ↔ ¬ IsText bytes := by
  simp only [Option.eq_none_iff_forall_ne_some, ne_eq, decode?_eq_some_iff, IsText, not_exists]

open Utf8 (IsText)

namespace Table

-- ---------------------------------------------------------------------------
-- The verdict
-- ---------------------------------------------------------------------------

def IsName (field : List UInt8) (name : String) : Prop :=
  ∃ text, Utf8.encode text = field ∧ trimText text = name

def IsCell (field : List UInt8) (cell : String) : Prop :=
  ∃ text, Utf8.encode text = trimBytes field ∧ trimText text = cell

def IsNumber (field : List UInt8) (value : Float) : Prop :=
  ∃ cell, IsCell field cell ∧ Numeral.parse? cell = some value

def IsSample (columns : List String) (r : Record) (sample : Sample) : Prop :=
  ∃ values, r.fields.length = columns.length ∧ List.Forall₂ IsNumber r.fields values ∧
    sample = Sample.ofCells (columns.zip values)

/-- What is wrong with a data record: the number of its fields before their
text, and their text before the numbers, each of them from the left. -/
inductive Spoils (columns : List String) (row : Nat) (r : Record) : Defect → Prop
  | ragged : r.fields.length ≠ columns.length →
      Spoils columns row r (.ragged row r.start r.fields.length columns.length)
  | notText {front field back} : r.fields.length = columns.length →
      r.fields = front ++ field :: back →
      (∀ f ∈ front, IsText (trimBytes f)) → ¬ IsText (trimBytes field) →
      Spoils columns row r (.notText row r.start front.length (Utf8.validLength (trimBytes field)))
  | notNumber {front field back column cell} : r.fields.length = columns.length →
      (∀ f ∈ r.fields, IsText (trimBytes f)) →
      r.fields = front ++ field :: back → columns[front.length]? = some column →
      (∀ f ∈ front, ∃ value, IsNumber f value) → IsCell field cell → Numeral.parse? cell = none →
      Spoils columns row r (.notNumber row column cell)

/-- What comes of the records of a file. Data records are numbered from 1. -/
inductive Verdict (timeColumn : String) : List Record → Except Defect Table → Prop
  | empty : Verdict timeColumn [] (.ok ⟨[], []⟩)
  | header {header rows front field back} : header.fields = front ++ field :: back →
      (∀ f ∈ front, IsText f) → ¬ IsText field →
      Verdict timeColumn (header :: rows)
        (.error (.notText 0 header.start front.length (Utf8.validLength field)))
  | record {header columns front r back defect} : List.Forall₂ IsName header.fields columns →
      (∀ earlier ∈ front, ∃ sample, IsSample columns earlier sample) →
      Spoils columns (front.length + 1) r defect →
      Verdict timeColumn (header :: (front ++ r :: back)) (.error defect)
  | untimed {header columns rows} : List.Forall₂ IsName header.fields columns → rows ≠ [] →
      (∀ r ∈ rows, ∃ sample, IsSample columns r sample) → timeColumn ∉ columns →
      Verdict timeColumn (header :: rows) (.error (.missingColumn timeColumn))
  | table {header columns rows samples} : List.Forall₂ IsName header.fields columns →
      List.Forall₂ (IsSample columns) rows samples → (rows = [] ∨ timeColumn ∈ columns) →
      Verdict timeColumn (header :: rows) (.ok ⟨columns, samples⟩)

-- ---------------------------------------------------------------------------
-- Texts of fields
-- ---------------------------------------------------------------------------

theorem texts_go_ok :
    Record.texts.go r record i fields = .ok texts ↔
      List.Forall₂ (fun field text => Utf8.encode text = field) fields texts := by
  induction fields generalizing i texts with
  | nil => simp [Record.texts.go, eq_comm]
  | cons field fields ih =>
    rw [Record.texts.go, List.forall₂_cons_left_iff]
    cases hd : Utf8.decode? field with
    | none =>
      have bad := Utf8.decode?_eq_none_iff.1 hd
      simp only [reduceCtorEq, false_iff, not_exists, not_and]
      exact fun text _ htext => absurd ⟨text, htext⟩ bad
    | some text =>
      simp only [map_ok, ih, ← Utf8.decode?_eq_some_iff, hd, Option.some.injEq]
      constructor
      · rintro ⟨texts, htexts, rfl⟩
        exact ⟨text, texts, rfl, htexts, rfl⟩
      · rintro ⟨_, texts, rfl, htexts, rfl⟩
        exact ⟨texts, htexts, rfl⟩

theorem texts_go_error :
    Record.texts.go r record i fields = .error d ↔
      FirstAt IsText
        (fun j field => ¬ IsText field ∧
          d = .notText record r.start (i + j) (Utf8.validLength field)) fields := by
  induction fields generalizing i with
  | nil => simp [Record.texts.go]
  | cons field fields ih =>
    rw [Record.texts.go, firstAt_cons]
    cases hd : Utf8.decode? field with
    | none =>
      have bad := Utf8.decode?_eq_none_iff.1 hd
      simp [bad, eq_comm]
    | some text =>
      have good : IsText field := ⟨text, Utf8.decode?_eq_some_iff.1 hd⟩
      simp [map_error, ih, good, Nat.add_assoc, Nat.add_comm 1]

theorem columns_ok {header : Record} {columns : List String} :
    header.columns = .ok columns ↔ List.Forall₂ IsName header.fields columns := by
  rw [Record.columns, Record.texts, map_ok]
  simp only [texts_go_ok]
  exact forall₂_comp_map

theorem columns_error {header : Record} :
    header.columns = .error d ↔
      FirstAt IsText
        (fun i field => ¬ IsText field ∧ d = .notText 0 header.start i (Utf8.validLength field))
        header.fields := by
  simp [Record.columns, Record.texts, map_error, texts_go_error]

theorem cells_ok {r : Record} :
    r.cells row width = .ok cells ↔ r.fields.length = width ∧ List.Forall₂ IsCell r.fields cells := by
  unfold Record.cells
  split
  · simp_all
  · rename_i hcount
    simp only [ne_eq, Decidable.not_not] at hcount
    simp only [hcount, true_and, Record.texts, map_ok, texts_go_ok, List.forall₂_map_left_iff]
    exact forall₂_comp_map

theorem cells_error {r : Record} :
    r.cells row width = .error d ↔
      (r.fields.length ≠ width ∧ d = .ragged row r.start r.fields.length width) ∨
      (r.fields.length = width ∧ FirstAt (fun f => IsText (trimBytes f))
        (fun i f => ¬ IsText (trimBytes f) ∧
          d = .notText row r.start i (Utf8.validLength (trimBytes f))) r.fields) := by
  unfold Record.cells
  split
  · rename_i hcount
    simp [hcount, eq_comm]
  · rename_i hcount
    simp only [ne_eq, Decidable.not_not] at hcount
    simp [hcount, Record.texts, map_error, texts_go_error, firstAt_map]

-- ---------------------------------------------------------------------------
-- Numbers of cells
-- ---------------------------------------------------------------------------

theorem IsCell.unique (h : IsCell field cell) (h' : IsCell field other) : cell = other := by
  obtain ⟨text, htext, rfl⟩ := h
  obtain ⟨_, hother, rfl⟩ := h'
  rw [Utf8.encode_injective (htext.trans hother.symm)]

theorem IsCell.isNumber_iff (h : IsCell field cell) :
    IsNumber field value ↔ Numeral.parse? cell = some value := by
  constructor
  · rintro ⟨_, hother, hvalue⟩
    exact h.unique hother ▸ hvalue
  · intro hvalue
    exact ⟨cell, h, hvalue⟩

theorem exists_cell_iff : (∃ cell, IsCell field cell) ↔ IsText (trimBytes field) := by
  constructor
  · rintro ⟨cell, text, htext, -⟩
    exact ⟨text, htext⟩
  · rintro ⟨text, htext⟩
    exact ⟨trimText text, text, htext, rfl⟩

theorem readCells_ok {columns : List String} (hcells : List.Forall₂ IsCell fields cells)
    (hcount : fields.length = columns.length) :
    readCells row (columns.zip cells) = .ok pairs ↔
      ∃ values, List.Forall₂ IsNumber fields values ∧ columns.zip values = pairs := by
  induction hcells generalizing columns pairs with
  | nil => simp [readCells]
  | @cons field cell fields cells hcell _ ih =>
    match columns with
    | [] => simp at hcount
    | column :: columns =>
      rw [List.zip_cons_cons, readCells]
      simp only [List.forall₂_cons_left_iff, hcell.isNumber_iff]
      cases hv : Numeral.parse? cell with
      | none => simp
      | some value =>
        simp only [map_ok, ih (Nat.succ.inj hcount)]
        constructor
        · rintro ⟨_, ⟨values, hvalues, rfl⟩, rfl⟩
          exact ⟨_, ⟨value, values, rfl, hvalues, rfl⟩, rfl⟩
        · rintro ⟨_, ⟨_, values, hvalue, hvalues, rfl⟩, rfl⟩
          obtain rfl := Option.some.inj hvalue
          exact ⟨_, ⟨values, hvalues, rfl⟩, rfl⟩

def BadCell (columns : List String) (row : Nat) (d : Defect) (i : Nat) (field : List UInt8) : Prop :=
  ∃ column cell, columns[i]? = some column ∧ IsCell field cell ∧ Numeral.parse? cell = none ∧
    d = .notNumber row column cell

theorem readCells_error {columns : List String} (hcells : List.Forall₂ IsCell fields cells)
    (hcount : fields.length = columns.length) :
    readCells row (columns.zip cells) = .error d ↔
      FirstAt (fun f => ∃ value, IsNumber f value) (BadCell columns row d) fields := by
  induction hcells generalizing columns with
  | nil => simp [readCells]
  | @cons field cell fields cells hcell _ ih =>
    match columns with
    | [] => simp at hcount
    | column :: columns =>
      have later : BadCell columns row d = fun i => BadCell (column :: columns) row d (i + 1) := by
        simp [BadCell, funext_iff]
      rw [List.zip_cons_cons, readCells, firstAt_cons, ← later]
      simp only [hcell.isNumber_iff]
      cases hv : Numeral.parse? cell with
      | none =>
        simp only [reduceCtorEq, exists_false, false_and, or_false]
        constructor
        · intro h
          exact ⟨column, cell, rfl, hcell, hv, (Except.error.inj h).symm⟩
        · rintro ⟨_, other, hcolumn, hother, -, rfl⟩
          obtain rfl := Option.some.inj hcolumn
          rw [hcell.unique hother]
      | some value =>
        simp only [map_error, ih (Nat.succ.inj hcount), Option.some.injEq, exists_eq', true_and]
        constructor
        · exact .inr
        · rintro (⟨_, other, -, hother, hbad, -⟩ | h)
          · rw [← hcell.unique hother, hv] at hbad
            contradiction
          · exact h

-- ---------------------------------------------------------------------------
-- Data records
-- ---------------------------------------------------------------------------

theorem readSample_ok {columns : List String} :
    readSample columns row r = .ok sample ↔ IsSample columns r sample := by
  unfold readSample IsSample
  simp only [bind_ok, cells_ok]
  constructor
  · rintro ⟨cells, ⟨hcount, hcells⟩, pairs, hpairs, hsample⟩
    obtain ⟨values, hvalues, rfl⟩ := (readCells_ok hcells hcount).1 hpairs
    exact ⟨values, hcount, hvalues, (Except.ok.inj hsample).symm⟩
  · rintro ⟨values, hcount, hvalues, rfl⟩
    obtain ⟨cells, hcells⟩ : ∃ cells, List.Forall₂ IsCell r.fields cells := by
      refine exists_forall₂_iff.2 fun field hfield => ?_
      obtain ⟨value, cell, hcell, -⟩ := exists_forall₂_iff.1 ⟨values, hvalues⟩ field hfield
      exact ⟨cell, hcell⟩
    exact ⟨cells, ⟨hcount, hcells⟩, _, (readCells_ok hcells hcount).2 ⟨values, hvalues, rfl⟩, rfl⟩

theorem readSample_error {columns : List String} {r : Record} :
    readSample columns row r = .error d ↔ Spoils columns row r d := by
  unfold readSample
  simp only [bind_error, cells_error, cells_ok]
  constructor
  · rintro ((⟨hcount, rfl⟩ | ⟨hcount, front, field, back, hfields, hgood, hbad, rfl⟩) |
      ⟨cells, ⟨hcount, hcells⟩, hnumbers | ⟨pairs, -, h⟩⟩)
    · exact .ragged hcount
    · exact .notText hcount hfields hgood hbad
    · obtain ⟨front, field, back, hfields, hgood, column, cell, hcolumn, hcell, hbad, rfl⟩ :=
        (readCells_error hcells hcount).1 hnumbers
      have texts : ∀ f ∈ r.fields, IsText (trimBytes f) := fun f hf =>
        exists_cell_iff.1 (exists_forall₂_iff.1 ⟨cells, hcells⟩ f hf)
      exact .notNumber hcount texts hfields hcolumn hgood hcell hbad
    · contradiction
  · intro h
    cases h with
    | ragged hcount => exact .inl (.inl ⟨hcount, rfl⟩)
    | notText hcount hfields hgood hbad =>
      exact .inl (.inr ⟨hcount, _, _, _, hfields, hgood, hbad, rfl⟩)
    | notNumber hcount texts hfields hcolumn hgood hcell hbad =>
      obtain ⟨cells, hcells⟩ : ∃ cells, List.Forall₂ IsCell r.fields cells :=
        exists_forall₂_iff.2 fun f hf => exists_cell_iff.2 (texts f hf)
      refine .inr ⟨cells, ⟨hcount, hcells⟩, .inl ?_⟩
      exact (readCells_error hcells hcount).2
        ⟨_, _, _, hfields, hgood, _, _, hcolumn, hcell, hbad, rfl⟩

theorem readSamples_ok {columns : List String} {samples : List Sample} :
    readSamples columns row rows = .ok samples ↔ List.Forall₂ (IsSample columns) rows samples := by
  induction rows generalizing row samples with
  | nil => simp [readSamples, eq_comm]
  | cons r rows ih =>
    rw [readSamples, List.forall₂_cons_left_iff]
    simp only [bind_ok, readSample_ok, ih]
    constructor
    · rintro ⟨sample, hsample, samples, hsamples, h⟩
      exact ⟨sample, samples, hsample, hsamples, (Except.ok.inj h).symm⟩
    · rintro ⟨sample, samples, hsample, hsamples, rfl⟩
      exact ⟨sample, hsample, samples, hsamples, rfl⟩

theorem readSamples_error {columns : List String} :
    readSamples columns row rows = .error d ↔
      FirstAt (fun r => ∃ sample, IsSample columns r sample)
        (fun i r => Spoils columns (row + i) r d) rows := by
  induction rows generalizing row with
  | nil => simp [readSamples]
  | cons r rows ih =>
    rw [readSamples, firstAt_cons]
    simp only [bind_error, readSample_ok, readSample_error, ih, Nat.add_assoc, Nat.add_comm 1]
    constructor
    · rintro (h | ⟨sample, hsample, h | ⟨samples, -, h⟩⟩)
      · exact .inl h
      · exact .inr ⟨⟨sample, hsample⟩, h⟩
      · contradiction
    · rintro (h | ⟨⟨sample, hsample⟩, h⟩)
      · exact .inl h
      · exact .inr ⟨sample, hsample, .inl h⟩

-- ---------------------------------------------------------------------------
-- Whole files
-- ---------------------------------------------------------------------------

theorem read_ok {table : Table} :
    read bytes timeColumn = .ok table ↔ Verdict timeColumn (records bytes) (.ok table) := by
  unfold read
  cases records bytes with
  | nil =>
    constructor
    · intro h
      obtain rfl := Except.ok.inj h
      exact .empty
    · intro h
      cases h
      rfl
  | cons header rows =>
    simp only [bind_ok, columns_ok, readSamples_ok]
    constructor
    · rintro ⟨columns, hcolumns, samples, hsamples, h⟩
      split at h
      · rename_i timed
        obtain rfl := Except.ok.inj h
        refine .table hcolumns hsamples ?_
        simpa [isEmpty_eq_of_forall₂ hsamples] using timed
      · contradiction
    · intro h
      cases h with
      | table hcolumns hsamples timed =>
        refine ⟨_, hcolumns, _, hsamples, if_pos ?_⟩
        simpa [isEmpty_eq_of_forall₂ hsamples] using timed

theorem read_error :
    read bytes timeColumn = .error d ↔ Verdict timeColumn (records bytes) (.error d) := by
  unfold read
  cases records bytes with
  | nil =>
    constructor
    · intro h
      contradiction
    · intro h
      cases h
  | cons header rows =>
    simp only [bind_error, columns_ok, columns_error, readSamples_ok, readSamples_error]
    constructor
    · rintro (⟨front, field, back, hfields, hgood, hbad, rfl⟩ |
        ⟨columns, hcolumns, ⟨front, r, back, rfl, hgood, hbad⟩ | ⟨samples, hsamples, h⟩⟩)
      · exact .header hfields hgood hbad
      · exact .record hcolumns hgood (by rwa [Nat.add_comm])
      · split at h
        · contradiction
        · rename_i untimed
          obtain rfl := Except.error.inj h
          simp only [isEmpty_eq_of_forall₂ hsamples, Bool.or_eq_true, List.isEmpty_iff,
            List.contains_iff_mem, not_or] at untimed
          exact .untimed hcolumns untimed.1 (exists_forall₂_iff.1 ⟨_, hsamples⟩) untimed.2
    · intro h
      cases h with
      | header hfields hgood hbad => exact .inl ⟨_, _, _, hfields, hgood, hbad, rfl⟩
      | record hcolumns hgood hbad =>
        exact .inr ⟨_, hcolumns, .inl ⟨_, _, _, rfl, hgood, by simpa [Nat.add_comm] using hbad⟩⟩
      | untimed hcolumns nonempty hgood untimed =>
        obtain ⟨samples, hsamples⟩ := exists_forall₂_iff.2 hgood
        refine .inr ⟨_, hcolumns, .inr ⟨samples, hsamples, if_neg ?_⟩⟩
        simp [isEmpty_eq_of_forall₂ hsamples, nonempty, untimed]

end Table

namespace Recording

open Table (IsFile Verdict isFile_iff read_ok read_error)

/-- The bytes of a file split into records in one way, and loading the file
succeeds or fails as the verdict on these records says. -/
theorem load_follows_verdict (timeColumn : String) (opened : fs.lookup path = .ok (.file bytes)) :
    ∃ found, (∀ other, IsFile bytes.data.toList other ↔ other = found) ∧
      (∀ recording, load fs path timeColumn = .ok recording ↔
        recording.title = Path.stem path ∧ Verdict timeColumn found (.ok recording.toTable)) ∧
      (∀ failure, load fs path timeColumn = .error failure ↔
        ∃ defect, failure = ⟨path, .defective defect⟩ ∧ Verdict timeColumn found (.error defect)) := by
  refine ⟨Table.records bytes.data.toList, fun other => ?_, fun recording => ?_, fun failure => ?_⟩
  · rw [isFile_iff, eq_comm]
  · rw [← read_ok, load_of_lookup opened]
    constructor
    · intro h
      obtain ⟨table, htable, rfl⟩ := ofBytes_ok.1 h
      exact ⟨rfl, htable⟩
    · rintro ⟨htitle, htable⟩
      exact ofBytes_ok.2 ⟨_, htable, by rw [← htitle]⟩
  · rw [load_of_lookup opened]
    simp only [ofBytes_error, read_error]

/-- An empty line, a record with a field too many, and a later one without a
number: the earlier defect decides, and the empty line is not counted. -/
theorem load_follows_verdict_two_defects :
    let bytes := "time,id\n\n0,1\r\n2,x,3\n\"y\n\",4\n".toUTF8
    let fs := (Filesystem.workplace.writeFile "run.csv" bytes).toOption.getD .workplace
    fs.lookup "run.csv" = .ok (.file bytes) ∧
      ∃ found, IsFile bytes.data.toList found ∧
        Verdict "time" found (.error (.ragged 2 ⟨3, 13⟩ 3 2)) := by
  intro bytes fs
  have opened : fs.lookup "run.csv" = .ok (.file bytes) := by decide +kernel
  obtain ⟨found, unique, loaded, failed⟩ := load_follows_verdict "time" opened
  have outcome : (match load fs "run.csv" "time" with
      | .ok _ => none
      | .error failure => some failure) = some ⟨"run.csv", .defective (.ragged 2 ⟨3, 13⟩ 3 2)⟩ := by
    decide +kernel
  cases h : load fs "run.csv" "time" with
  | ok recording => simp [h] at outcome
  | error failure =>
    obtain ⟨d, rfl, verdict⟩ := (failed failure).1 h
    simp only [h, Option.some.injEq, Loading.Failure.mk.injEq, Loading.Cause.defective.injEq,
      true_and] at outcome
    exact ⟨opened, found, (unique found).2 rfl, outcome ▸ verdict⟩

end Recording

end DriveBench
