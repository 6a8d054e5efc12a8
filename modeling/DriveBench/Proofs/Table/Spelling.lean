import DriveBench.Proofs.Samples
import DriveBench.Proofs.Storage.Keeping
import DriveBench.Proofs.Table.Bare
import DriveBench.Proofs.Table.Verdict

/-!
# The ways to write a table

`Spelling rows bytes` holds of every file that writes `rows`, with quotation
marks, blanks, line endings, empty lines and a byte order mark chosen anew for
each cell and each line.
-/

namespace DriveBench

namespace Table

-- ---------------------------------------------------------------------------
-- Spellings
-- ---------------------------------------------------------------------------

def IsPadding (text : String) : Prop := ∀ c ∈ text.toList, c = ' ' ∨ c = '\t'

instance (text : String) : Decidable (IsPadding text) := List.decidableBAll _ _

def CanStandBare (text : String) : Prop :=
  ∀ c ∈ text.toList, c ≠ ',' ∧ c ≠ '"' ∧ c ≠ '\n' ∧ c ≠ '\r'

instance (text : String) : Decidable (CanStandBare text) := List.decidableBAll _ _

/-- The ways to write a cell. An empty text is not left bare: alone in its line
it would be an empty line. -/
inductive CellSpelling (text : String) : List UInt8 → Prop
  | bare (before : IsPadding left) (after : IsPadding right) (plain : CanStandBare text)
    (nonempty : text ≠ "") : CellSpelling text (Utf8.encode (left ++ text ++ right))
  | quoted (before : IsPadding left) (after : IsPadding right) :
    CellSpelling text (34 :: (doubled (Utf8.encode (left ++ text ++ right)) ++ [34]))

inductive RowSpelling : List String → List UInt8 → Prop
  | last (cell : CellSpelling text bytes) : RowSpelling [text] bytes
  | more (cell : CellSpelling text bytes) (rest : RowSpelling texts others) :
    RowSpelling (text :: texts) (bytes ++ 44 :: others)

def IsEnding (bytes : List UInt8) : Prop := bytes = [10] ∨ bytes = [13, 10] ∨ bytes = [13]

inductive Gap : List UInt8 → Prop
  | none : Gap []
  | line (ending : IsEnding bytes) (rest : Gap others) : Gap (bytes ++ others)

/-- Lines with gaps before, between and after them. -/
inductive RowsSpelling : List (List String) → List UInt8 → Prop
  | none (gap : Gap bytes) : RowsSpelling [] bytes
  | last (gap : Gap bytes) (row : RowSpelling texts line) : RowsSpelling [texts] (bytes ++ line)
  | more (gap : Gap bytes) (row : RowSpelling texts line) (ending : IsEnding ended)
    (rest : RowsSpelling rows others) :
    RowsSpelling (texts :: rows) (bytes ++ (line ++ (ended ++ others)))

/-- Whole files. The first row is the header. -/
inductive Spelling (rows : List (List String)) : List UInt8 → Prop
  | unmarked (rest : RowsSpelling rows bytes) : Spelling rows bytes
  | marked (rest : RowsSpelling rows bytes) : Spelling rows (0xEF :: 0xBB :: 0xBF :: bytes)

def quotedRow : List String → List UInt8
  | [] => []
  | [text] => 34 :: (doubled (Utf8.encode text) ++ [34])
  | text :: rest => 34 :: (doubled (Utf8.encode text) ++ [34]) ++ 44 :: quotedRow rest

def quotedRows (rows : List (List String)) : List UInt8 := rows.flatMap (quotedRow · ++ [10])

theorem cellSpelling_quoted (text : String) :
    CellSpelling text (34 :: (doubled (Utf8.encode text) ++ [34])) := by
  have nothing : IsPadding "" := by decide
  have h : CellSpelling text (34 :: (doubled (Utf8.encode ("" ++ text ++ "")) ++ [34])) :=
    .quoted nothing nothing
  simpa using h

theorem cellSpelling_encode (plain : CanStandBare text) (nonempty : text ≠ "") :
    CellSpelling text (Utf8.encode text) := by
  have nothing : IsPadding "" := by decide
  have h : CellSpelling text (Utf8.encode ("" ++ text ++ "")) := .bare nothing nothing plain nonempty
  simpa using h

theorem rowSpelling_quotedRow {texts : List String} (h : texts ≠ []) :
    RowSpelling texts (quotedRow texts) := by
  induction texts with
  | nil => exact absurd rfl h
  | cons text rest ih =>
    cases rest with
    | nil => exact .last (cellSpelling_quoted text)
    | cons next rest => exact .more (cellSpelling_quoted text) (ih (by simp))

theorem spelling_quotedRows {rows : List (List String)} (h : ∀ row ∈ rows, row ≠ []) :
    Spelling rows (quotedRows rows) := by
  refine .unmarked ?_
  induction rows with
  | nil => exact .none .none
  | cons row rest ih =>
    obtain ⟨hrow, hrest⟩ := List.forall_mem_cons.1 h
    have line := RowsSpelling.more .none (rowSpelling_quotedRow hrow) (.inl rfl) (ih hrest)
    simpa [quotedRows] using line

-- ---------------------------------------------------------------------------
-- Cells
-- ---------------------------------------------------------------------------

def Padded (text : String) (content : List UInt8) : Prop :=
  ∃ left right, IsPadding left ∧ IsPadding right ∧ content = Utf8.encode (left ++ text ++ right)

theorem IsPadding.canStandBare (h : IsPadding text) : CanStandBare text := by
  intro c hc
  rcases h c hc with rfl | rfl <;> decide

theorem CanStandBare.append (hfront : CanStandBare front) (hback : CanStandBare back) :
    CanStandBare (front ++ back) := by
  intro c hc
  rw [String.toList_append, List.mem_append] at hc
  exact hc.elim (hfront c) (hback c)

theorem CanStandBare.written (h : CanStandBare text) :
    Written (Utf8.encode text) (Utf8.encode text) := by
  have absent : ∀ b ∈ Utf8.encode text, b.toNat ≠ 44 ∧ b.toNat ≠ 34 ∧ b.toNat ≠ 10 ∧ b.toNat ≠ 13 := by
    intro b hb
    obtain ⟨c, hc, hb⟩ := List.mem_flatMap.1 hb
    have hplain := h c hc
    simp only [ne_eq, ← Char.toNat_inj, Char.reduceToNat] at hplain
    have hbyte := Utf8.of_mem_encodeChar hb
    omega
  have plain : Plain (Utf8.encode text) := by
    intro b hb
    have hbyte := absent b hb
    simp [endsField, Scanner.isComma, Scanner.isLineEnd, ← UInt8.toNat_inj]
    omega
  have unmarked : Unmarked (Utf8.encode text) := by
    intro b hb
    have hbyte := absent b (List.mem_of_mem_head? hb)
    simp [Scanner.isMark, ← UInt8.toNat_inj]
    omega
  exact .bare plain unmarked

theorem CellSpelling.written (h : CellSpelling text bytes) :
    ∃ content, Written bytes content ∧ Padded text content := by
  cases h with
  | @bare left right before after plain _ =>
    have bare := (before.canStandBare.append plain).append after.canStandBare
    exact ⟨_, bare.written, left, right, before, after, rfl⟩
  | @quoted left right before after =>
    have plain : Plain [] := by simp [Plain]
    have unmarked : Unmarked [] := by simp [Unmarked]
    exact ⟨_, .quoted plain unmarked, left, right, before, after, List.append_nil _⟩

theorem CellSpelling.ne_nil (h : CellSpelling text bytes) : bytes ≠ [] := by
  cases h with
  | bare _ _ _ nonempty =>
    intro hnil
    simp [Utf8.encode_append, Utf8.encode_eq_nil, nonempty] at hnil
  | quoted => simp

theorem CellSpelling.not_marked (h : CellSpelling text bytes) (first : '\uFEFF' ∉ text.toList.head?)
    (more : List UInt8) : ¬ [0xEF, 0xBB, 0xBF] <+: bytes ++ more := by
  intro hmark
  cases h with
  | @bare left right before _ _ nonempty =>
    have hhead := Utf8.head?_of_mark hmark (by simp [String.append_eq_empty_iff, nonempty])
    simp only [String.toList_append, List.append_assoc, List.head?_append, Option.or_eq_some_iff] at hhead
    rcases hhead with hleft | ⟨-, htext | ⟨hnone, -⟩⟩
    · exact absurd (before _ (List.mem_of_mem_head? hleft)) (by decide)
    · exact first htext
    · exact nonempty (by simpa using hnone)
  | quoted => simp [List.cons_prefix_cons] at hmark

theorem trimText_append (before : IsPadding left) (after : IsPadding right) :
    trimText (left ++ text ++ right) = trimText text := by
  have blank : ∀ {padding : String}, IsPadding padding → ∀ c ∈ padding.toList, Blank.isChar c = true := by
    intro padding h c hc
    rcases h c hc with rfl | rfl <;> decide
  rw [trimText, String.toList_append, String.toList_append, trimEnds_append (blank before) (blank after),
    trimText]

theorem Padded.isName (h : Padded text content) : IsName content (trimText text) := by
  obtain ⟨left, right, before, after, rfl⟩ := h
  exact ⟨_, rfl, trimText_append before after⟩

theorem isCell_encode (text : String) : IsCell (Utf8.encode text) (trimText text) :=
  ⟨_, (trimBytes_encode text).symm, trimText_ofList_trimEnds text⟩

theorem Padded.isNumber_iff (h : Padded text content) :
    IsNumber content value ↔ Numeral.parse? (trimText text) = some value := by
  obtain ⟨left, right, before, after, rfl⟩ := h
  rw [(isCell_encode _).isNumber_iff, trimText_append before after]

-- ---------------------------------------------------------------------------
-- Lines
-- ---------------------------------------------------------------------------

def Carries (texts : List String) (r : Record) : Prop := List.Forall₂ Padded texts r.fields

theorem RowSpelling.line (h : RowSpelling texts bytes) :
    ∃ fields, Line true bytes fields ∧ List.Forall₂ Padded texts fields := by
  induction h with
  | last cell =>
    obtain ⟨content, written, padded⟩ := cell.written
    exact ⟨[content], .last written, .cons padded .nil⟩
  | more cell _ ih =>
    obtain ⟨content, written, padded⟩ := cell.written
    obtain ⟨fields, line, others⟩ := ih
    exact ⟨content :: fields, .more written line, .cons padded others⟩

theorem RowSpelling.ne_nil (h : RowSpelling texts bytes) : bytes ≠ [] := by
  cases h with
  | last cell => exact cell.ne_nil
  | more cell _ => simp

theorem RowSpelling.not_marked (h : RowSpelling (text :: texts) bytes)
    (first : '\uFEFF' ∉ text.toList.head?) (more : List UInt8) :
    ¬ [0xEF, 0xBB, 0xBF] <+: bytes ++ more := by
  cases h with
  | last cell => exact cell.not_marked first more
  | more cell _ =>
    rw [List.append_assoc]
    exact cell.not_marked first _

theorem IsEnding.exists_cons (h : IsEnding bytes) :
    ∃ b rest, bytes = b :: rest ∧ Scanner.isLineEnd b = true ∧ ∀ c ∈ rest, Scanner.isLineEnd c = true := by
  rcases h with rfl | rfl | rfl
  · exact ⟨10, [], rfl, rfl, by simp⟩
  · exact ⟨13, [10], rfl, rfl, by simp [Scanner.isLineEnd]⟩
  · exact ⟨13, [], rfl, rfl, by simp⟩

theorem Gap.isLineEnd (h : Gap bytes) : ∀ b ∈ bytes, Scanner.isLineEnd b = true := by
  induction h with
  | none => simp
  | line ending _ ih =>
    obtain ⟨b, rest, rfl, hb, hrest⟩ := ending.exists_cons
    exact List.forall_mem_append.2 ⟨List.forall_mem_cons.2 ⟨hb, hrest⟩, ih⟩

theorem exists_splits_append {start : Position} {P : List Record → Prop}
    (ends : ∀ b ∈ gap, Scanner.isLineEnd b = true)
    (rest : ∀ here, ∃ found, Splits start here bytes found ∧ P found) (here : Position) :
    ∃ found, Splits start here (gap ++ bytes) found ∧ P found := by
  induction gap generalizing here with
  | nil => exact rest here
  | cons b gap ih =>
    obtain ⟨hb, hgap⟩ := List.forall_mem_cons.1 ends
    obtain ⟨found, splits, hfound⟩ := ih hgap (here.next b)
    exact ⟨found, .blank hb splits, hfound⟩

theorem RowsSpelling.splits (h : RowsSpelling rows bytes) (start here : Position) :
    ∃ found, Splits start here bytes found ∧ List.Forall₂ Carries rows found := by
  induction h generalizing start here with
  | none gap =>
    have rest : ∀ here, ∃ found, Splits start here [] found ∧ List.Forall₂ Carries [] found :=
      fun _ => ⟨[], .nil, .nil⟩
    simpa using exists_splits_append gap.isLineEnd rest here
  | last gap row =>
    obtain ⟨fields, line, padded⟩ := row.line
    exact exists_splits_append gap.isLineEnd
      (fun _ => ⟨_, .final line row.ne_nil, .cons padded .nil⟩) here
  | more gap row ending _ ih =>
    obtain ⟨fields, line, padded⟩ := row.line
    obtain ⟨b, others, rfl, hb, hothers⟩ := ending.exists_cons
    refine exists_splits_append gap.isLineEnd (fun here => ?_) here
    obtain ⟨found, splits, carried⟩ := exists_splits_append hothers (ih _) (here.past (_ ++ [b]))
    exact ⟨_, .record line row.ne_nil hb splits, .cons padded carried⟩

theorem RowsSpelling.not_marked (h : RowsSpelling ((text :: texts) :: rows) bytes)
    (first : '\uFEFF' ∉ text.toList.head?) : ¬ [0xEF, 0xBB, 0xBF] <+: bytes := by
  have after {gap line : List UInt8} (ends : ∀ b ∈ gap, Scanner.isLineEnd b = true)
      (hline : ¬ [0xEF, 0xBB, 0xBF] <+: line) : ¬ [0xEF, 0xBB, 0xBF] <+: gap ++ line := by
    cases gap with
    | nil => exact hline
    | cons b gap =>
      intro hmark
      obtain ⟨rfl, -⟩ := List.cons_prefix_cons.1 hmark
      exact absurd (ends _ List.mem_cons_self) (by decide)
  cases h with
  | last gap row => exact after gap.isLineEnd (by simpa using row.not_marked first [])
  | more gap row _ _ => exact after gap.isLineEnd (row.not_marked first _)

-- ---------------------------------------------------------------------------
-- Files
-- ---------------------------------------------------------------------------

theorem Spelling.isFile (h : Spelling (names :: rows) bytes)
    (first : ∀ name ∈ names.head?, '\uFEFF' ∉ name.toList.head?) :
    ∃ found, IsFile bytes found ∧ List.Forall₂ Carries (names :: rows) found := by
  cases h with
  | marked rest =>
    obtain ⟨found, splits, carried⟩ := rest.splits ⟨1, 0⟩ ⟨1, 3⟩
    exact ⟨found, .marked splits, carried⟩
  | unmarked rest =>
    obtain ⟨found, splits, carried⟩ := rest.splits ⟨1, 0⟩ ⟨1, 0⟩
    refine ⟨found, .unmarked ?_ splits, carried⟩
    cases names with
    | nil =>
      -- there is no row without cells
      cases rest with
      | last _ row => cases row
      | more _ row _ _ => cases row
    | cons name names => exact rest.not_marked (first name rfl)

structure IsTrimmed (text : String) : Prop where
  first : ∀ c ∈ text.toList.head?, Blank.isChar c = false
  last : ∀ c ∈ text.toList.getLast?, Blank.isChar c = false

theorem isTrimmed_iff : IsTrimmed text ↔ text.toList.head?.all (!Blank.isChar ·) = true ∧
    text.toList.getLast?.all (!Blank.isChar ·) = true := by
  simp only [Option.all_eq_true, Bool.not_eq_true']
  exact ⟨fun h => ⟨h.first, h.last⟩, fun h => ⟨h.1, h.2⟩⟩

instance (text : String) : Decidable (IsTrimmed text) := decidable_of_iff _ isTrimmed_iff.symm

theorem IsTrimmed.trimText (h : IsTrimmed text) : trimText text = text := by
  rw [DriveBench.trimText, trimEnds_of_ends _ _ h.first h.last, String.ofList_toList]

def Gives (names texts : List String) (sample : Sample) : Prop :=
  ∃ values, texts.length = names.length ∧
    List.Forall₂ (fun text value => Numeral.parse? (trimText text) = some value) texts values ∧
    sample = Sample.ofCells (names.zip values)

theorem forall₂_isNumber_iff (h : List.Forall₂ Padded texts fields) :
    List.Forall₂ IsNumber fields values ↔
      List.Forall₂ (fun text value => Numeral.parse? (trimText text) = some value) texts values := by
  induction h generalizing values with
  | nil => simp
  | cons padded _ ih => simp only [List.forall₂_cons_left_iff, padded.isNumber_iff, ih]

theorem Carries.isSample_iff {sample : Sample} (h : Carries texts r) :
    IsSample names r sample ↔ Gives names texts sample := by
  unfold IsSample Gives
  simp only [forall₂_isNumber_iff h, ← h.length_eq]

theorem forall₂_isSample_iff {samples : List Sample} (h : List.Forall₂ Carries rows found) :
    List.Forall₂ (IsSample names) found samples ↔ List.Forall₂ (Gives names) rows samples := by
  induction h generalizing samples with
  | nil => simp
  | cons carried _ ih => simp only [List.forall₂_cons_left_iff, carried.isSample_iff, ih]

/-- What a spelling is read as depends on the texts alone. -/
theorem read_spelling (h : Spelling (names :: rows) bytes) (trimmed : ∀ name ∈ names, IsTrimmed name)
    (first : ∀ name ∈ names.head?, '\uFEFF' ∉ name.toList.head?) {table : Table} :
    read bytes timeColumn = .ok table ↔ table.columns = names ∧
      List.Forall₂ (Gives names) rows table.samples ∧ (rows = [] ∨ timeColumn ∈ names) := by
  obtain ⟨_, file, carried⟩ := h.isFile first
  rw [read_ok, isFile_iff.1 file]
  cases carried with
  | @cons _ header _ found hheader hrows =>
    have named : List.Forall₂ IsName header.fields names := by
      have hnames := (List.forall₂_and_left names header.fields).2 ⟨trimmed, hheader⟩
      refine (hnames.imp fun name field h => ?_).flip
      have hname := h.2.isName
      rwa [h.1.trimText] at hname
    have hempty : found = [] ↔ rows = [] := by cases hrows <;> simp
    constructor
    · intro verdict
      cases verdict with
      | table hcolumns hsamples timed =>
        obtain rfl := Except.ok.inj ((columns_ok.2 hcolumns).symm.trans (columns_ok.2 named))
        exact ⟨rfl, (forall₂_isSample_iff hrows).1 hsamples, timed.imp_left hempty.1⟩
    · obtain ⟨columns, samples⟩ := table
      rintro ⟨rfl, hsamples, timed⟩
      exact .table named ((forall₂_isSample_iff hrows).2 hsamples) (timed.imp_left hempty.2)

def Spell (texts : List String) (values : List Float) : Prop :=
  List.Forall₂ (fun text value => Numeral.parse? (trimText text) = some value) texts values

theorem spell_of_parse? (h : List.Forall₂ (fun text value => Numeral.parse? text = some value) texts values) :
    Spell texts values :=
  h.imp fun text value h => by rw [(Numeral.isBare_of_parse? h).trimText, h]

theorem exists_gives_iff : (∃ sample, Gives names texts sample) ↔
    texts.length = names.length ∧
      ∀ text ∈ texts, ∃ value, Numeral.parse? (trimText text) = some value := by
  rw [← exists_forall₂_iff]
  constructor
  · rintro ⟨sample, values, width, hvalues, rfl⟩
    exact ⟨width, values, hvalues⟩
  · rintro ⟨width, values, hvalues⟩
    exact ⟨_, values, width, hvalues, rfl⟩

def ofValues (names : List String) (values : List (List Float)) : Table :=
  ⟨names, values.map fun row => Sample.ofCells (names.zip row)⟩

theorem forall₂_gives {values : List (List Float)} (width : ∀ row ∈ rows, row.length = names.length)
    (spell : List.Forall₂ Spell rows values) :
    List.Forall₂ (Gives names) rows (ofValues names values).samples := by
  refine List.forall₂_map_right_iff.2 ?_
  exact ((List.forall₂_and_left rows values).2 ⟨width, spell⟩).imp
    fun row value h => ⟨value, h.1, h.2, rfl⟩

end Table

namespace Recording

open Table (CellSpelling RowsSpelling Spelling Spell IsTrimmed doubled quotedRows)

section

variable {names : List String} {rows : List (List String)} (trimmed : ∀ name ∈ names, IsTrimmed name)
  (first : ∀ name ∈ names.head?, '\uFEFF' ∉ name.toList.head?)
include trimmed first

theorem load_spelling_iff (spelling : Spelling (names :: rows) bytes.data.toList)
    (opened : fs.lookup path = .ok (.file bytes)) :
    (∃ recording, load fs path timeColumn = .ok recording) ↔
      (∀ row ∈ rows, row.length = names.length ∧
        ∀ text ∈ row, ∃ value, Numeral.parse? (trimText text) = some value) ∧
      (rows = [] ∨ timeColumn ∈ names) := by
  have hrows : (∃ samples, List.Forall₂ (Table.Gives names) rows samples) ↔
      ∀ row ∈ rows, row.length = names.length ∧
        ∀ text ∈ row, ∃ value, Numeral.parse? (trimText text) = some value := by
    rw [exists_forall₂_iff]
    simp only [Table.exists_gives_iff]
  simp only [load_of_lookup opened, ofBytes_ok, ← hrows]
  constructor
  · rintro ⟨_, table, hread, -⟩
    obtain ⟨-, gives, timed⟩ := (Table.read_spelling spelling trimmed first).1 hread
    exact ⟨⟨table.samples, gives⟩, timed⟩
  · rintro ⟨⟨samples, gives⟩, timed⟩
    exact ⟨_, ⟨names, samples⟩,
      (Table.read_spelling spelling trimmed first).2 ⟨rfl, gives, timed⟩, rfl⟩

theorem load_spelling {values : List (List Float)}
    (spelling : Spelling (names :: rows) bytes.data.toList)
    (opened : fs.lookup path = .ok (.file bytes))
    (width : ∀ row ∈ rows, row.length = names.length) (spell : List.Forall₂ Spell rows values)
    (timed : rows = [] ∨ timeColumn ∈ names) : load fs path timeColumn =
      .ok ⟨Table.ofValues names values, Path.stem path⟩ := by
  rw [load_of_lookup opened]
  exact ofBytes_ok.2 ⟨Table.ofValues names values,
    (Table.read_spelling spelling trimmed first).2 ⟨rfl, Table.forall₂_gives width spell, timed⟩, rfl⟩

/-- All files that write one table of numbers load as one recording, with the
columns and the values of the table. Of two cells under one name it has the
later. -/
theorem load_any_spelling {values : List (List Float)}
    (width : ∀ row ∈ rows, row.length = names.length)
    (numbers : List.Forall₂ (List.Forall₂ fun text value => Numeral.parse? text = some value) rows values)
    (timed : rows = [] ∨ timeColumn ∈ names) (path : String) :
    ∃ recording : Recording, recording.title = Path.stem path ∧ recording.columns = names ∧
      List.Forall₂ (fun row sample => ∀ name,
        sample.get? name = Assoc.find name (names.zip row).reverse) values recording.samples ∧
      ∀ (fs : Filesystem) (bytes : ByteArray), Spelling (names :: rows) bytes.data.toList →
        fs.lookup path = .ok (.file bytes) → load fs path timeColumn = .ok recording := by
  have spell : List.Forall₂ Spell rows values := numbers.imp fun _ _ h => Table.spell_of_parse? h
  refine ⟨⟨Table.ofValues names values, Path.stem path⟩, rfl, rfl, ?_, ?_⟩
  · exact List.forall₂_map_right_iff.2
      (List.forall₂_same.2 fun row _ name => Sample.get?_ofCells (names.zip row) name)
  · intro fs bytes spelling opened
    exact load_spelling trimmed first spelling opened width spell timed

end

/-- Two files of one table, the second of whose names has a comma, quotation
marks and a line feed in it. One file is marked and mixes all that may vary. -/
theorem load_any_spelling_two_files :
    let names := ["time", "a,\"b\"\nc"]
    let rows := [["0", "1e3"], ["-inf", "nan"]]
    let mixed := "\uFEFF\r\n time\t,\"a,\"\"b\"\"\nc \"\r0,\" 1e3\"\r\n\n-inf\t,nan"
    let files (bytes : List UInt8) : Filesystem :=
      (Filesystem.workplace.writeFile "run.csv" bytes.toByteArray).toOption.getD .root
    Spelling (names :: rows) (Utf8.encode mixed) ∧
      ∃ recording : Recording, recording.columns = names ∧ recording.samples.length = 2 ∧
        load (files (Utf8.encode mixed)) "run.csv" "time" = .ok recording ∧
        load (files (quotedRows (names :: rows))) "run.csv" "time" = .ok recording := by
  intro names rows mixed files
  have spelled : Spelling (names :: rows) (Utf8.encode mixed) := by
    have time : CellSpelling "time" (Utf8.encode (" " ++ "time" ++ "\t")) :=
      .bare (by decide) (by decide) (by decide) (by decide)
    have name : CellSpelling "a,\"b\"\nc"
        (34 :: (doubled (Utf8.encode ("" ++ "a,\"b\"\nc" ++ " ")) ++ [34])) :=
      .quoted (by decide) (by decide)
    have zero : CellSpelling "0" (Utf8.encode ("" ++ "0" ++ "")) :=
      .bare (by decide) (by decide) (by decide) (by decide)
    have thousand : CellSpelling "1e3" (34 :: (doubled (Utf8.encode (" " ++ "1e3" ++ "")) ++ [34])) :=
      .quoted (by decide) (by decide)
    have infinite : CellSpelling "-inf" (Utf8.encode ("" ++ "-inf" ++ "\t")) :=
      .bare (by decide) (by decide) (by decide) (by decide)
    have none : CellSpelling "nan" (Utf8.encode ("" ++ "nan" ++ "")) :=
      .bare (by decide) (by decide) (by decide) (by decide)
    have lines := RowsSpelling.more (.line (.inr (.inl rfl)) .none) (.more time (.last name))
      (.inr (.inr rfl)) (.more .none (.more zero (.last thousand)) (.inr (.inl rfl))
        (.last (.line (.inl rfl) .none) (.more infinite (.last none))))
    refine Eq.mp (congrArg (Spelling _) ?_) (Spelling.marked lines)
    decide +kernel
  have quoted : Spelling (names :: rows) (quotedRows (names :: rows)) :=
    Table.spelling_quotedRows (by decide)
  have trimmed : ∀ name ∈ names, IsTrimmed name := by decide +kernel
  have numbers : List.Forall₂ (List.Forall₂ fun text value => Numeral.parse? text = some value) rows
      [[0, 1000], [.ofBits 0xFFF0000000000000, Binary64.nan]] := by
    refine .cons (.cons ?_ (.cons ?_ .nil)) (.cons (.cons ?_ (.cons ?_ .nil)) .nil)
    all_goals decide +kernel
  have first : ∀ name ∈ names.head?, '\uFEFF' ∉ name.toList.head? := by decide
  have width : ∀ row ∈ rows, row.length = names.length := by decide
  have timed : rows = [] ∨ "time" ∈ names := by decide
  obtain ⟨recording, -, hcolumns, hsamples, hload⟩ :=
    load_any_spelling trimmed first width numbers timed "run.csv"
  have hfile (bytes : List UInt8)
      (h : (Filesystem.workplace.writeFile "run.csv" bytes.toByteArray).isOk = true) :
      (files bytes).lookup "run.csv" = .ok (.file bytes.toByteArray) := by
    cases hwrite : Filesystem.workplace.writeFile "run.csv" bytes.toByteArray with
    | error fault => simp [hwrite, Except.isOk, Except.toBool] at h
    | ok written =>
      simp only [files, hwrite, Except.toOption, Option.getD_some]
      exact Filesystem.lookup_of_writeFile hwrite
  refine ⟨spelled, recording, hcolumns, hsamples.length_eq.symm, ?_, ?_⟩
  · exact hload _ _ (by simpa using spelled) (hfile _ (by decide +kernel))
  · exact hload _ _ (by simpa using quoted) (hfile _ (by decide +kernel))

end Recording

end DriveBench
