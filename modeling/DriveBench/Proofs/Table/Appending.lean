import DriveBench.Proofs.Storage.Keeping
import DriveBench.Proofs.Table.Verdict

/-!
# Files that grow

Whatever is appended to a file of whole lines leaves the records before it as
they were, their positions included. A missing time column is not lasting in
this way: it is looked for after everything else.
-/

namespace DriveBench

namespace Table

open Scanner (idle isLineEnd isMark)

-- ---------------------------------------------------------------------------
-- Whole lines
-- ---------------------------------------------------------------------------

inductive Lines : List UInt8 → Prop
  | nil : Lines []
  | blank (lineEnd : isLineEnd b = true) (rest : Lines bytes) : Lines (b :: bytes)
  | line (line : Line true text fields) (nonempty : text ≠ []) (lineEnd : isLineEnd b = true)
    (rest : Lines bytes) : Lines (text ++ b :: bytes)

/-- A file of whole lines, a byte order mark in front of them or not. -/
def WholeLines (bytes : List UInt8) : Prop := Lines (dropMark bytes).2

theorem Lines.exists_lineEnd (h : Lines bytes) (nonempty : bytes ≠ []) :
    ∃ b ∈ bytes, isLineEnd b = true := by
  cases h with
  | nil => exact absurd rfl nonempty
  | blank lineEnd _ => exact ⟨_, List.mem_cons_self, lineEnd⟩
  | line _ _ lineEnd _ => exact ⟨_, List.mem_append_right _ List.mem_cons_self, lineEnd⟩

/-- Between two records nothing is kept but positions and what was read. -/
theorem Lines.run (h : Lines bytes) (start here : Position) (found : List Record) :
    ∃ next more, (idle start here found).run bytes = idle next (here.past bytes) more := by
  induction h generalizing start here found with
  | nil => exact ⟨start, found, rfl⟩
  | @blank b bytes lineEnd _ ih =>
    rw [Scanner.run_cons, Scanner.step_idle lineEnd]
    exact ih start (here.next b) found
  | @line text fields b bytes line nonempty lineEnd _ ih =>
    rw [List.append_cons, Scanner.run_append, Scanner.run_line line nonempty lineEnd,
      Position.past_append _ (text ++ [b])]
    exact ih _ _ _

theorem Splits.lines (h : Splits start here bytes more) (found : List Record)
    (ends : ((idle start here found).run bytes).mode = .between) : Lines bytes := by
  induction h generalizing found with
  | nil => exact .nil
  | blank lineEnd _ ih =>
    rw [Scanner.run_cons, Scanner.step_idle lineEnd] at ends
    exact .blank lineEnd (ih found ends)
  | @record text fields b bytes more start here line nonempty lineEnd _ ih =>
    rw [List.append_cons, Scanner.run_append, Scanner.run_line line nonempty lineEnd] at ends
    exact .line line nonempty lineEnd (ih _ ends)
  | final line nonempty =>
    obtain ⟨reads, -⟩ := Scanner.reads_line (Scanner.ready_idle _ _ found) line
    exact absurd (reads.mode ends).2 nonempty

theorem wholeLines_iff :
    WholeLines bytes ↔ ((Scanner.begin 0).run (dropMark bytes).2).mode = .between := by
  constructor
  · intro h
    obtain ⟨_, _, hrun⟩ := Lines.run h ⟨1, 0⟩ ⟨1, 0⟩ []
    exact congrArg Scanner.mode hrun
  · intro h
    obtain ⟨_, splits⟩ := exists_splits (dropMark bytes).2 ⟨1, 0⟩ ⟨1, 0⟩
    exact splits.lines [] h

instance (bytes : List UInt8) : Decidable (WholeLines bytes) :=
  decidable_of_iff _ wholeLines_iff.symm

-- ---------------------------------------------------------------------------
-- What is appended
-- ---------------------------------------------------------------------------

theorem dropMark_append (whole : WholeLines front) (nonempty : front ≠ []) (back : List UInt8) :
    dropMark (front ++ back) = ((dropMark front).1, (dropMark front).2 ++ back) := by
  by_cases marked : [0xEF, 0xBB, 0xBF] <+: front
  · obtain ⟨rest, rfl⟩ := marked
    rfl
  · rw [WholeLines, dropMark_of_not marked] at whole
    have plain : ¬ [0xEF, 0xBB, 0xBF] <+: front ++ back := by
      intro hmark
      rcases List.prefix_or_prefix_of_prefix hmark (List.prefix_append front back) with h | h
      · exact marked h
      · obtain ⟨b, hb, lineEnd⟩ := whole.exists_lineEnd nonempty
        have hbyte := h.subset hb
        simp only [List.mem_cons, List.not_mem_nil, or_false] at hbyte
        rcases hbyte with rfl | rfl | rfl <;> simp [isLineEnd] at lineEnd
    rw [dropMark_of_not marked, dropMark_of_not plain]

theorem records_append (whole : WholeLines front) (nonempty : front ≠ []) (back : List UInt8) :
    ∃ more, records (front ++ back) = records front ++ more := by
  obtain ⟨next, found, hrun⟩ := Lines.run whole ⟨1, 0⟩ ⟨1, (dropMark front).1⟩ []
  obtain ⟨more, splits⟩ :=
    exists_splits back next (Position.past ⟨1, (dropMark front).1⟩ (dropMark front).2)
  have hfront : records front = found.reverse := by
    rw [records, ← Scanner.finish_idle next _ found, ← hrun]
    rfl
  refine ⟨more, ?_⟩
  rw [hfront, ← Scanner.run_splits splits found, ← hrun, ← Scanner.run_append, records,
    dropMark_append whole nonempty]
  rfl

-- ---------------------------------------------------------------------------
-- The verdict on more records
-- ---------------------------------------------------------------------------

theorem Verdict.append_error (h : Verdict timeColumn found (.error d))
    (lasting : ∀ column, d ≠ .missingColumn column) (more : List Record) :
    Verdict timeColumn (found ++ more) (.error d) := by
  cases h with
  | header hfields hgood hbad => exact .header hfields hgood hbad
  | @record header columns front r back _ hcolumns hgood hbad =>
    have split : header :: (front ++ r :: back) ++ more = header :: (front ++ r :: (back ++ more)) := by
      simp
    rw [split]
    exact .record hcolumns hgood hbad
  | untimed => exact absurd rfl (lasting timeColumn)

theorem Verdict.of_append_ok {header : Record} {rows more : List Record} {table : Table}
    (h : Verdict timeColumn (header :: rows ++ more) (.ok table)) :
    ∃ samples, Verdict timeColumn (header :: rows) (.ok ⟨table.columns, samples⟩) ∧
      samples <+: table.samples := by
  generalize hfound : header :: rows ++ more = found at h
  cases h with
  | empty => cases hfound
  | table hcolumns hsamples timed =>
    obtain ⟨rfl, rfl⟩ := List.cons.inj hfound
    have hrows := List.forall₂_take_append _ _ _ hsamples.flip
    refine ⟨_, .table hcolumns hrows.flip ?_, List.take_prefix _ _⟩
    exact timed.imp_left fun h => (List.append_eq_nil_iff.1 h).1

end Table

namespace Recording

open Table (IsFile WholeLines isFile_iff read_ok read_error records_append)

/-- Whatever is appended to a file of whole lines, a defect of one of its
records stays what is wrong with it, and where nothing is wrong its samples are
the first ones of all. -/
theorem load_appended (whole : WholeLines front.data.toList)
    (headed : IsFile front.data.toList (header :: rows))
    (opened : fs.lookup path = .ok (.file front))
    (grown : later.lookup path = .ok (.file (front ++ back))) (timeColumn : String) :
    (∀ failure, load fs path timeColumn = .error failure →
      (∀ column, failure.cause ≠ .defective (.missingColumn column)) →
      load later path timeColumn = .error failure) ∧
    ∀ recording, load later path timeColumn = .ok recording →
      ∃ earlier, load fs path timeColumn = .ok earlier ∧ earlier.title = recording.title ∧
        earlier.columns = recording.columns ∧ earlier.samples <+: recording.samples := by
  have nonempty : front.data.toList ≠ [] := by
    intro hnil
    rw [hnil, isFile_iff] at headed
    cases headed
  have hfront := isFile_iff.1 headed
  obtain ⟨more, hrecords⟩ := records_append whole nonempty back.data.toList
  rw [hfront, ← ByteArray.toList_data_append] at hrecords
  rw [load_of_lookup opened, load_of_lookup grown]
  constructor
  · intro failure hload lasting
    obtain ⟨d, rfl, hread⟩ := ofBytes_error.1 hload
    refine ofBytes_error.2 ⟨d, rfl, ?_⟩
    rw [read_error, hfront] at hread
    rw [read_error, hrecords]
    exact hread.append_error (fun column hd => lasting column (congrArg _ hd)) more
  · intro recording hload
    obtain ⟨table, hread, rfl⟩ := ofBytes_ok.1 hload
    rw [read_ok, hrecords] at hread
    obtain ⟨samples, verdict, hprefix⟩ := hread.of_append_ok
    refine ⟨_, ofBytes_ok.2 ⟨⟨table.columns, samples⟩, ?_, rfl⟩, rfl, rfl, hprefix⟩
    rwa [read_ok, hfront]

/-- One log is cut between the two bytes of a line end and goes on with a cell
that is never closed; the other has a bad cell, and an open quotation after it. -/
theorem load_appended_two_logs :
    let files (text : String) : Filesystem :=
      (Filesystem.workplace.writeFile "run.csv" text.toUTF8).toOption.getD .root
    let sound := "time,\"i\nd\"\r\r0,1\r"
    let spoilt := "time,id\n\n0,x\n"
    WholeLines sound.toUTF8.data.toList ∧ WholeLines spoilt.toUTF8.data.toList ∧
      (∃ earlier recording, load (files sound) "run.csv" "time" = .ok earlier ∧
        load (files (sound ++ "\n2,\"3")) "run.csv" "time" = .ok recording ∧
        earlier.columns = recording.columns ∧ earlier.samples <+: recording.samples ∧
        recording.length = 2) ∧
      load (files (spoilt ++ "1,\"2\n")) "run.csv" "time" =
        .error ⟨"run.csv", .defective (.notNumber 1 "id" "x")⟩ := by
  intro files sound spoilt
  have headed (text : String) (h : Table.records text.toUTF8.data.toList ≠ []) :
      ∃ header rows, IsFile text.toUTF8.data.toList (header :: rows) := by
    obtain ⟨header, rows, hrecords⟩ := List.exists_cons_of_ne_nil h
    exact ⟨header, rows, isFile_iff.2 hrecords⟩
  have wholeSound : WholeLines sound.toUTF8.data.toList := by decide +kernel
  have wholeSpoilt : WholeLines spoilt.toUTF8.data.toList := by decide +kernel
  refine ⟨wholeSound, wholeSpoilt, ?_, ?_⟩
  · obtain ⟨header, rows, file⟩ := headed sound (by decide +kernel)
    have opened : (files sound).lookup "run.csv" = .ok (.file sound.toUTF8) := by decide +kernel
    have grown : (files (sound ++ "\n2,\"3")).lookup "run.csv" =
        .ok (.file (sound.toUTF8 ++ "\n2,\"3".toUTF8)) := by decide +kernel
    have appended := load_appended wholeSound file opened grown "time"
    have loaded : (load (files (sound ++ "\n2,\"3")) "run.csv" "time").toOption.map length = some 2 := by
      decide +kernel
    cases hload : load (files (sound ++ "\n2,\"3")) "run.csv" "time" with
    | error failure =>
      rw [hload] at loaded
      cases loaded
    | ok recording =>
      rw [hload] at loaded
      obtain ⟨earlier, hearlier, -, hcolumns, hsamples⟩ := appended.2 recording hload
      exact ⟨earlier, recording, hearlier, rfl, hcolumns, hsamples, Option.some.inj loaded⟩
  · obtain ⟨header, rows, file⟩ := headed spoilt (by decide +kernel)
    have opened : (files spoilt).lookup "run.csv" = .ok (.file spoilt.toUTF8) := by decide +kernel
    have grown : (files (spoilt ++ "1,\"2\n")).lookup "run.csv" =
        .ok (.file (spoilt.toUTF8 ++ "1,\"2\n".toUTF8)) := by decide +kernel
    have appended := load_appended wholeSpoilt file opened grown "time"
    have failed : (match load (files spoilt) "run.csv" "time" with
        | .ok _ => none
        | .error failure => some failure) =
          some ⟨"run.csv", .defective (.notNumber 1 "id" "x")⟩ := by decide +kernel
    cases hload : load (files spoilt) "run.csv" "time" with
    | ok recording => simp [hload] at failed
    | error failure =>
      rw [hload] at failed
      obtain rfl := Option.some.inj failed
      exact appended.1 _ hload (by simp)

end Recording

end DriveBench
