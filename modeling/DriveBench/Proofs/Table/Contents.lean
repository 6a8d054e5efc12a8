import DriveBench.Proofs.Samples
import DriveBench.Proofs.Table.Verdict

/-!
# What a loaded recording holds

Where the header has a name more than once, blanks around it not counted, the
last cell under it gives the value.
-/

namespace DriveBench

namespace Table

/-- The number in the last of a record's fields that stand under a name. -/
def LastNumber (columns : List String) (r : Record) (name : String) (value : Float) : Prop :=
  ∃ front field back, columns = front ++ name :: back ∧ name ∉ back ∧
    r.fields[front.length]? = some field ∧ IsNumber field value

/-- A sample with the numbers of a record under the column names, and with
nothing else. -/
structure Represents (columns : List String) (r : Record) (sample : Sample) : Prop where
  names : ∀ name, name ∈ sample.names ↔ name ∈ columns
  values : ∀ name value, sample.get? name = some value ↔ LastNumber columns r name value

def headerFields (found : List Record) : List (List UInt8) := found.head?.elim [] Record.fields

theorem IsNumber.unique (h : IsNumber field value) (h' : IsNumber field other) : value = other := by
  obtain ⟨cell, hcell, hvalue⟩ := h
  exact Option.some.inj (hvalue.symm.trans (hcell.isNumber_iff.1 h'))

theorem exists_last_of_mem {names : List String} (h : name ∈ names) :
    ∃ front back, names = front ++ name :: back ∧ name ∉ back := by
  obtain ⟨back, front, hreverse, last⟩ := List.eq_append_cons_of_mem (List.mem_reverse.2 h)
  refine ⟨front.reverse, back.reverse, ?_, by simpa using last⟩
  rw [← List.reverse_reverse names, hreverse]
  simp

theorem IsSample.represents {columns : List String} {sample : Sample} (h : IsSample columns r sample) :
    Represents columns r sample := by
  obtain ⟨values, hcount, hvalues, rfl⟩ := h
  have width : values.length = columns.length := hvalues.length_eq.symm.trans hcount
  have names : ∀ name, name ∈ (Sample.ofCells (columns.zip values)).names ↔ name ∈ columns := by
    intro name
    rw [Sample.mem_names_ofCells, List.map_fst_zip (Nat.le_of_eq width.symm)]
  -- what the fields say at a place is what is in the values there
  have placed : ∀ {i : Nat} {field value}, r.fields[i]? = some field → IsNumber field value →
      values[i]? = some value := by
    intro i field value hfield hnumber
    obtain ⟨inside, rfl⟩ := List.getElem?_eq_some_iff.1 hfield
    have inside' : i < values.length := hvalues.length_eq ▸ inside
    rw [List.getElem?_eq_getElem inside']
    exact congrArg some ((hvalues.get inside inside').unique hnumber)
  refine ⟨names, fun name value => ⟨fun hget => ?_, ?_⟩⟩
  · have listed : name ∈ columns := (names name).1 (Sample.mem_names_iff.2 (by simp [hget]))
    obtain ⟨front, back, rfl, last⟩ := exists_last_of_mem listed
    rw [Sample.get?_ofCells_zip last width] at hget
    obtain ⟨inside', rfl⟩ := List.getElem?_eq_some_iff.1 hget
    have inside : front.length < r.fields.length := hvalues.length_eq ▸ inside'
    exact ⟨front, _, back, rfl, last, List.getElem?_eq_getElem inside, hvalues.get inside inside'⟩
  · rintro ⟨front, field, back, rfl, last, hfield, hnumber⟩
    rw [Sample.get?_ofCells_zip last width, placed hfield hnumber]

theorem Represents.getD {columns : List String} {sample : Sample} (h : Represents columns r sample)
    (listed : name ∈ columns) : LastNumber columns r name (sample.getD name) := by
  obtain ⟨value, hget⟩ := Option.ne_none_iff_exists'.1 (Sample.mem_names_iff.1 ((h.names name).2 listed))
  rw [Sample.getD, hget, Option.getD_some]
  exact (h.values name value).1 hget

theorem Verdict.represents {table : Table} (h : Verdict timeColumn found (.ok table)) :
    List.Forall₂ IsName (headerFields found) table.columns ∧
      List.Forall₂ (Represents table.columns) found.tail table.samples ∧
      (table.samples = [] ∨ timeColumn ∈ table.columns) := by
  cases h with
  | empty => exact ⟨.nil, .nil, .inl rfl⟩
  | table hcolumns hsamples timed =>
    refine ⟨hcolumns, hsamples.imp fun _ _ h => h.represents, timed.imp_left ?_⟩
    rintro rfl
    cases hsamples
    rfl

end Table

namespace Recording

open Table (IsFile IsName LastNumber Represents headerFields isFile_iff read_ok)

/-- A recording that could be loaded has a sample for every data record, each
with a number from the file under every name of the header. -/
theorem load_represents (loaded : load fs path timeColumn = .ok recording) :
    ∃ bytes found, fs.lookup path = .ok (.file bytes) ∧ IsFile bytes.data.toList found ∧
      List.Forall₂ IsName (headerFields found) recording.columns ∧
      List.Forall₂ (Represents recording.columns) found.tail recording.samples ∧
      (∀ sample ∈ recording.samples, timeColumn ∈ sample.names) ∧
      ∀ column ∈ recording.columns,
        List.Forall₂ (fun r value => LastNumber recording.columns r column value) found.tail
          (recording.series column) := by
  obtain ⟨bytes, hlookup, hbytes⟩ := exists_of_load loaded
  obtain ⟨table, hread, rfl⟩ := ofBytes_ok.1 hbytes
  obtain ⟨hcolumns, hsamples, timed⟩ := (read_ok.1 hread).represents
  refine ⟨bytes, _, hlookup, isFile_iff.2 rfl, hcolumns, hsamples, fun sample hsample => ?_,
    fun column listed => ?_⟩
  · obtain ⟨r, h⟩ := exists_forall₂_iff.1 ⟨_, hsamples.flip⟩ sample hsample
    exact (h.names _).2 (timed.resolve_left (List.ne_nil_of_mem hsample))
  · exact List.forall₂_map_right_iff.2 (hsamples.imp fun _ _ h => h.getD listed)

theorem load_represents_repeated_name :
    let bytes := "x,time,\" x \"\n1,0,nan\n\n2,1, 3\r\n".toUTF8
    let fs := (Filesystem.workplace.writeFile "run.csv" bytes).toOption.getD .workplace
    ∃ recording, load fs "run.csv" "time" = .ok recording ∧ recording.columns = ["x", "time", "x"] ∧
      ∃ found, IsFile bytes.data.toList found ∧
        List.Forall₂ (Represents recording.columns) found.tail recording.samples ∧
        (∀ sample ∈ recording.samples, "time" ∈ sample.names) ∧
        List.Forall₂ (fun r value => LastNumber recording.columns r "x" value) found.tail
          (recording.series "x") ∧
        recording.series "x" = [Binary64.nan, 3] := by
  intro bytes fs
  have opened : fs.lookup "run.csv" = .ok (.file bytes) := by decide +kernel
  have outcome : (load fs "run.csv" "time").toOption.map
      (fun recording => (recording.columns, recording.series "x")) =
        some (["x", "time", "x"], [Binary64.nan, 3]) := by decide +kernel
  cases loaded : load fs "run.csv" "time" with
  | error failure =>
    rw [loaded] at outcome
    cases outcome
  | ok recording =>
    rw [loaded] at outcome
    obtain ⟨hcolumns, hseries⟩ := Prod.mk.inj (Option.some.inj outcome)
    obtain ⟨_, found, hlookup, file, -, hsamples, timed, hnumbers⟩ := load_represents loaded
    obtain rfl := Entry.file.inj (Except.ok.inj (hlookup.symm.trans opened))
    have listed : "x" ∈ recording.columns := by simp [hcolumns]
    exact ⟨recording, rfl, hcolumns, found, file, hsamples, timed, hnumbers "x" listed, hseries⟩

end Recording

end DriveBench
