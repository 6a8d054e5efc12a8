import DriveBench.Proofs.Table.Contents
import Mathlib.Data.Finset.Card

/-!
# Columns that are plotted

Each preferred column has one panel, however often the header has its name. The
first columns of a file are taken as they stand in the header, so a name that is
there twice may have two panels with one and the same series.
-/

namespace DriveBench.Recording

open Table (IsFile IsName headerFields isFile_iff)

variable {r recording : Recording} {preferred fields names : List String} {count : Nat}
  {timeColumn : String}

def signals (r : Recording) (timeColumn : String) : List String := r.columns.filter (· != timeColumn)

theorem fieldsToPlot_cases (r : Recording) (preferred : List String) (count : Nat)
    (timeColumn : String) :
    (∃ field ∈ preferred, field ∈ r.columns) ∧
        r.fieldsToPlot preferred count timeColumn = preferred.filter r.hasColumn ∨
      (∀ field ∈ preferred, field ∉ r.columns) ∧
        r.fieldsToPlot preferred count timeColumn = (r.signals timeColumn).take count := by
  unfold fieldsToPlot
  split
  · rename_i none
    refine .inr ⟨fun field hfield hcolumn => ?_, rfl⟩
    have present : field ∈ preferred.filter r.hasColumn :=
      List.mem_filter.2 ⟨hfield, List.contains_iff_mem.2 hcolumn⟩
    rw [none] at present
    cases present
  · rename_i some
    obtain ⟨field, present⟩ := List.exists_mem_of_ne_nil _ some
    obtain ⟨hfield, hcolumn⟩ := List.mem_filter.1 present
    exact .inl ⟨⟨field, hfield, List.contains_iff_mem.1 hcolumn⟩, rfl⟩

theorem length_take_of_nodup (h : (names.take count).Nodup) :
    (names.take count).length = min count names.toFinset.card := by
  have taken : (names.take count).length ≤ names.toFinset.card := by
    rw [← List.toFinset_card_of_nodup h]
    exact Finset.card_le_card fun name hname =>
      List.mem_toFinset.2 (List.mem_of_mem_take (List.mem_toFinset.1 hname))
  have different : names.toFinset.card ≤ names.length := List.toFinset_card_le names
  rw [List.length_take] at taken ⊢
  omega

/-- The fields of a loaded recording are names in the header of its file. No two
are the same if a preferred one is there. If none is, they are the first of the
header other than the time column, and a name is taken again where it stands
again. They are as many as there are different names, up to the count, where no
two of them are the same. -/
theorem fieldsToPlot_of_load (loaded : load fs path loadedTime = .ok recording)
    (distinct : preferred.Nodup) (count : Nat) (timeColumn : String) :
    ∃ bytes found, fs.lookup path = .ok (.file bytes) ∧ IsFile bytes.data.toList found ∧
      List.Forall₂ IsName (headerFields found) recording.columns ∧
      let fields := recording.fieldsToPlot preferred count timeColumn
      let signals := recording.signals timeColumn
      (∀ field ∈ fields, field ∈ recording.columns) ∧
      ((∃ field ∈ preferred, field ∈ recording.columns) → fields.Nodup) ∧
      ((∀ field ∈ preferred, field ∉ recording.columns) →
        fields <+: signals ∧ fields.length = min count signals.length ∧
        (signals.Nodup → fields.Nodup) ∧
        (fields.Nodup → fields.length = min count signals.toFinset.card)) := by
  obtain ⟨bytes, hlookup, hbytes⟩ := exists_of_load loaded
  obtain ⟨table, hread, hrecording⟩ := ofBytes_ok.1 hbytes
  have hcolumns : List.Forall₂ IsName (headerFields (Table.records bytes.data.toList)) recording.columns :=
    hrecording ▸ (Table.read_ok.1 hread).represents.1
  refine ⟨bytes, _, hlookup, isFile_iff.2 rfl, hcolumns, ?_⟩
  intro fields signals
  refine ⟨fun field hfield => List.contains_iff_mem.1 (hasColumn_of_mem_fieldsToPlot hfield), ?_⟩
  obtain ⟨present, hfields⟩ | ⟨absent, hfields⟩ :=
    fieldsToPlot_cases recording preferred count timeColumn
  · refine ⟨fun _ => ?_, fun absent => ?_⟩
    · show (recording.fieldsToPlot preferred count timeColumn).Nodup
      rw [hfields]
      exact distinct.filter _
    · obtain ⟨field, hfield, hcolumn⟩ := present
      exact absurd hcolumn (absent field hfield)
  · refine ⟨fun ⟨field, hfield, hcolumn⟩ => absurd hcolumn (absent field hfield), fun _ => ?_⟩
    have taken : fields = signals.take count := hfields
    rw [taken]
    exact ⟨List.take_prefix _ _, List.length_take, fun h => h.sublist (List.take_sublist _ _),
      length_take_of_nodup⟩

theorem exists_of_columns {columns : List String}
    (h : (load fs path timeColumn).toOption.map (·.columns) = some columns) :
    ∃ recording, load fs path timeColumn = .ok recording ∧ recording.columns = columns := by
  cases loaded : load fs path timeColumn with
  | error failure =>
    rw [loaded] at h
    cases h
  | ok recording =>
    rw [loaded] at h
    exact ⟨recording, rfl, Option.some.inj h⟩

theorem fieldsToPlot_of_load_four_columns :
    let fs := (Filesystem.workplace.writeFile "run.csv" "b,time,c,\" b \"\n0,1,2,3\n".toUTF8).toOption.getD
      .workplace
    ∃ recording, load fs "run.csv" "time" = .ok recording ∧ ["id", "iq"].Nodup ∧
      (∀ field ∈ ["id", "iq"], field ∉ recording.columns) ∧
      recording.fieldsToPlot ["id", "iq"] 2 "time" = ["b", "c"] ∧
      (recording.fieldsToPlot ["id", "iq"] 2 "time").length =
        min 2 (recording.signals "time").toFinset.card := by
  intro fs
  have outcome : (load fs "run.csv" "time").toOption.map (·.columns) =
      some ["b", "time", "c", "b"] := by decide +kernel
  obtain ⟨recording, loaded, hcolumns⟩ := exists_of_columns outcome
  have absent : ∀ field ∈ ["id", "iq"], field ∉ recording.columns := by
    rw [hcolumns]
    decide
  have fields : recording.fieldsToPlot ["id", "iq"] 2 "time" = ["b", "c"] := by
    unfold fieldsToPlot hasColumn
    rw [hcolumns]
    decide
  obtain ⟨_, _, -, -, -, -, -, fallback⟩ :=
    fieldsToPlot_of_load loaded (show ["id", "iq"].Nodup by decide) 2 "time"
  obtain ⟨-, -, -, different⟩ := fallback absent
  exact ⟨recording, loaded, by decide, absent, fields, different (by rw [fields]; decide)⟩

/-- A name that stands twice in the header has two panels, and keeps another one
from having any. -/
theorem one_signal_twice :
    let fs := (Filesystem.workplace.writeFile "run.csv" "time,q, q ,r\n0,1,2,3\n".toUTF8).toOption.getD
      .workplace
    ∃ recording, load fs "run.csv" "time" = .ok recording ∧ "r" ∈ recording.columns ∧
      recording.fieldsToPlot ["id", "iq"] 2 "time" = ["q", "q"] ∧
      ¬ (recording.fieldsToPlot ["id", "iq"] 2 "time").Nodup ∧
      (recording.fieldsToPlot ["id", "iq"] 3 "time").length ≠
        min 3 (recording.signals "time").toFinset.card := by
  intro fs
  have outcome : (load fs "run.csv" "time").toOption.map (·.columns) =
      some ["time", "q", "q", "r"] := by decide +kernel
  obtain ⟨recording, loaded, hcolumns⟩ := exists_of_columns outcome
  refine ⟨recording, loaded, ?_⟩
  unfold fieldsToPlot hasColumn signals
  rw [hcolumns]
  decide

end DriveBench.Recording
