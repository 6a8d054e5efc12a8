import DriveBench.Drive.Recorder
import DriveBench.Proofs.Storage.Keeping
import DriveBench.Proofs.Table.Spelling

/-!
# Recorded and loaded

Recorder and loader share no code and meet in the text alone, which is the
plainest of the ways to write a table: whatever is read as a number is spelled
without commas, marks and blanks.
-/

namespace DriveBench

open Table (CanStandBare RowSpelling RowsSpelling Spelling)

theorem IsBare.canStandBare {text : String} (h : IsBare text) : CanStandBare text := by
  intro c hc
  have hinert := h c hc
  unfold IsInert at hinert
  simp only [ne_eq, ← Char.toNat_inj, Char.reduceToNat]
  omega

-- ---------------------------------------------------------------------------
-- Lines
-- ---------------------------------------------------------------------------

namespace Recorder

structure IsRow (cells : List String) : Prop where
  ne_nil : cells ≠ []
  bare : ∀ cell ∈ cells, CanStandBare cell
  ne_empty : ∀ cell ∈ cells, cell ≠ ""

theorem rowSpelling_intercalate {cells : List String} (row : IsRow cells) :
    RowSpelling cells (Utf8.encode (String.intercalate "," cells)) := by
  induction cells with
  | nil => exact absurd rfl row.ne_nil
  | cons cell cells ih =>
    obtain ⟨hcell, hcells⟩ := List.forall_mem_cons.1 row.bare
    obtain ⟨hne, hnes⟩ := List.forall_mem_cons.1 row.ne_empty
    have spelled := Table.cellSpelling_encode hcell hne
    by_cases hlast : cells = []
    · rw [hlast, String.intercalate_singleton]
      exact .last spelled
    · rw [String.intercalate_cons_of_ne_nil hlast, Utf8.encode_append, Utf8.encode_append,
        List.append_assoc]
      exact .more spelled (ih ⟨hlast, hcells, hnes⟩)

theorem rowsSpelling_lines {rows : List (List String)} (hrows : ∀ cells ∈ rows, IsRow cells) :
    RowsSpelling rows (Utf8.encode (String.join (rows.map line))) := by
  induction rows with
  | nil => exact .none .none
  | cons cells rows ih =>
    obtain ⟨hcells, hrows⟩ := List.forall_mem_cons.1 hrows
    rw [List.map_cons, String.join_cons, line, Utf8.encode_append, Utf8.encode_append,
      List.append_assoc]
    exact .more .none (rowSpelling_intercalate hcells) (.inl rfl) (ih hrows)

-- ---------------------------------------------------------------------------
-- Recordings
-- ---------------------------------------------------------------------------

def rows (states : List MotorState) : List (List String) :=
  MotorState.columns :: states.map fun m => m.values.map Numeral.print

theorem text_eq_join {states : List MotorState} (nonempty : states ≠ []) :
    text states = String.join ((rows states).map line) := by
  rw [text, if_neg (by simpa using nonempty)]
  simp [rows, Function.comp_def]

/-- What is assumed of printing: a text that reads back as the value. -/
def Printed (states : List MotorState) : Prop :=
  ∀ m ∈ states, ∀ x ∈ m.values, Numeral.parse? (Numeral.print x) = some x

instance (states : List MotorState) : Decidable (Printed states) :=
  inferInstanceAs (Decidable (∀ _ ∈ _, ∀ _ ∈ _, _ = _))

theorem isRow_of_mem_rows {states : List MotorState} (printed : Printed states) :
    ∀ cells ∈ rows states, IsRow cells := by
  refine List.forall_mem_cons.2 ⟨⟨by decide, by decide, by decide⟩, fun cells hcells => ?_⟩
  obtain ⟨m, hm, rfl⟩ := List.mem_map.1 hcells
  refine ⟨by simp [MotorState.values], fun cell hcell => ?_, fun cell hcell => ?_⟩
  · obtain ⟨x, hx, rfl⟩ := List.mem_map.1 hcell
    exact (Numeral.isBare_of_parse? (printed m hm x hx)).canStandBare
  · obtain ⟨x, hx, rfl⟩ := List.mem_map.1 hcell
    exact Numeral.ne_empty_of_parse? (printed m hm x hx)

theorem spelling_text {states : List MotorState} (nonempty : states ≠ [])
    (printed : Printed states) : Spelling (rows states) (Utf8.encode (text states)) := by
  rw [text_eq_join nonempty]
  exact .unmarked (rowsSpelling_lines (isRow_of_mem_rows printed))

def sampleOf (m : MotorState) : Sample := Sample.ofCells (MotorState.columns.zip m.values)

theorem read_text {states : List MotorState} (nonempty : states ≠ []) (printed : Printed states) :
    Table.read (Utf8.encode (text states)) "time" =
      .ok ⟨MotorState.columns, states.map sampleOf⟩ := by
  have trimmed : ∀ name ∈ MotorState.columns, Table.IsTrimmed name := by decide +kernel
  have first : ∀ name ∈ MotorState.columns.head?, '\uFEFF' ∉ name.toList.head? := by
    simp [MotorState.columns]
  refine (Table.read_spelling (spelling_text nonempty printed) trimmed first).2 ⟨rfl, ?_, .inr ?_⟩
  · rw [List.forall₂_map_left_iff, List.forall₂_map_right_iff, List.forall₂_same]
    intro m hm
    have width : (m.values.map Numeral.print).length = MotorState.columns.length := rfl
    refine ⟨m.values, width, Table.spell_of_parse? ?_, rfl⟩
    rw [List.forall₂_map_left_iff, List.forall₂_same]
    exact printed m hm
  · simp [MotorState.columns]

/-- A sample with the nine quantities of a state under their names. -/
structure Holds (m : MotorState) (sample : Sample) : Prop where
  time : sample.get? "time" = some m.time
  id : sample.get? "id" = some m.id
  iq : sample.get? "iq" = some m.iq
  vd : sample.get? "vd" = some m.vd
  vq : sample.get? "vq" = some m.vq
  thetaE : sample.get? "theta_e" = some m.thetaE
  omegaE : sample.get? "omega_e" = some m.omegaE
  omegaM : sample.get? "omega_m" = some m.omegaM
  torque : sample.get? "torque" = some m.torque

theorem holds_sampleOf (m : MotorState) : Holds m (sampleOf m) := by
  constructor <;> simp [sampleOf, Sample.ofCells, MotorState.columns, MotorState.values]

theorem record_ok {files written : Filesystem} :
    record files path states = .ok written ↔
      files.writeFile path (Utf8.encode (text states)).toByteArray = .ok written := by
  unfold record
  split <;> simp_all

/-- What is recorded is loaded with the same columns and values, from its bytes
and from the file they were written to. Without states the file is empty. -/
theorem load_record (path : String) (printed : Printed states) :
    ∃ recording,
      Recording.ofBytes path (Utf8.encode (text states)).toByteArray "time" = .ok recording ∧
      (∀ files written, record files path states = .ok written →
        Recording.load written path "time" = .ok recording) ∧
      recording.columns = (if states = [] then [] else
        ["time", "id", "iq", "vd", "vq", "theta_e", "omega_e", "omega_m", "torque"]) ∧
      List.Forall₂ Holds states recording.samples ∧
      (states = [] → text states = "") := by
  have loads : ∀ recording,
      Recording.ofBytes path (Utf8.encode (text states)).toByteArray "time" = .ok recording →
      ∀ files written, record files path states = .ok written →
        Recording.load written path "time" = .ok recording := by
    intro recording hread files written hrecord
    rw [Recording.load_of_lookup (Filesystem.lookup_of_writeFile (record_ok.1 hrecord))]
    exact hread
  by_cases hempty : states = []
  · subst hempty
    refine ⟨⟨⟨[], []⟩, Path.stem path⟩, rfl, loads _ rfl, rfl, .nil, fun _ => rfl⟩
  · have hread := read_text hempty printed
    have hbytes : Recording.ofBytes path (Utf8.encode (text states)).toByteArray "time" =
        .ok ⟨⟨MotorState.columns, states.map sampleOf⟩, Path.stem path⟩ :=
      Recording.ofBytes_ok.2 ⟨_, by simpa using hread, rfl⟩
    refine ⟨_, hbytes, loads _ hbytes, (if_neg hempty).symm, ?_, fun h => absurd h hempty⟩
    rw [List.forall₂_map_right_iff, List.forall₂_same]
    exact fun m _ => holds_sampleOf m

/-- Among the values recorded are a negative zero, the least double, the
greatest, both infinities and NaN. -/
theorem load_record_extremes :
    let states : List MotorState :=
      [{ time := -0.0, id := .ofBits 1, iq := .ofBits 0x7FEFFFFFFFFFFFFF, vd := 0.1, vq := -1e-7 },
        { time := 1, thetaE := .ofBits 0x7FF0000000000000, omegaE := .ofBits 0xFFF0000000000000,
          omegaM := Binary64.nan, torque := 123456789 }]
    Printed states ∧ ∃ recording,
      Recording.ofBytes "run.csv" (Utf8.encode (text states)).toByteArray "time" = .ok recording ∧
      List.Forall₂ Holds states recording.samples := by
  intro states
  have printed : Printed states := by decide +kernel
  obtain ⟨recording, hread, -, -, hsamples, -⟩ := load_record "run.csv" printed
  exact ⟨printed, recording, hread, hsamples⟩

end Recorder

end DriveBench
