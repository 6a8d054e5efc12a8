import DriveBench.Proofs.Report.Plan
import DriveBench.Proofs.Storage.Alike
import DriveBench.Proofs.Table.Spelling
import Mathlib.Data.List.FinRange

/-!
# The order of columns

The order of the columns of a recording is looked at only where none of the
preferred fields is there. So if one is, the same is asked of the backend,
whichever way the file was written.
-/

namespace DriveBench

-- ---------------------------------------------------------------------------
-- Tables by columns
-- ---------------------------------------------------------------------------

namespace Table

variable {n : Nat} {names : Fin n → String} {cells : List (Fin n → String)}
  {values : List (Fin n → Float)}

def matrix (names : Fin n → String) (cells : List (Fin n → String)) : List (List String) :=
  List.ofFn names :: cells.map List.ofFn

theorem zip_ofFn (f : Fin n → α) (g : Fin n → β) :
    (List.ofFn f).zip (List.ofFn g) = List.ofFn fun i => (f i, g i) := by
  apply List.ext_getElem
  · simp
  · intro i h h'
    simp

theorem nodup_zip_ofFn (distinct : Function.Injective names) (value : Fin n → Float) :
    (((List.ofFn names).zip (List.ofFn value)).map Prod.fst).Nodup := by
  rw [zip_ofFn, List.map_ofFn]
  exact List.nodup_ofFn_ofInjective distinct

def ofMatrix (names : Fin n → String) (values : List (Fin n → Float)) : Table :=
  ofValues (List.ofFn names) (values.map List.ofFn)

theorem samples_reordered (distinct : Function.Injective names) (order : Equiv.Perm (Fin n)) :
    (ofMatrix (names ∘ order) (values.map (· ∘ order))).samples = (ofMatrix names values).samples := by
  simp only [ofMatrix, ofValues, List.map_map]
  apply List.map_congr_left
  intro value _
  have perm := order.ofFn_comp_perm fun i => (names i, value i)
  simp only [Function.comp_def] at perm ⊢
  rw [zip_ofFn, zip_ofFn]
  refine Sample.ofCells_perm perm ?_
  rw [List.map_ofFn]
  exact List.nodup_ofFn_ofInjective (distinct.comp order.injective)

end Table

namespace Recording

open Table (Spelling Spell IsTrimmed matrix ofMatrix)

variable {n : Nat} {names : Fin n → String} {cells : List (Fin n → String)}
  {values : List (Fin n → Float)}

theorem series_ofMatrix (distinct : Function.Injective names) (title : String) (i : Fin n) :
    Recording.series ⟨ofMatrix names values, title⟩ (names i) = values.map (· i) := by
  simp only [Recording.series, ofMatrix, Table.ofValues, List.map_map]
  apply List.map_congr_left
  intro value _
  have nodup := Table.nodup_zip_ofFn distinct value
  have hmem : (names i, value i) ∈ (List.ofFn names).zip (List.ofFn value) := by
    rw [Table.zip_ofFn, List.mem_ofFn]
    exact ⟨i, rfl⟩
  have hfind : Assoc.find (names i) ((List.ofFn names).zip (List.ofFn value)).reverse = some (value i) := by
    rw [Assoc.find_eq_some_iff (by simpa using nodup), List.mem_reverse]
    exact hmem
  simp [Sample.getD, Sample.get?_ofCells, hfind]

theorem first_of_forall (first : ∀ i, '\uFEFF' ∉ (names i).toList.head?) :
    ∀ name ∈ (List.ofFn names).head?, '\uFEFF' ∉ name.toList.head? := by
  intro name hname
  obtain ⟨i, rfl⟩ := List.mem_ofFn.1 (List.mem_of_mem_head? hname)
  exact first i

section

variable (trimmed : ∀ i, IsTrimmed (names i)) (first : ∀ i, '\uFEFF' ∉ (names i).toList.head?)
  {bytes : ByteArray} {fs : Filesystem} {path timeColumn : String}
  (spelling : Spelling (matrix names cells) bytes.data.toList)
  (opened : fs.lookup path = .ok (.file bytes)) (timed : ∃ i, names i = timeColumn)
include trimmed first spelling opened timed

theorem load_matrix_iff : (∃ recording, load fs path timeColumn = .ok recording) ↔
    ∀ row ∈ cells, ∀ i, ∃ value, Numeral.parse? (trimText (row i)) = some value := by
  have htrimmed := List.forall_mem_ofFn_iff.2 trimmed
  have htimed : cells.map List.ofFn = [] ∨ timeColumn ∈ List.ofFn names :=
    .inr (List.mem_ofFn.2 timed)
  rw [load_spelling_iff htrimmed (first_of_forall first) spelling opened, and_iff_left htimed]
  simp

theorem load_matrix (numbers : List.Forall₂ (fun row value => ∀ i,
      Numeral.parse? (trimText (row i)) = some (value i)) cells values) :
    load fs path timeColumn = .ok ⟨ofMatrix names values, Path.stem path⟩ := by
  have htrimmed := List.forall_mem_ofFn_iff.2 trimmed
  have hspell : List.Forall₂ Spell (cells.map List.ofFn) (values.map List.ofFn) := by
    rw [List.forall₂_map_left_iff, List.forall₂_map_right_iff]
    refine numbers.imp fun row value h => ?_
    rw [Spell, List.forall₂_iff_get]
    exact ⟨by simp, fun i _ _ => by simpa using h _⟩
  exact load_spelling htrimmed (first_of_forall first) spelling opened (by simp) hspell
    (.inr (List.mem_ofFn.2 timed))

end

end Recording

-- ---------------------------------------------------------------------------
-- Requests
-- ---------------------------------------------------------------------------

namespace Report

open Rendering (Call Renderer Script)
open Table (Spelling IsTrimmed matrix ofMatrix quotedRows)

variable {settings : Settings} {path : String}

theorem exists_error_iff {x : Except ε α} : (∃ e, x = .error e) ↔ ¬ ∃ a, x = .ok a := by
  cases x <;> simp

theorem attempt_script (w : World Script) {recording : Recording}
    (loaded : Recording.load w.files path settings.timeColumn = .ok recording)
    (fields : settings.fieldsOf recording ≠ []) :
    ∃ a, attempt settings (.ready Script.backend) path w = .ok a ∧
      a.world.state = if recording.isEmpty || !(w.preparePlots settings).2.isOk then w.state else
        ⟨w.state.calls ++ [⟨settings.figureOf recording, settings.outputPath path,
          (settings.fieldsOf recording).map recording.series⟩], w.state.outcomes.tail⟩ := by
  obtain ⟨a, ha, hattempts⟩ | ⟨overflow, -, hbroken⟩ :=
    attempt_cases settings (.ready Script.backend) path w
  · refine ⟨a, ha, ?_⟩
    -- an answer, whatever it is, comes with the request remembered
    have asked {found ready rendered} (hp : Plottable settings w.files path found)
        (hready : w.preparePlots settings = (ready, .ok ()))
        (hr : settings.request (.ready Script.backend) path found ready = .ok rendered) :
        rendered.state = if recording.isEmpty || !(w.preparePlots settings).2.isOk then w.state else
          ⟨w.state.calls ++ [⟨settings.figureOf recording, settings.outputPath path,
            (settings.fieldsOf recording).map recording.series⟩], w.state.outcomes.tail⟩ := by
      obtain rfl : found = recording := by simpa [loaded] using hp.loaded.symm
      have hstate : ready.state = w.state := (prepares_of_preparePlots hready).state
      obtain ⟨_, hrender, hremembered⟩ := render_script found (settings.figureOf found)
        (settings.outputPath path) ready.state ready.files
      obtain rfl := Except.ok.inj (hrender.symm.trans hr)
      rw [hp.records, hready, hremembered, hstate]
      rfl
    cases hattempts with
    | unreadable hfail =>
      rw [loaded] at hfail
      cases hfail
    | noRecords hok hempty =>
      obtain rfl : recording = _ := Except.ok.inj (loaded.symm.trans hok)
      simp [World.skip, hempty]
    | noFields hok _ hnone =>
      obtain rfl : recording = _ := Except.ok.inj (loaded.symm.trans hok)
      exact absurd hnone fields
    | unprepared _ hready =>
      have hstate := (prepares_of_preparePlots hready).state
      simp [World.skip, hready, hstate, Except.isOk, Except.toBool]
    | aborted hp hready hr _ _ => exact asked hp hready hr
    | failed hp hready hr _ _ => exact asked hp hready hr
    | written hp hready hr _ => exact asked hp hready hr
  · obtain ⟨found, ready, -, -, hr⟩ := hbroken
    exact absurd hr render_script_ne_error

theorem fieldsOf_eq_filter {recording : Recording}
    (canonical : ∃ field ∈ settings.canonicalFields, field ∈ recording.columns) :
    settings.fieldsOf recording = settings.canonicalFields.filter (· ∈ recording.columns) ∧
      settings.fieldsOf recording ≠ [] := by
  obtain ⟨field, hfield, hcolumn⟩ := canonical
  have hpresent : settings.canonicalFields.filter recording.hasColumn =
      settings.canonicalFields.filter (· ∈ recording.columns) :=
    List.filter_congr fun field _ => by simp [Recording.hasColumn]
  have hsome : settings.canonicalFields.filter (· ∈ recording.columns) ≠ [] :=
    List.ne_nil_of_mem (List.mem_filter.2 ⟨hfield, by simpa using hcolumn⟩)
  have hfields : settings.fieldsOf recording =
      settings.canonicalFields.filter (· ∈ recording.columns) := by
    unfold Settings.fieldsOf Recording.fieldsToPlot
    rw [hpresent]
    split
    · rename_i hnone
      exact absurd hnone hsome
    · rfl
  exact ⟨hfields, hfields ▸ hsome⟩

theorem preparePlots_of_alike {one other : Filesystem} (h : one.Alike other) (settings : Settings)
    (state : σ) (known : Bool) :
    (World.preparePlots ⟨other, state, known⟩ settings).2 =
      (World.preparePlots ⟨one, state, known⟩ settings).2 := by
  unfold World.preparePlots
  split
  · rfl
  · exact Filesystem.makeDirectories_of_alike h settings.plotsDir

/-- Two recordings of one title with the same samples and the same columns in
any order: the same is asked for both if a preferred field is there. -/
theorem attempt_same_samples {one other : Filesystem} {recording reordered : Recording}
    (alike : one.Alike other)
    (loaded : Recording.load one path settings.timeColumn = .ok recording)
    (loaded' : Recording.load other path settings.timeColumn = .ok reordered)
    (samples : reordered.samples = recording.samples)
    (columns : ∀ field, field ∈ reordered.columns ↔ field ∈ recording.columns)
    (present : ∃ field ∈ settings.canonicalFields, field ∈ recording.columns)
    (script : Script) (known : Bool) :
    ∃ a b, attempt settings (.ready Script.backend) path ⟨one, script, known⟩ = .ok a ∧
      attempt settings (.ready Script.backend) path ⟨other, script, known⟩ = .ok b ∧
      b.world.state = a.world.state ∧
      a.world.state.calls = script.calls ++
        if recording.isEmpty || !(World.preparePlots ⟨one, script, known⟩ settings).2.isOk then []
        else [⟨settings.figureOf recording, settings.outputPath path,
          (settings.fieldsOf recording).map recording.series⟩] := by
  have present' : ∃ field ∈ settings.canonicalFields, field ∈ reordered.columns := by
    simpa only [columns] using present
  obtain ⟨hfields, hsome⟩ := fieldsOf_eq_filter present
  obtain ⟨hfields', hsome'⟩ := fieldsOf_eq_filter present'
  have hsame : settings.fieldsOf reordered = settings.fieldsOf recording := by
    rw [hfields, hfields']
    exact List.filter_congr fun field _ => by simp only [columns]
  have hempty : reordered.isEmpty = recording.isEmpty := by
    rw [Recording.isEmpty, Recording.isEmpty, samples]
  have hseries : reordered.series = recording.series := by
    funext column
    rw [Recording.series, Recording.series, samples]
  have hfigure : settings.figureOf reordered = settings.figureOf recording := by
    simp only [Settings.figureOf, Figure.ofRecording, hsame, hseries, Recording.title_of_load loaded,
      Recording.title_of_load loaded']
  obtain ⟨a, ha, hstate⟩ := attempt_script ⟨one, script, known⟩ loaded hsome
  obtain ⟨b, hb, hstate'⟩ := attempt_script ⟨other, script, known⟩ loaded' hsome'
  refine ⟨a, b, ha, hb, ?_, ?_⟩
  · rw [hstate, hstate', hempty, hseries, hfigure, hsame, preparePlots_of_alike alike]
  · rw [hstate]
    split
    · simp
    · rfl

/-- A table and the same table with its columns in another order, written in
any way as one file: both are rejected or none is. If its cells are numbers,
the samples are the same and so is what is asked of the backend. -/
theorem attempt_reordered {n : Nat} (settings : Settings) (path : String)
    {names : Fin n → String} {cells : List (Fin n → String)} (order : Equiv.Perm (Fin n))
    (distinct : Function.Injective names) (trimmed : ∀ i, IsTrimmed (names i))
    (first : ∀ i, '\uFEFF' ∉ (names i).toList.head?) (timed : ∃ i, names i = settings.timeColumn)
    (canonical : ∃ i, names i ∈ settings.canonicalFields) {bytes others : ByteArray}
    (spelling : Spelling (matrix names cells) bytes.data.toList)
    (respelling : Spelling (matrix (names ∘ order) (cells.map (· ∘ order))) others.data.toList)
    {files one other : Filesystem} (written : files.writeFile path bytes = .ok one)
    (rewritten : files.writeFile path others = .ok other) :
    ((∃ failure, Recording.load one path settings.timeColumn = .error failure) ↔
      ∃ failure, Recording.load other path settings.timeColumn = .error failure) ∧
    ∀ values : List (Fin n → Float), List.Forall₂ (fun row value => ∀ i,
        Numeral.parse? (trimText (row i)) = some (value i)) cells values →
      ∃ recording reordered : Recording,
        Recording.load one path settings.timeColumn = .ok recording ∧
        Recording.load other path settings.timeColumn = .ok reordered ∧
        reordered.samples = recording.samples ∧
        (∀ i, recording.series (names i) = values.map (· i)) ∧
        ∀ (script : Script) (known : Bool),
          let fields := settings.canonicalFields.filter (· ∈ List.ofFn names)
          let makes := (World.preparePlots ⟨one, script, known⟩ settings).2.isOk
          ∃ a b, attempt settings (.ready Script.backend) path ⟨one, script, known⟩ = .ok a ∧
            attempt settings (.ready Script.backend) path ⟨other, script, known⟩ = .ok b ∧
            b.world.state = a.world.state ∧
            a.world.state.calls = script.calls ++ if values.isEmpty || !makes then [] else
              [⟨⟨Path.stem path, fields, recording.series settings.timeColumn, settings.xLabel⟩,
                settings.outputPath path, fields.map recording.series⟩] := by
  have hone := Filesystem.lookup_of_writeFile written
  have hother := Filesystem.lookup_of_writeFile rewritten
  have alike := Filesystem.alike_of_writeFile written rewritten
  have timed' : ∃ i, (names ∘ order) i = settings.timeColumn := order.surjective.exists.1 timed
  constructor
  · rw [exists_error_iff, exists_error_iff, Recording.load_matrix_iff trimmed first spelling hone timed,
      Recording.load_matrix_iff (fun i => trimmed (order i)) (fun i => first (order i)) respelling
        hother timed']
    refine not_congr ?_
    rw [List.forall_mem_map]
    exact forall₂_congr fun row _ => order.surjective.forall
  · intro values numbers
    have numbers' : List.Forall₂ (fun row value => ∀ i,
        Numeral.parse? (trimText (row i)) = some (value i)) (cells.map (· ∘ order))
        (values.map (· ∘ order)) := by
      rw [List.forall₂_map_left_iff, List.forall₂_map_right_iff]
      exact numbers.imp fun row value h i => h (order i)
    have hload := Recording.load_matrix trimmed first spelling hone timed numbers
    have hload' := Recording.load_matrix (fun i => trimmed (order i)) (fun i => first (order i))
      respelling hother timed' numbers'
    obtain ⟨i, hi⟩ := canonical
    have present : ∃ field ∈ settings.canonicalFields, field ∈ List.ofFn names :=
      ⟨names i, hi, List.mem_ofFn.2 ⟨i, rfl⟩⟩
    refine ⟨_, _, hload, hload', Table.samples_reordered distinct order,
      Recording.series_ofMatrix distinct _, fun script known => ?_⟩
    obtain ⟨a, b, ha, hb, hsame, hcalls⟩ := attempt_same_samples alike hload hload'
      (Table.samples_reordered distinct order) (fun _ => (order.ofFn_comp_perm names).mem_iff) present
      script known
    refine ⟨a, b, ha, hb, hsame, ?_⟩
    have hnone : Recording.isEmpty ⟨ofMatrix names values, Path.stem path⟩ = values.isEmpty := by
      simp [Recording.isEmpty, ofMatrix, Table.ofValues]
    have hfields : settings.fieldsOf ⟨ofMatrix names values, Path.stem path⟩ =
        settings.canonicalFields.filter (· ∈ List.ofFn names) := (fieldsOf_eq_filter present).1
    rw [hcalls, hnone, Settings.figureOf, hfields]
    rfl

theorem attempt_reordered_three_columns :
    let settings : Settings := {}
    let names : Fin 3 → String := ["id", "time", "a,b"].get
    let cells : List (Fin 3 → String) := [["1", "0", "2"].get, ["nan", "0.5", "-inf"].get]
    let order : Equiv.Perm (Fin 3) := Equiv.swap 0 2
    let file := (quotedRows (matrix names cells)).toByteArray
    let exchanged := (quotedRows (matrix (names ∘ order) (cells.map (· ∘ order)))).toByteArray
    ∃ one other, (withResults []).writeFile "results/a.csv" file = .ok one ∧
      (withResults []).writeFile "results/a.csv" exchanged = .ok other ∧
      ∃ recording reordered, Recording.load one "results/a.csv" "time" = .ok recording ∧
        Recording.load other "results/a.csv" "time" = .ok reordered ∧
        reordered.samples = recording.samples ∧
        ∃ a b, attempt settings (.ready Script.backend) "results/a.csv" ⟨one, ⟨[], []⟩, false⟩ = .ok a ∧
          attempt settings (.ready Script.backend) "results/a.csv" ⟨other, ⟨[], []⟩, false⟩ = .ok b ∧
          b.world.state = a.world.state := by
  intro settings names cells order file exchanged
  have writes (bytes : ByteArray)
      (h : ((withResults []).writeFile "results/a.csv" bytes).isOk = true) :
      ∃ written, (withResults []).writeFile "results/a.csv" bytes = .ok written := by
    cases hwrite : (withResults []).writeFile "results/a.csv" bytes with
    | error fault => simp [hwrite, Except.isOk, Except.toBool] at h
    | ok written => exact ⟨written, rfl⟩
  obtain ⟨one, written⟩ := writes file (by decide +kernel)
  obtain ⟨other, rewritten⟩ := writes exchanged (by decide +kernel)
  have spells {rows : List (List String)} {bytes : ByteArray}
      (hbytes : bytes = (quotedRows rows).toByteArray) (h : ∀ row ∈ rows, row ≠ []) :
      Spelling rows bytes.data.toList := by
    subst hbytes
    simpa using Table.spelling_quotedRows h
  have spelling : Spelling (matrix names cells) file.data.toList := spells rfl (by decide +kernel)
  have respelling : Spelling (matrix (names ∘ order) (cells.map (· ∘ order))) exchanged.data.toList :=
    spells rfl (by decide +kernel)
  have distinct : Function.Injective names := List.nodup_iff_injective_get.1 (by decide)
  have trimmed : ∀ i, IsTrimmed (names i) := by decide +kernel
  have numbers : List.Forall₂ (fun row value => ∀ i : Fin 3,
      Numeral.parse? (trimText (row i)) = some (value i)) cells
      [[1, 0, 2].get, [Binary64.nan, 0.5, .ofBits 0xFFF0000000000000].get] := by
    refine .cons ?_ (.cons ?_ .nil) <;> decide +kernel
  obtain ⟨-, hnumbers⟩ := attempt_reordered settings "results/a.csv" order distinct trimmed
    (by decide) ⟨1, rfl⟩ ⟨0, by decide⟩ spelling respelling written rewritten
  obtain ⟨recording, reordered, hload, hload', hsamples, -, hattempts⟩ := hnumbers _ numbers
  obtain ⟨a, b, ha, hb, hstate, -⟩ := hattempts ⟨[], []⟩ false
  exact ⟨one, other, written, rewritten, recording, reordered, hload, hload', hsamples, a, b, ha, hb,
    hstate⟩

end Report

end DriveBench
