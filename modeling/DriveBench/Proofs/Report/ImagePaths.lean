import DriveBench.Proofs.Report.OwnImages

/-!
# Where images go

An image is a name in the directory of the images, made from the stem of its
recording: one name, without a slash and none of the two made of dots. So an
image is never outside the directory.
-/

namespace DriveBench

def inside (dir file : String) : String :=
  if dir = "" ∨ dir.toList.getLast? = some '/' then dir ++ file else dir ++ "/" ++ file

theorem Path.join_eq_inside {base name : String} (plain : IsPlainName name) :
    join base name = inside base name := by
  have closed : base.toList.getLast?.all (· == '/') = true ↔
      base = "" ∨ base.toList.getLast? = some '/' := by
    rw [← String.toList_eq_nil_iff, ← List.getLast?_eq_none_iff]
    cases base.toList.getLast? <;> simp
  rw [join_of_plain plain, inside]
  simp only [closed]

-- ---------------------------------------------------------------------------
-- Stems of files
-- ---------------------------------------------------------------------------

theorem Path.stemOf_ne_nil {name : List Char} (h : name ≠ []) : stemOf name ≠ [] := by
  unfold stemOf
  dsimp only
  split
  · exact h
  · rename_i hfront
    simpa using hfront

theorem Path.stem_ne_empty {path name : String} {front : List (List Char)} (plain : IsPlainName name)
    (h : pieces path = front ++ [name.toList]) : stem path ≠ "" := by
  rw [stem, fileName?_of_pieces plain h]
  intro hempty
  have hnone : stemOf name.toList = [] := by
    simpa using congrArg String.toList hempty
  exact stemOf_ne_nil (mt String.toList_eq_nil_iff.1 plain.ne_empty) hnone

theorem isPlainName_of_ofPiece {piece : List Char} {name : String} (noSlash : '/' ∉ piece)
    (h : Step.ofPiece piece = .name name) : name.toList = piece ∧ IsPlainName name := by
  unfold Step.ofPiece at h
  split at h
  · cases h
  · cases h
  · cases h
  · rename_i hempty hdot hdots
    obtain rfl := Step.name.inj h
    have differs (short : String) (hne : piece ≠ short.toList) : String.ofList piece ≠ short := by
      rintro rfl
      simp at hne
    exact ⟨by simp, by simpa using noSlash, differs "" hempty, differs "." hdot, differs ".." hdots⟩

theorem exists_name_of_lookup {fs : Filesystem} {path : String} {bytes : ByteArray}
    (h : fs.lookup path = .ok (.file bytes)) :
    ∃ front name, Path.pieces path = front ++ [name.toList] ∧ IsPlainName name := by
  obtain ⟨location, hlocate, hget⟩ := Filesystem.lookup_ok.1 h
  obtain ⟨-, hwalk⟩ := Filesystem.locate_ok.1 hlocate
  obtain hnil | ⟨front, last, hpieces⟩ := List.eq_nil_or_concat (Path.pieces path)
  · exact absurd hnil (pieces_ne_nil _)
  · rw [List.concat_eq_append] at hpieces
    rw [hpieces, List.map_append, List.map_cons, List.map_nil, Filesystem.walk_concat_ok] at hwalk
    obtain ⟨before, -, hstep⟩ := hwalk
    obtain ⟨name, hname⟩ | hd := Filesystem.get?_of_step hstep
    · have hlast : last ∈ Path.pieces path := by simp [hpieces]
      obtain ⟨htext, plain⟩ :=
        isPlainName_of_ofPiece (separator_notMem_of_mem_pieces hlast) hname
      exact ⟨front, name, by rw [hpieces, htext], plain⟩
    · rw [hd] at hget
      cases hget

theorem stem_ne_empty_of_lookup {fs : Filesystem} {path : String} {bytes : ByteArray}
    (h : fs.lookup path = .ok (.file bytes)) : Path.stem path ≠ "" := by
  obtain ⟨front, name, hpieces, plain⟩ := exists_name_of_lookup h
  exact Path.stem_ne_empty plain hpieces

-- ---------------------------------------------------------------------------
-- Files in a directory
-- ---------------------------------------------------------------------------

/-- The directory that a path names. The empty path, of which nothing can be
found, stands for the working directory where a name is joined to it. -/
def Filesystem.Names (fs : Filesystem) (dir : String) (location : Location) : Prop :=
  fs.get? location = some .directory ∧
    (fs.locate dir = .ok location ∨ dir = "" ∧ location = fs.workdir)

theorem Filesystem.textFault?_of_append {dir rest : String} (h : textFault? (dir ++ rest) = none)
    (named : dir ≠ "") : textFault? dir = none := by
  unfold textFault? at h ⊢
  split at h
  · cases h
  · rename_i hnul
    split at h
    · cases h
    · split at h
      · cases h
      · rename_i short
        rw [String.utf8ByteSize_append] at short
        have hclean : dir.toList.contains '\x00' = false := by
          simp only [String.toList_append, List.contains_eq_mem, List.mem_append, decide_eq_true_eq,
            not_or] at hnul
          simpa using hnul.1
        rw [hclean, if_neg (by simp), if_neg (by simpa using named), if_neg (by omega)]

theorem Filesystem.names_of_writeFile {fs written : Filesystem} {dir name : String} {bytes : ByteArray}
    (plain : IsPlainName name) (h : fs.writeFile (Path.join dir name) bytes = .ok written) :
    ∃ location, fs.Names dir location ∧
      ∀ other, written.get? other ≠ fs.get? other → other = name :: location := by
  obtain ⟨found, parent, hd, target, -, -, -, view⟩ := get?_writeFile h
  obtain ⟨front, last, blank, hpieces, -, hblank, hname, text, hwalk⟩ := target_fresh target
  obtain ⟨front', hjoin, hdir⟩ := walk_front_join fs dir plain
  rw [hblank rfl, hjoin] at hpieces
  obtain ⟨rfl, hlast⟩ := List.append_inj' hpieces rfl
  obtain rfl := List.singleton_inj.1 hlast
  rw [ofPiece_of_plain plain, Step.name.injEq] at hname
  refine ⟨parent, ⟨hd, ?_⟩, fun other hother => ?_⟩
  · have reached := (hdir parent hd).1 hwalk
    by_cases named : dir = ""
    · subst named
      have hpieces : (Path.pieces "").map Step.ofPiece = [] ++ [.stay] := rfl
      rw [hpieces, walk_concat_ok] at reached
      obtain ⟨before, hbefore, hstep⟩ := reached
      obtain ⟨-, rfl⟩ := step_stay_ok.1 hstep
      exact .inr ⟨rfl, (Except.ok.inj hbefore).symm⟩
    · obtain ⟨rest, hrest⟩ : ∃ rest, Path.join dir name = dir ++ rest := by
        rw [Path.join_eq_inside plain, inside]
        split
        · exact ⟨name, rfl⟩
        · exact ⟨"/" ++ name, String.append_assoc⟩
      rw [hrest] at text
      exact .inl (locate_ok.2 ⟨textFault?_of_append text named, reached⟩)
  · by_contra hne
    exact hother (by rw [view, if_neg (by rw [← hname]; exact hne)])

namespace Report

open Rendering (Renderer Request)

variable {σ : Type} {settings : Settings} {renderer : Renderer σ}

-- ---------------------------------------------------------------------------
-- Requests
-- ---------------------------------------------------------------------------

/-- A request for an image that is named for its figure. -/
structure Titled (dir : String) (request : Request) : Prop where
  titled : request.figure.title ≠ ""
  output : request.output = inside dir (request.figure.title ++ ".png")

theorem outputPath_eq_inside (settings : Settings) (path : String) :
    settings.outputPath path = inside settings.plotsDir (imageName path) :=
  Path.join_eq_inside (isPlainName_imageName path)

theorem titled_of_plottable {files : Filesystem} {path : String} {recording : Recording}
    (h : Plottable settings files path recording) :
    Titled settings.plotsDir ⟨recording, settings.figureOf recording, settings.outputPath path⟩ := by
  have htitle : (settings.figureOf recording).title = Path.stem path :=
    Recording.title_of_load h.loaded
  obtain ⟨bytes, hlookup, -⟩ := Recording.exists_of_load h.loaded
  refine ⟨htitle ▸ stem_ne_empty_of_lookup hlookup, ?_⟩
  dsimp only
  rw [htitle, outputPath_eq_inside, imageName]

theorem Serves.titled {expected : List Expected} {jobs : List Rendering.Job}
    (h : Serves settings renderer expected jobs) : ∀ job ∈ jobs, Titled settings.plotsDir job.request := by
  intro job hjob
  obtain ⟨e, -, hfor⟩ := h.jobFor job hjob
  obtain ⟨files, hp⟩ := hfor.recording
  obtain ⟨titled, output⟩ := titled_of_plottable hp
  rw [← hfor.figure, ← hfor.output] at *
  exact ⟨titled, output⟩

/-- All that a run asks of its renderer, the request that breaks it off included. -/
theorem run_titled (settings : Settings) (renderer : Renderer σ) (state : σ) (initial : Filesystem) :
    (∃ o, run settings renderer.observed (state, []) initial = .ok o ∧
      run settings renderer state initial = .ok (o.mapState Prod.fst) ∧
      ∀ job ∈ o.world.state.2, Titled settings.plotsDir job.request) ∨
    ∃ overflow, run settings renderer state initial = .error overflow ∧
      ∃ front name back o, settings.expectedFiles = front ++ name :: back ∧
        run (settings.expecting front) renderer.observed (state, []) initial = .ok o ∧
        (∀ job ∈ o.world.state.2, Titled settings.plotsDir job.request) ∧
        ∃ request state' files, Titled settings.plotsDir request ∧
          renderer.render request.recording request.figure request.output state' files =
            .error overflow := by
  obtain ⟨o, hobserved, hrun, hserves⟩ | ⟨overflow, hrun, front, name, back, o, hnames, hfront, -, hoff⟩ :=
    run_serves settings renderer state initial
  · exact .inl ⟨o, hobserved, hrun, hserves.titled⟩
  · obtain ⟨recording, ready, hp, -, hrender⟩ := hoff
    have hbreaks := titled_of_plottable hp
    rw [Settings.request] at hrender
    -- an output that is only a name is compared at once
    generalize settings.outputPath (settings.inputPath name) = output at hbreaks hrender
    obtain ⟨o', hobserved, -, hserves⟩ | ⟨other, hbroken, -⟩ :=
      run_serves (settings.expecting front) renderer state initial
    · have hjobs := hserves.titled
      have sameDir : (settings.expecting front).plotsDir = settings.plotsDir := rfl
      rw [sameDir] at hjobs
      exact .inr ⟨overflow, hrun, front, name, back, o', hnames, hobserved, hjobs,
        ⟨recording, settings.figureOf recording, output⟩, ready.state, ready.files, hbreaks, hrender⟩
    · cases hfront.symm.trans hbroken

theorem stem_ne_empty_of_found {files : Filesystem} {expected : Expected}
    (hmem : expected ∈ discover settings files) (found : expected.found = true) :
    Path.stem expected.path ≠ "" := by
  obtain ⟨name, -, rfl⟩ := List.mem_map.1 hmem
  obtain ⟨bytes, hlookup⟩ := Filesystem.isFile_iff.1 found
  exact stem_ne_empty_of_lookup hlookup

/-- Whatever the paths of the recordings look like, images are in the directory of
the images, each under the title of its figure. -/
theorem images_stay_inside (settings : Settings) :
    (∀ path, settings.outputPath path = inside settings.plotsDir (Path.stem path ++ ".png") ∧
      IsPlainName (Path.stem path ++ ".png")) ∧
    (∀ path (files written : Filesystem) bytes,
      files.writeFile (settings.outputPath path) bytes = .ok written →
        ∃ location, files.Names settings.plotsDir location ∧
          ∀ other, written.get? other ≠ files.get? other →
            other = (Path.stem path ++ ".png") :: location) ∧
    (∀ path other, settings.outputPath path = settings.outputPath other ↔
      Path.stem path = Path.stem other) ∧
    (∀ files, ∀ expected ∈ discover settings files, expected.found = true →
      Path.stem expected.path ≠ "" ∧
        ∀ later recording, Recording.load later expected.path settings.timeColumn = .ok recording →
          recording.title = Path.stem expected.path) ∧
    ∀ (σ : Type) (renderer : Renderer σ) (state : σ) (initial : Filesystem),
      (∃ o, run settings renderer.observed (state, []) initial = .ok o ∧
        run settings renderer state initial = .ok (o.mapState Prod.fst) ∧
        ∀ job ∈ o.world.state.2, Titled settings.plotsDir job.request) ∨
      ∃ overflow, run settings renderer state initial = .error overflow ∧
        ∃ front name back o, settings.expectedFiles = front ++ name :: back ∧
          run (settings.expecting front) renderer.observed (state, []) initial = .ok o ∧
          (∀ job ∈ o.world.state.2, Titled settings.plotsDir job.request) ∧
          ∃ request state' files, Titled settings.plotsDir request ∧
            renderer.render request.recording request.figure request.output state' files =
              .error overflow := by
  refine ⟨fun path => ⟨outputPath_eq_inside settings path, isPlainName_imageName path⟩,
    fun path files written bytes hwrite => ?_, fun path other => outputPath_inj,
    fun files expected hmem found => ?_, fun σ renderer => run_titled settings renderer⟩
  · exact Filesystem.names_of_writeFile (isPlainName_imageName path) hwrite
  · exact ⟨stem_ne_empty_of_found hmem found, fun later recording => Recording.title_of_load⟩

theorem images_stay_inside_odd_names :
    let settings : Settings := { plotsSubdir := "img/", expectedFiles := ["..", ".//a.b.csv"] }
    let initial := ((withResults [("a.b.csv", "time,id\n0,1\n")]).makeDirectories "results/img").1
    (∃ written, initial.writeFile (settings.outputPath (settings.inputPath "..")) ⟨#[0]⟩ =
        .ok written ∧
      ∃ location, initial.Names "results/img/" location ∧
        ∀ other, written.get? other ≠ initial.get? other → other = ".png" :: location) ∧
    (⟨"results/.//a.b.csv", true⟩ ∈ discover settings initial ∧
      ∃ recording, Recording.load initial "results/.//a.b.csv" settings.timeColumn = .ok recording ∧
        recording.title = "a.b") := by
  intro settings initial
  obtain ⟨-, keeps, -, titles, -⟩ := images_stay_inside settings
  refine ⟨?_, ?_⟩
  · have isOk : (initial.writeFile (settings.outputPath (settings.inputPath "..")) ⟨#[0]⟩).isOk =
        true := by decide +kernel
    cases hwrite : initial.writeFile (settings.outputPath (settings.inputPath "..")) ⟨#[0]⟩ with
    | error fault =>
      rw [hwrite] at isOk
      cases isOk
    | ok written =>
      have stem : Path.stem (settings.inputPath "..") = "" := by decide +kernel
      have dir : settings.plotsDir = "results/img/" := by decide +kernel
      have kept := keeps _ _ _ _ hwrite
      rw [stem, dir] at kept
      exact ⟨written, rfl, kept⟩
  · have hmem : (⟨"results/.//a.b.csv", true⟩ : Expected) ∈ discover settings initial := by
      decide +kernel
    refine ⟨hmem, ?_⟩
    have isOk : (Recording.load initial "results/.//a.b.csv" settings.timeColumn).isOk = true := by
      decide +kernel
    cases hload : Recording.load initial "results/.//a.b.csv" settings.timeColumn with
    | error failure =>
      rw [hload] at isOk
      cases isOk
    | ok recording =>
      have stem : Path.stem "results/.//a.b.csv" = "a.b" := by decide +kernel
      exact ⟨recording, rfl, ((titles _ _ hmem rfl).2 _ _ hload).trans stem⟩

end Report

end DriveBench
