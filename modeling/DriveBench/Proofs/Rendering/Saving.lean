import DriveBench.Proofs.Sequence
import DriveBench.Proofs.Storage.Keeping
import DriveBench.Rendering.Raster

/-!
# What a failed rendering leaves

An image is drawn in full before its file is touched. Only one failure comes
after that: an image without rows or without columns has no file form, and by
the time this is noticed the file has been emptied. What is written to an open
file is taken to arrive there.
-/

namespace DriveBench.Rendering.Raster

variable {raster : Raster} {recording : Recording} {figure : Figure} {output : String}
  {files after : Filesystem} {image : Image} {result : Except Failure Unit} {failure : Failure}

/-- A file with nothing but the end of an image in place of what was at a path,
and everything else as it was. -/
def Stubs (path : String) (before after : Filesystem) : Prop :=
  ∃ place, after.locate path = .ok place ∧ after.get? place = some (.file Png.ending) ∧
    ∀ other, other ≠ place → after.get? other = before.get? other

theorem encode_eq_error_iff {defect : Png.Defect} : Png.encode image = .error defect ↔
    image.width = 0 ∧ defect = .zeroWidth ∨
      image.width ≠ 0 ∧ image.height = 0 ∧ defect = .zeroHeight := by
  unfold Png.encode
  split
  · simp_all [eq_comm]
  · split <;> simp_all [eq_comm]

theorem save_error (failed : save image output files = (.error failure, after)) :
    (after = files ∧ ∃ fault, failure = .saving output (.storage fault)) ∨
      ∃ defect, Png.encode image = .error defect ∧ failure = .saving output (.shape defect) ∧
        Stubs output files after := by
  unfold save at failed
  cases hencode : Png.encode image with
  | ok bytes =>
    rw [hencode] at failed
    cases hwrite : files.writeFile output bytes with
    | ok written => simp [hwrite] at failed
    | error fault =>
      simp only [hwrite, Prod.mk.injEq, Except.error.injEq] at failed
      exact .inl ⟨failed.2.symm, fault, failed.1.symm⟩
  | error defect =>
    rw [hencode] at failed
    cases hwrite : files.writeFile output Png.ending with
    | error fault =>
      simp only [hwrite, Prod.mk.injEq, Except.error.injEq] at failed
      exact .inl ⟨failed.2.symm, fault, failed.1.symm⟩
    | ok written =>
      simp only [hwrite, Prod.mk.injEq, Except.error.injEq] at failed
      obtain ⟨rfl, rfl⟩ := failed
      exact .inr ⟨defect, rfl, rfl, Filesystem.locate_of_writeFile hwrite⟩

/-- A rendering that comes to an end has a size, and it ends as saving an image
of that size does. -/
theorem render_ok (rendered : raster.render recording figure output files = .ok (result, after)) :
    ∃ width height image, raster.size? (UInt64.ofNat figure.fields.length) = .ok (width, height) ∧
      image.width = width.toNat ∧ image.height = height.toNat ∧
      save image output files = (result, after) := by
  unfold render at rendered
  obtain ⟨⟨width, height⟩, hsize, hrest⟩ := bind_ok.1 rendered
  obtain ⟨_, -, hrest⟩ := bind_ok.1 hrest
  obtain ⟨_, -, hrest⟩ := bind_ok.1 hrest
  simp only [Image.ofPixels?_of_size (figure.size_draw ..)] at hrest
  exact ⟨width, height, _, hsize, rfl, rfl, Except.ok.inj hrest⟩

/-- Where a rendering fails, no file has changed, unless the image has no rows
or no columns and a file could be opened for it. Then the file is left without
an image. -/
theorem render_failed
    (failed : raster.render recording figure output files = .ok (.error failure, after)) :
    ∃ width height, raster.size? (UInt64.ofNat figure.fields.length) = .ok (width, height) ∧
      ((after = files ∧ ∃ fault, failure = .saving output (.storage fault)) ∨
        (width = 0 ∧ failure = .saving output (.shape .zeroWidth) ∨
          width ≠ 0 ∧ height = 0 ∧ failure = .saving output (.shape .zeroHeight)) ∧
        Stubs output files after) := by
  obtain ⟨width, height, image, hsize, hwidth, hheight, hsave⟩ := render_ok failed
  refine ⟨width, height, hsize, (save_error hsave).imp id ?_⟩
  rintro ⟨defect, hencode, rfl, stubs⟩
  refine ⟨?_, stubs⟩
  have hzero : ∀ n : UInt32, n.toNat = 0 ↔ n = 0 := fun n => by rw [← UInt32.toNat_inj]; rfl
  rw [encode_eq_error_iff, hwidth, hheight, Ne, hzero, hzero] at hencode
  exact hencode.imp (fun h => ⟨h.1, by rw [h.2]⟩) fun h => ⟨h.1, h.2.1, by rw [h.2.2]⟩

theorem exists_of_fails {rendered : Except Overflow (Except Failure Unit × Filesystem)}
    (fails : rendered.toOption.map (·.1.isOk) = some false) :
    ∃ failure after, rendered = .ok (.error failure, after) := by
  match rendered with
  | .error _ => cases fails
  | .ok (.ok _, _) => cases fails
  | .ok (.error failure, after) => exact ⟨failure, after, rfl⟩

theorem render_failed_without_directory :
    let raster : Raster := ⟨60, 40⟩
    let recording : Recording := ⟨⟨["time", "id"], [.ofCells [("time", 0), ("id", 1)]]⟩, "y"⟩
    let figure := Figure.ofRecording recording ["id"] "time" "time [s]"
    let files := (Filesystem.workplace.writeFile "y.png" "old".toUTF8).toOption.getD .workplace
    ∃ fault, raster.render recording figure "plots/y.png" files =
      .ok (.error (.saving "plots/y.png" (.storage fault)), files) := by
  intro raster recording figure files
  have size : raster.size? (UInt64.ofNat figure.fields.length) = .ok (60, 40) := by decide +kernel
  have fails : (raster.render recording figure "plots/y.png" files).toOption.map (·.1.isOk) =
      some false := by
    decide +kernel
  clear_value raster recording figure files
  obtain ⟨failure, after, rendered⟩ := exists_of_fails fails
  obtain ⟨width, height, hsize, ⟨rfl, fault, rfl⟩ | ⟨hzero, -⟩⟩ := render_failed rendered
  · exact ⟨fault, rendered⟩
  · obtain ⟨rfl, rfl⟩ := Prod.mk.inj (Except.ok.inj (size.symm.trans hsize))
    simp at hzero

/-- A good image does not outlive the attempt to draw one without columns. -/
theorem failed_rendering_replaces_image :
    let raster : Raster := ⟨0, 250⟩
    let recording : Recording := ⟨⟨["time", "id"], [.ofCells [("time", 0), ("id", 1)]]⟩, "y"⟩
    let figure := Figure.ofRecording recording ["id"] "time" "time [s]"
    let files := (Filesystem.workplace.writeFile "y.png" "old".toUTF8).toOption.getD .workplace
    ∃ failure after, raster.render recording figure "y.png" files = .ok (.error failure, after) ∧
      files.lookup "y.png" = .ok (.file "old".toUTF8) ∧
      after.lookup "y.png" ≠ .ok (.file "old".toUTF8) := by
  intro raster recording figure files
  have before : files.lookup "y.png" = .ok (.file "old".toUTF8) := by decide +kernel
  obtain ⟨failure, after, rendered⟩ :
      ∃ failure after, raster.render recording figure "y.png" files = .ok (.error failure, after) :=
    exists_of_fails (by decide +kernel)
  have replaced : (raster.render recording figure "y.png" files).toOption.map
      (fun outcome => decide (outcome.2.lookup "y.png" = .ok (.file "old".toUTF8))) = some false := by
    decide +kernel
  rw [rendered] at replaced
  exact ⟨failure, after, rendered, before, of_decide_eq_false (Option.some.inj replaced)⟩

end DriveBench.Rendering.Raster
