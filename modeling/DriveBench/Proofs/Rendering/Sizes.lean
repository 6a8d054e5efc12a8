import DriveBench.Proofs.Sequence
import DriveBench.Rendering.Raster

/-!
# Sizes of images

A product of sizes is the true one, or it is noticed that there is none of 32
bits. But the number of panels is cut to 32 bits before the height is formed, so
an image that is too high may be given too few rows.
-/

namespace DriveBench.Rendering

-- ---------------------------------------------------------------------------
-- Products
-- ---------------------------------------------------------------------------

theorem mul?_ok {a b c : UInt32} : mul? a b = .ok c ↔ c.toNat = a.toNat * b.toNat := by
  unfold mul?
  split
  · rename_i fits
    have product : (a * b).toNat = a.toNat * b.toNat := by
      rw [UInt32.toNat_mul]
      exact Nat.mod_eq_of_lt fits
    rw [Except.ok.injEq, ← product, UInt32.toNat_inj, eq_comm]
  · rename_i large
    refine iff_of_false (by simp) fun h => large ?_
    rw [← h]
    exact c.toNat_lt

theorem mul?_error {a b : UInt32} {overflow : Overflow} :
    mul? a b = .error overflow ↔ overflow = .product ∧ UInt32.size ≤ a.toNat * b.toNat := by
  unfold mul?
  split <;> simp_all [eq_comm]

theorem toNat_panels (panels : UInt64) :
    (max panels 1).toUInt32.toNat = max panels.toNat 1 % UInt32.size := by
  have hmax : (max panels 1).toNat = max panels.toNat 1 := by
    have hdef : max panels 1 = if panels ≤ 1 then 1 else panels := rfl
    have hone : panels ≤ 1 ↔ panels.toNat ≤ 1 := UInt64.le_iff_toNat_le
    rw [hdef]
    split
    · rename_i hle
      rw [Nat.max_eq_right (hone.1 hle)]
      rfl
    · rename_i hgt
      rw [Nat.max_eq_left (Nat.le_of_not_le fun hle => hgt (hone.2 hle))]
  rw [UInt64.toNat_toUInt32, hmax]

namespace Raster

variable {raster : Raster} {panels : UInt64} {size : UInt32 × UInt32}

def rowsFor (raster : Raster) (panels : UInt64) : Nat :=
  raster.panelHeight.toNat * max panels.toNat 1

/-- The rows for as many panels as the lowest 32 bits of their number say. -/
def rowsCounted (raster : Raster) (panels : UInt64) : Nat :=
  raster.panelHeight.toNat * (max panels.toNat 1 % UInt32.size)

theorem size?_ok :
    raster.size? panels = .ok size ↔ size.1 = raster.width ∧ size.2.toNat = raster.rowsCounted panels := by
  obtain ⟨width, height⟩ := size
  rw [rowsCounted, ← toNat_panels, ← mul?_ok, size?, bind_ok]
  constructor
  · rintro ⟨rows, hmul, hsize⟩
    obtain ⟨rfl, rfl⟩ := Prod.mk.inj (Except.ok.inj hsize)
    exact ⟨rfl, hmul⟩
  · rintro ⟨rfl, hmul⟩
    exact ⟨height, hmul, rfl⟩

theorem size?_error :
    raster.size? panels = .error .product ↔ UInt32.size ≤ raster.rowsCounted panels := by
  have product : mul? raster.panelHeight (max panels 1).toUInt32 = .error .product ↔
      UInt32.size ≤ raster.rowsCounted panels := by
    rw [mul?_error, toNat_panels, rowsCounted, and_iff_right rfl]
  rw [← product, size?, bind_error]
  refine ⟨fun h => h.resolve_right ?_, .inl⟩
  rintro ⟨rows, -, hsize⟩
  cases hsize

theorem rowsCounted_of_lt (few : panels.toNat < UInt32.size) :
    raster.rowsCounted panels = raster.rowsFor panels := by
  rw [rowsCounted, rowsFor, Nat.mod_eq_of_lt (Nat.max_lt.2 ⟨few, by decide⟩)]

theorem rowsCounted_of_rowsFor (h : raster.rowsFor panels < UInt32.size) :
    raster.rowsCounted panels = raster.rowsFor panels := by
  obtain hnone | hsome := Nat.eq_zero_or_pos raster.panelHeight.toNat
  · rw [rowsCounted, rowsFor, hnone, Nat.zero_mul, Nat.zero_mul]
  · have hcount := Nat.lt_of_le_of_lt (Nat.le_mul_of_pos_left (max panels.toNat 1) hsome) h
    rw [rowsCounted, rowsFor, Nat.mod_eq_of_lt hcount]

/-- The rows of an image are those that its panels need; if these are too many, it
is refused. -/
structure Fitting (raster : Raster) (panels : UInt64) : Prop where
  exact_iff : ∀ size, raster.size? panels = .ok size ↔
    size.1 = raster.width ∧ size.2.toNat = raster.rowsFor panels
  refused_iff : raster.size? panels = .error .product ↔ UInt32.size ≤ raster.rowsFor panels

structure Crops (raster : Raster) (panels : UInt64) : Prop where
  needed : UInt32.size ≤ raster.rowsFor panels
  counted : raster.rowsCounted panels < UInt32.size

theorem fitting_iff : raster.Fitting panels ↔ ¬ raster.Crops panels := by
  constructor
  · rintro fitting ⟨needed, counted⟩
    exact Nat.not_le.2 counted (size?_error.1 (fitting.refused_iff.2 needed))
  · intro whole
    obtain fits | needed := Nat.lt_or_ge (raster.rowsFor panels) UInt32.size
    · have same := rowsCounted_of_rowsFor fits
      exact ⟨fun size => same ▸ size?_ok, same ▸ size?_error⟩
    · have counted : UInt32.size ≤ raster.rowsCounted panels :=
        Nat.le_of_not_lt fun counted => whole ⟨needed, counted⟩
      refine ⟨fun size => iff_of_false (fun h => ?_) fun h => ?_, iff_of_true (size?_error.2 counted) needed⟩
      · exact Nat.not_le.2 size.2.toNat_lt ((size?_ok.1 h).2 ▸ counted)
      · exact Nat.not_le.2 size.2.toNat_lt (h.2 ▸ needed)

theorem Crops.exists_size (h : raster.Crops panels) : UInt32.size ≤ panels.toNat ∧
    ∃ height, raster.size? panels = .ok (raster.width, height) ∧
      height.toNat < raster.rowsFor panels := by
  refine ⟨Nat.le_of_not_lt fun few => ?_, ?_⟩
  · exact Nat.not_le.2 h.counted (rowsCounted_of_lt few ▸ h.needed)
  · refine ⟨UInt32.ofNatLT _ h.counted, size?_ok.2 ⟨rfl, ?_⟩, ?_⟩
    · exact UInt32.toNat_ofNatLT
    · rw [UInt32.toNat_ofNatLT]
      exact Nat.lt_of_lt_of_le h.counted h.needed

theorem Fitting.mono {fewer : UInt64} {less more : UInt32 × UInt32} (hless : raster.Fitting fewer)
    (hmore : raster.Fitting panels) (le : fewer ≤ panels) (isLess : raster.size? fewer = .ok less)
    (isMore : raster.size? panels = .ok more) : raster.panelHeight ≤ less.2 ∧ less.2 ≤ more.2 := by
  rw [UInt32.le_iff_toNat_le, UInt32.le_iff_toNat_le, ((hless.exact_iff less).1 isLess).2,
    ((hmore.exact_iff more).1 isMore).2]
  have le := UInt64.le_iff_toNat_le.1 le
  have count : max fewer.toNat 1 ≤ max panels.toNat 1 := by omega
  exact ⟨Nat.le_mul_of_pos_right _ (Nat.le_max_right _ _), Nat.mul_le_mul_left _ count⟩

/-- An image has exactly the rows that its panels need, or is refused because they
are too many, unless so many panels are left out that the rows are not too many
for the others. That takes `2 ^ 32` panels, and the image is too low for them. -/
theorem size?_exact_or_refused (raster : Raster) :
    (∀ panels, raster.Fitting panels ↔ ¬ raster.Crops panels) ∧
      (∀ panels, raster.Crops panels → UInt32.size ≤ panels.toNat ∧
        ∃ height, raster.size? panels = .ok (raster.width, height) ∧
          height.toNat < raster.rowsFor panels) ∧
      ∀ fewer panels less more, raster.Fitting fewer → raster.Fitting panels → fewer ≤ panels →
        raster.size? fewer = .ok less → raster.size? panels = .ok more →
          raster.panelHeight ≤ less.2 ∧ less.2 ≤ more.2 :=
  ⟨fun _ => fitting_iff, fun _ => Crops.exists_size, fun _ _ _ _ => Fitting.mono⟩

theorem size?_exact_or_refused_three_panels :
    let raster : Raster := ⟨800, 250⟩
    raster.Fitting 1 ∧ raster.Fitting 3 ∧ raster.size? 1 = .ok (800, 250) ∧
      raster.size? 3 = .ok (800, 750) ∧ (250 : UInt32) ≤ 250 ∧ (250 : UInt32) ≤ 750 ∧
      raster.Crops 4294967299 ∧ ∃ height, raster.size? 4294967299 = .ok (800, height) ∧
        height.toNat < raster.rowsFor 4294967299 := by
  intro raster
  obtain ⟨fitting, cropped, mono⟩ := size?_exact_or_refused raster
  have one : raster.Fitting 1 := (fitting 1).2 fun crops => absurd crops.needed (by decide)
  have three : raster.Fitting 3 := (fitting 3).2 fun crops => absurd crops.needed (by decide)
  have crops : raster.Crops 4294967299 := ⟨by decide, by decide⟩
  have lower : raster.size? 1 = .ok (800, 250) := (one.exact_iff _).2 ⟨rfl, by decide⟩
  have higher : raster.size? 3 = .ok (800, 750) := (three.exact_iff _).2 ⟨rfl, by decide⟩
  obtain ⟨least, more⟩ := mono 1 3 _ _ one three (by decide) lower higher
  exact ⟨one, three, lower, higher, least, more, crops, (cropped _ crops).2⟩

/-- With `2 ^ 32` panels an image has no rows, and with one more it has those of a
single panel. -/
theorem size?_crops :
    let raster : Raster := ⟨800, 250⟩
    raster.size? 4294967296 = .ok (800, 0) ∧ raster.size? 4294967297 = .ok (800, 250) ∧
      raster.rowsFor 4294967297 = 250 * 4294967297 ∧ ¬ raster.Fitting 4294967297 := by
  intro raster
  exact ⟨rfl, rfl, rfl, fun fitting => fitting_iff.1 fitting ⟨by decide, by decide⟩⟩

end Raster

end DriveBench.Rendering
