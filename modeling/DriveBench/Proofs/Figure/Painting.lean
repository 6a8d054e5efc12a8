import DriveBench.Figure.Drawing

/-!
# What is seen of a figure

Painting changes the colour of one pixel, and outside the image none. So a pixel
of a drawn figure has the colour of the last panel that it belongs to.
-/

namespace DriveBench

namespace Image

variable {width height column row : Nat} {colour : Colour} {bytes pixels : ByteArray} {p : Pixel}

-- ---------------------------------------------------------------------------
-- Bytes
-- ---------------------------------------------------------------------------

theorem get!_set! {i : Nat} (h : i < bytes.size) (b : UInt8) (j : Nat) :
    (bytes.set! i b).get! j = if i = j then b else bytes.get! j := by
  obtain ⟨data⟩ := bytes
  replace h : i < data.size := h
  show (data.set! i b)[j]! = if i = j then b else data[j]!
  rw [Array.set!_eq_setIfInBounds]
  simp only [getElem!_def, Array.getElem?_setIfInBounds, if_pos h]
  by_cases hij : i = j
  · rw [if_pos hij, if_pos hij]
  · rw [if_neg hij, if_neg hij]

theorem get!_set!_three {i : Nat} (h : i + 2 < bytes.size) (colour : Colour) (j : Nat) :
    (((bytes.set! i colour.red).set! (i + 1) colour.green).set! (i + 2) colour.blue).get! j =
      if i + 2 = j then colour.blue else if i + 1 = j then colour.green
      else if i = j then colour.red else bytes.get! j := by
  rw [get!_set! (by simpa using h), get!_set! (by rw [ByteArray.size_set!]; omega), get!_set! (by omega)]

-- ---------------------------------------------------------------------------
-- Places
-- ---------------------------------------------------------------------------

theorem place_lt (hcolumn : column < width) (hrow : row < height) :
    row * width + column < width * height := by
  calc row * width + column < (row + 1) * width := by rw [Nat.succ_mul]; omega
    _ ≤ height * width := Nat.mul_le_mul_right _ hrow
    _ = width * height := Nat.mul_comm _ _

theorem place_div (hcolumn : column < width) : (row * width + column) / width = row := by
  rw [Nat.add_comm, Nat.add_mul_div_right _ _ (by omega), Nat.div_eq_of_lt hcolumn, Nat.zero_add]

theorem place_inj {c r : Nat} (hcolumn : column < width) (hc : c < width) :
    r * width + c = row * width + column ↔ c = column ∧ r = row := by
  constructor
  · intro h
    have hrow : r = row := (place_div hc).symm.trans (h ▸ place_div hcolumn)
    rw [hrow] at h
    exact ⟨Nat.add_left_cancel h, hrow⟩
  · rintro ⟨rfl, rfl⟩
    rfl

theorem offset?_eq_some {i : Nat} (h : offset? width height p = some i) :
    ∃ c r : Nat, p = (↑c, ↑r) ∧ c < width ∧ r < height ∧ i = (r * width + c) * 3 := by
  unfold offset? at h
  split at h
  · rename_i inside
    obtain ⟨left, right, top, bottom⟩ := inside
    have hp : p = (↑p.1.toNat, ↑p.2.toNat) :=
      Prod.ext (Int.toNat_of_nonneg left).symm (Int.toNat_of_nonneg top).symm
    exact ⟨_, _, hp, by omega, by omega, (Option.some.inj h).symm⟩
  · cases h

-- ---------------------------------------------------------------------------
-- Painting
-- ---------------------------------------------------------------------------

def seen (width : Nat) (pixels : ByteArray) (column row : Nat) : Colour :=
  let i := (row * width + column) * 3
  ⟨pixels.get! i, pixels.get! (i + 1), pixels.get! (i + 2)⟩

theorem seen_paint (hsize : pixels.size = width * height * 3) (hcolumn : column < width)
    (hrow : row < height) : seen width (paint width height colour pixels p) column row =
      if p = (↑column, ↑row) then colour else seen width pixels column row := by
  unfold paint
  split
  · rename_i outside
    rw [if_neg]
    rintro rfl
    simp [offset?, hcolumn, hrow] at outside
  · rename_i i inside
    obtain ⟨c, r, rfl, hc, hr, rfl⟩ := offset?_eq_some inside
    have hplace := place_lt hc hr
    have room : (r * width + c) * 3 + 2 < pixels.size := by omega
    have same : ((c : Int), (r : Int)) = (↑column, ↑row) ↔ r * width + c = row * width + column := by
      rw [place_inj hcolumn hc, Prod.mk.injEq, Int.natCast_inj, Int.natCast_inj]
    simp only [seen, get!_set!_three room, same]
    generalize r * width + c = m
    generalize row * width + column = n
    by_cases h : m = n
    · simp [h]
    · simp (disch := omega) only [if_neg]

theorem seen_blank (hcolumn : column < width) (hrow : row < height) :
    seen width (blank width height) column row = Colour.white := by
  have hplace := place_lt hcolumn hrow
  have white : ∀ i < width * height * 3, (blank width height).get! i = 255 := by
    intro i hi
    show (Array.replicate (width * height * 3) (255 : UInt8))[i]! = 255
    simp [hi]
  simp only [seen]
  rw [white _ (by omega), white _ (by omega), white _ (by omega), Colour.white]

theorem seen_foldl_paint (hsize : pixels.size = width * height * 3) (hcolumn : column < width)
    (hrow : row < height) (marks : List Pixel) :
    seen width (marks.foldl (paint width height colour) pixels) column row =
      if (↑column, ↑row) ∈ marks then colour else seen width pixels column row := by
  induction marks generalizing pixels with
  | nil => simp
  | cons p marks ih =>
    rw [List.foldl_cons, ih (by rwa [size_paint]), seen_paint hsize hcolumn hrow]
    by_cases again : ((column : Int), (row : Int)) ∈ marks
    · rw [if_pos again, if_pos (List.mem_cons_of_mem p again)]
    · simp only [again, if_false, List.mem_cons, or_false, eq_comm (a := p)]

end Image

namespace Figure

variable {figure : Figure} {recording : Recording} {width height column row : Nat}
  {pixels : ByteArray} {pixel : Pixel} {panels : List Panel} {colour : Colour}

def covered (panels : List Panel) (pixel : Pixel) (colour : Colour) : Colour :=
  panels.foldl (fun colour panel => if pixel ∈ panel.pixels then panel.colour else colour) colour

theorem seen_foldl_panels (hsize : pixels.size = width * height * 3) (hcolumn : column < width)
    (hrow : row < height) (panels : List Panel) :
    Image.seen width (panels.foldl (fun pixels panel =>
      panel.pixels.foldl (Image.paint width height panel.colour) pixels) pixels) column row =
        covered panels (↑column, ↑row) (Image.seen width pixels column row) := by
  induction panels generalizing pixels with
  | nil => rfl
  | cons panel panels ih =>
    rw [List.foldl_cons, ih (by rwa [size_foldl_paint]), Image.seen_foldl_paint hsize hcolumn hrow]
    rfl

theorem covered_eq_self (same : ∀ panel ∈ panels, pixel ∈ panel.pixels → panel.colour = colour) :
    covered panels pixel colour = colour := by
  induction panels with
  | nil => rfl
  | cons panel panels ih =>
    have next : (if pixel ∈ panel.pixels then panel.colour else colour) = colour := by
      split
      · exact same panel List.mem_cons_self ‹_›
      · rfl
    show covered panels pixel (if pixel ∈ panel.pixels then panel.colour else colour) = colour
    rw [next]
    exact ih fun other hother => same other (List.mem_cons_of_mem _ hother)

theorem covered_of_mem {panel : Panel} (hpanel : panel ∈ panels) (hpixel : pixel ∈ panel.pixels)
    (same : ∀ other ∈ panels, pixel ∈ other.pixels → other.colour = panel.colour) :
    covered panels pixel colour = panel.colour := by
  obtain ⟨front, back, rfl⟩ := List.append_of_mem hpanel
  rw [covered, List.foldl_append, List.foldl_cons, if_pos hpixel]
  exact covered_eq_self fun other hother =>
    same other (List.mem_append_right _ (List.mem_cons_of_mem _ hother))

/-- A pixel has the colour of the last panel that it belongs to. -/
theorem colourAt_draw {image : Image}
    (h : Image.ofPixels? width height (figure.draw recording width height) = some image)
    (hcolumn : column < width) (hrow : row < height) : image.colourAt column row =
      covered (figure.panels recording width height) (↑column, ↑row) Colour.white := by
  rw [Image.ofPixels?_of_size (figure.size_draw recording width height)] at h
  obtain rfl := Option.some.inj h
  show Image.seen width (figure.draw recording width height) column row = _
  rw [draw, seen_foldl_panels (Image.size_blank width height) hcolumn hrow,
    Image.seen_blank hcolumn hrow]

end Figure

end DriveBench
