import DriveBench.Figure.Palette

/-!
# Images

Three bytes for each pixel, row by row from the top. Painting outside the image
does nothing.
-/

namespace DriveBench

abbrev Pixel := Int × Int

structure Image where
  width : Nat
  height : Nat
  pixels : ByteArray
  size_pixels : pixels.size = width * height * 3

namespace Image

def ofPixels? (width height : Nat) (pixels : ByteArray) : Option Image :=
  if h : pixels.size = width * height * 3 then some ⟨width, height, pixels, h⟩ else none

theorem ofPixels?_of_size {width height : Nat} {pixels : ByteArray}
    (h : pixels.size = width * height * 3) :
    ofPixels? width height pixels = some ⟨width, height, pixels, h⟩ := dif_pos h

def blank (width height : Nat) : ByteArray := ⟨Array.replicate (width * height * 3) 255⟩

@[simp] theorem size_blank (width height : Nat) :
    (blank width height).size = width * height * 3 := by exact Array.size_replicate

def offset? (width height : Nat) (p : Pixel) : Option Nat :=
  if 0 ≤ p.1 ∧ p.1 < width ∧ 0 ≤ p.2 ∧ p.2 < height then
    some ((p.2.toNat * width + p.1.toNat) * 3)
  else none

def paint (width height : Nat) (colour : Colour) (pixels : ByteArray) (p : Pixel) : ByteArray :=
  match offset? width height p with
  | none => pixels
  | some i => ((pixels.set! i colour.red).set! (i + 1) colour.green).set! (i + 2) colour.blue

@[simp] theorem size_paint (width height : Nat) (colour : Colour) (pixels : ByteArray) (p : Pixel) :
    (paint width height colour pixels p).size = pixels.size := by
  unfold paint
  split <;> simp

def colourAt (image : Image) (column row : Nat) : Colour :=
  let i := (row * image.width + column) * 3
  ⟨image.pixels.get! i, image.pixels.get! (i + 1), image.pixels.get! (i + 2)⟩

/-- The least rectangle around some pixels and their number. -/
structure Area where
  left : Nat
  top : Nat
  right : Nat
  bottom : Nat
  count : Nat
  deriving DecidableEq, Repr

def Area.add (area : Option Area) (column row : Nat) : Option Area :=
  match area with
  | none => some ⟨column, row, column, row, 1⟩
  | some a =>
    some ⟨min a.left column, min a.top row, max a.right column, max a.bottom row, a.count + 1⟩

/-- Where exactly this colour is in the image. -/
def area? (image : Image) (colour : Colour) : Option Area :=
  (List.range image.height).foldl (fun area row =>
    (List.range image.width).foldl (fun area column =>
      if image.colourAt column row = colour then Area.add area column row else area) area) none

end Image

end DriveBench
