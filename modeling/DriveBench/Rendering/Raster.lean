import DriveBench.Figure.Drawing
import DriveBench.Rendering.Backend
import DriveBench.Rendering.Placing

/-!
# The raster backend

Draws figures on pixels, in panels of one size, and saves them as images. Only
the lowest 32 bits of the number of panels count. The file is opened first and
closed in any case, so an image without a file form still replaces what was
there.
-/

namespace DriveBench.Rendering

structure Raster where
  width : UInt32
  panelHeight : UInt32
  deriving DecidableEq, Repr

namespace Raster

def name : String := "plotters-bitmap"

/-- The size of an image of some panels. There is room for one if there is none. -/
def size? (raster : Raster) (panels : UInt64) : Except Overflow (UInt32 × UInt32) := do
  let height ← mul? raster.panelHeight (max panels 1).toUInt32
  return (raster.width, height)

def byteCount? (width height : UInt32) : Except Overflow UInt32 := do
  mul? (← mul? width height) 3

/-- An image put into a file. Without a file form it leaves the last chunk alone
there. -/
def save (image : Image) (output : String) (files : Filesystem) :
    Except Failure Unit × Filesystem :=
  let (bytes, saved) : ByteArray × Except Failure Unit := match Png.encode image with
    | .ok bytes => (bytes, .ok ())
    | .error defect => (Png.ending, .error (.saving output (.shape defect)))
  match files.writeFile output bytes with
  | .error fault => (.error (.saving output (.storage fault)), files)
  | .ok written => (saved, written)

def render (raster : Raster) (recording : Recording) (figure : Figure) (output : String)
    (files : Filesystem) : Except Overflow (Except Failure Unit × Filesystem) := do
  let (width, height) ← raster.size? (UInt64.ofNat figure.fields.length)
  let _ ← byteCount? width height
  let _ ← Layout.boxes? width.toNat height.toNat figure.fields.length
  match Image.ofPixels? width.toNat height.toNat (figure.draw recording width.toNat height.toNat) with
  | none => return (.error (.drawing s!"buffer does not match {width}x{height}"), files)
  | some image => return save image output files

def backend (raster : Raster) : Backend σ where
  name := name
  render recording figure output state files := do
    let (result, files) ← raster.render recording figure output files
    return ⟨result, state, files⟩

/-- The search for a raster backend. It needs a font for the labels, and there
is none. -/
def discover : Except Failure Raster :=
  .error (.unavailable "no TrueType font found for text rendering" fontHint)

end Raster

end DriveBench.Rendering
