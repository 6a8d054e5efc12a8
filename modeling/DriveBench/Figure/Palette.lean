/-!
# Panel colours

The lines of a figure have evenly spaced hues, beginning with blue. All
arithmetic is in single precision, in the order written, and a channel is cut,
not rounded, to eight bits.
-/

namespace DriveBench

structure Colour where
  red : UInt8
  green : UInt8
  blue : UInt8
  deriving DecidableEq, Repr

namespace Colour

def white : Colour := ⟨255, 255, 255⟩

def channel (v : Float32) : UInt8 :=
  ((if v < 0 then 0 else if 1 < v then 1 else v) * 255).toUInt8

/-- The colour of a hue of 0 to 360 degrees. The hue picks one of six sectors,
in which one channel is full, one empty, and one rises or falls. -/
def ofHue (hue saturation lightness : Float32) : Colour :=
  let chroma := (1 - (lightness * 2 - 1).abs) * saturation
  let sector := hue / 60
  let inPair := sector - (sector * 0.5).toUInt8.toFloat32 * 2
  let partly := chroma * (1 - (inPair - 1).abs)
  let base := lightness - chroma * 0.5
  let colour (r g b : Float32) : Colour := ⟨channel (r + base), channel (g + base), channel (b + base)⟩
  match sector.toUInt8 with
  | 0 => colour chroma partly 0
  | 1 => colour partly chroma 0
  | 2 => colour 0 chroma partly
  | 3 => colour 0 partly chroma
  | 4 => colour partly 0 chroma
  | _ => colour chroma 0 partly

end Colour

namespace Palette

def hue (i count : Nat) : Float32 :=
  let turned := 210 + Float32.ofNat i / Float32.ofNat count * 360
  if 360 ≤ turned then turned - 360 else turned

def colour (i count : Nat) : Colour := Colour.ofHue (hue i count) 0.70 0.42

def colours (count : Nat) : List Colour := (List.range count).map (colour · count)

end Palette

end DriveBench
