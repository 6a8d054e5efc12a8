import DriveBench.Figure.Axis
import DriveBench.Numeral.Binary64

/-!
# Layout of a figure

Rows and columns of pixels, from the top left corner. The title takes the first
rows; the panels share the rest as evenly as whole rows allow.

The place of a value on an axis is rounded towards the start of the axis, where
shares that miss a pixel by less than a thousandth count as reaching it.
-/

namespace DriveBench

/-- Pixels of an axis, from the one where its low end is to that of its high
end. Upwards is towards lower rows. -/
structure Extent where
  start : Int
  stop : Int
  deriving DecidableEq, Repr

def Extent.whole (place : Option Int) : Int := place.getD 0

/-- The pixel of a value. An axis whose ends are equal has all values in one
place, which need not be on it. -/
def Extent.pixel (e : Extent) (axis : Axis) (value : Float) : Int :=
  if axis.high == axis.low then (e.stop - e.start).tdiv 2
  else
    let share := (value - axis.low) / (axis.high - axis.low)
    let length := e.stop - e.start
    if length = 0 then e.stop
    else if share.isInf then (if 0 < share then e.stop else e.start)
    else if 0 < length then e.start + whole (Binary64.floor? (Float.ofInt length * share + 1e-3))
    else e.start + whole (Binary64.ceil? (Float.ofInt length * share - 1e-3))

/-- Neighbouring rows or columns: the first, and the one after the last. -/
structure Span where
  first : Int
  after : Int
  deriving DecidableEq, Repr

namespace Span

def last (s : Span) : Int := max s.first (s.after - 1)

def rightward (s : Span) : Extent := ⟨s.first, s.last⟩

def upward (s : Span) : Extent := ⟨s.last, s.first⟩

/-- The nearest pixel of a span; the one after the last counts as one of it. -/
def keep (s : Span) (pixel : Int) : Int := max s.first (min s.after pixel)

theorem keep_of_mem (s : Span) (pixel : Int) (low : s.first ≤ pixel) (high : pixel ≤ s.after) :
    s.keep pixel = pixel := by
  unfold keep
  omega

end Span

namespace Layout

def titleRows : Nat := 27

/-- The first row of panel `i` of `panels`; for `i = panels`, the row after the
last. -/
def panelTop (height panels i : Nat) : Int :=
  let rows : Int := height - titleRows
  titleRows + i * (rows / panels) + min (i : Int) (rows % panels)

def margin : Int := 8

def labelColumns : Int := 64

def labelRows (panels i : Nat) : Int := if i + 1 = panels then 40 else 24

def columns (width : Nat) : Span :=
  let left := margin
  let right := width - margin
  ⟨min (left + labelColumns) right, max left right⟩

def rows (height panels i : Nat) : Span :=
  let top := panelTop height panels i + margin
  let bottom := panelTop height panels (i + 1) - margin
  ⟨min top bottom, max top (bottom - labelRows panels i)⟩

end Layout

end DriveBench
