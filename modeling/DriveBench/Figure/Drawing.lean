import DriveBench.Figure
import DriveBench.Figure.Layout
import DriveBench.Figure.Trace
import DriveBench.Image

/-!
# Drawing figures

First the pixels of every line are found, then they are painted on white. The x
axis is common to all panels. Text and grid lines leave no pixels.
-/

namespace DriveBench

namespace Line

def between (a b : Int) : List Int := (List.range ((b - a).natAbs + 1)).map fun (k : Nat) => min a b + k

def interpolate (t₀ u₀ t₁ u₁ t : Int) : Int :=
  u₀ + (2 * (t - t₀) * (u₁ - u₀) + (t₁ - t₀)) / (2 * (t₁ - t₀))

/-- The pixels of a line, both ends included. One that is neither upright nor
level has one pixel for each column or row, whichever are more. -/
def pixels (p q : Pixel) : List Pixel :=
  if p.1 = q.1 then (between p.2 q.2).map (p.1, ·)
  else if p.2 = q.2 then (between p.1 q.1).map (·, p.2)
  else if (q.2 - p.2).natAbs ≤ (q.1 - p.1).natAbs then
    (between p.1 q.1).map fun x => (x, interpolate p.1 p.2 q.1 q.2 x)
  else (between p.2 q.2).map fun y => (interpolate p.2 p.1 q.2 q.1 y, y)

def through (points : List Pixel) : List Pixel :=
  (points.zip points.tail).flatMap fun (p, q) => pixels p q

end Line

structure Panel where
  xAxis : Axis
  yAxis : Axis
  columns : Span
  rows : Span
  trace : Trace
  colour : Colour

namespace Panel

/-- The pixel of a point of the trace, in the box in any case. -/
def place (panel : Panel) (p : Point) : Pixel :=
  (panel.columns.keep (panel.columns.rightward.pixel panel.xAxis p.1),
    panel.rows.keep (panel.rows.upward.pixel panel.yAxis p.2))

def pixels (panel : Panel) : List Pixel :=
  panel.trace.flatMap fun run => Line.through (run.map panel.place)

end Panel

namespace Figure

def room : Float := 0.1

/-- The number of panels that the figure has room for, one even without fields. -/
def panelCount (figure : Figure) : Nat := max figure.fields.length 1

def panel (figure : Figure) (recording : Recording) (width height : Nat) (i : Nat) (field : String)
    (colour : Colour) : Panel :=
  let y := recording.series field
  { xAxis := Axis.around (Axis.hull figure.x) 0
    yAxis := Axis.around (Axis.hull y) room
    columns := Layout.columns width
    rows := Layout.rows height figure.panelCount i
    trace := Trace.ofSeries figure.x y
    colour := colour }

def panels (figure : Figure) (recording : Recording) (width height : Nat) : List Panel :=
  (figure.fields.zip (Palette.colours figure.panelCount)).mapIdx fun i (field, colour) =>
    figure.panel recording width height i field colour

def draw (figure : Figure) (recording : Recording) (width height : Nat) : ByteArray :=
  (figure.panels recording width height).foldl (fun pixels panel =>
    panel.pixels.foldl (Image.paint width height panel.colour) pixels) (Image.blank width height)

theorem size_foldl_paint (width height : Nat) (colour : Colour) (marks : List Pixel)
    (pixels : ByteArray) :
    (marks.foldl (Image.paint width height colour) pixels).size = pixels.size := by
  induction marks generalizing pixels with
  | nil => rfl
  | cons p marks ih => simp [ih]

theorem size_foldl_panels (width height : Nat) (panels : List Panel) (pixels : ByteArray) :
    (panels.foldl (fun pixels panel =>
      panel.pixels.foldl (Image.paint width height panel.colour) pixels) pixels).size =
        pixels.size := by
  induction panels generalizing pixels with
  | nil => rfl
  | cons panel panels ih => simp [ih, size_foldl_paint]

theorem size_draw (figure : Figure) (recording : Recording) (width height : Nat) :
    (figure.draw recording width height).size = width * height * 3 := by
  simp [draw, size_foldl_panels]

end Figure

end DriveBench
