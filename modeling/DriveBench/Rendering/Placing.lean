import DriveBench.Figure.Layout
import DriveBench.Rendering.Words

/-!
# Layouts in words

What draws a figure keeps every row and column in a word with a sign. As long as
all of it fits, panels and axis boxes are where the layout has them.

A figure lower than its title has rows to take away from its panels. Those are
counted down from `2 ^ 64`, so the share of a panel is a small number only if
the number of panels divides that.
-/

namespace DriveBench.Layout

open Rendering (Overflow signed signed?)

/-- What each panel has of some rows. -/
def share (rows : Int) (panels : Nat) : Int := signed (rows % UInt64.size / panels)

def leftover (rows : Int) (panels : Nat) : Int := rows % UInt64.size % panels

def panelTop? (bottom : Int) (panels i : Nat) : Except Overflow Int := do
  let rows ← signed? .difference (bottom - titleRows)
  let above ← signed? .product (signed i * share rows panels)
  let top ← signed? .sum (titleRows + above)
  signed? .sum (top + signed (min (i : Int) (leftover rows panels)))

/-- The axis box of a panel in one direction, with room for labels before or
behind it. The labels get what is left of the panel. -/
def box? (first after before behind : Int) : Except Overflow Span := do
  let low ← signed? .sum (first + margin)
  let high ← signed? .difference (after - margin)
  let length ← signed? .difference (high - low)
  let inner ← signed? .sum (before + low)
  let length ← signed? .sum (length + -behind)
  let outer ← signed? .sum (length + low)
  let box : Span := ⟨min inner high, max low outer⟩
  let _ ← signed? .difference (box.first - min low outer)
  let _ ← signed? .difference (box.after - box.first)
  let _ ← signed? .difference (max inner high - box.after)
  return box

/-- Columns and rows of the axis boxes. Without a field there is a panel, but no
box in it. -/
def boxes? (width height fields : Nat) : Except Overflow (List (Span × Span)) := do
  let right := signed width
  let bottom := signed height
  -- the background goes as far as the last column and the last row
  let _ ← signed? .difference (right - 1)
  let _ ← signed? .difference (bottom - 1)
  let panels := max fields 1
  let edges ← (List.range panels).mapM fun i => do
    return (i, ← panelTop? bottom panels i, ← panelTop? bottom panels (i + 1))
  (edges.take fields).mapM fun (i, top, after) => do
    return (← box? 0 right labelColumns 0, ← box? top after 0 (labelRows panels i))

end DriveBench.Layout
