/-!
# Axes

The range of an axis comes from the finite values alone: their hull with some
room added, widened by half a unit to either side where that is too narrow to
draw.
-/

namespace DriveBench

structure Axis where
  low : Float
  high : Float
  deriving DecidableEq

namespace Axis

def widen (hull : Option Axis) (value : Float) : Option Axis :=
  if value.isFinite then
    match hull with
    | none => some ⟨value, value⟩
    | some a => some ⟨if a.low < value then a.low else value, if value < a.high then a.high else value⟩
  else hull

/-- From the least to the greatest finite value. Of equal ones the last counts,
which shows only in the sign of a zero. -/
def hull (values : List Float) : Option Axis := values.foldl widen none

def narrow : Float := 1e-12

/-- The axis for a hull, with the fraction `room` of its span added at both
ends. Without values it runs from -1 to 1. -/
def around (hull : Option Axis) (room : Float) : Axis :=
  match hull with
  | none => ⟨-1, 1⟩
  | some a =>
    let span := a.high - a.low
    if span.abs < narrow then ⟨a.low - 0.5, a.high + 0.5⟩
    else ⟨a.low - span * room, a.high + span * room⟩

end Axis

end DriveBench
