/-!
# Traces

A trace is what is drawn of a series over another: lines between neighbouring
points as long as both coordinates are finite.
-/

namespace DriveBench

abbrev Point := Float × Float

namespace Point

def isFinite (p : Point) : Bool := p.1.isFinite && p.2.isFinite

end Point

/-- The maximal runs of finite points, none of them empty. -/
abbrev Trace := List (List Point)

namespace Trace

def extend (current : List Point) : List Point → Trace
  | [] => if current.isEmpty then [] else [current.reverse]
  | p :: rest =>
    if p.isFinite then extend (p :: current) rest
    else if current.isEmpty then extend [] rest
    else current.reverse :: extend [] rest

def ofPoints (points : List Point) : Trace := extend [] points

def ofSeries (x y : List Float) : Trace := ofPoints (x.zip y)

/-- Whether anything is drawn: a single point leaves no line. -/
def isDrawn (t : Trace) : Bool := t.any fun run => 2 ≤ run.length

def isAxisParallel (t : Trace) : Bool :=
  t.all fun run => (run.zip run.tail).all fun (p, q) => p.1 == q.1 || p.2 == q.2 && p.1 < q.1

end Trace

end DriveBench
