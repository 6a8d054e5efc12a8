import DriveBench.Recording

/-!
# Figures

What is drawn of a recording: one panel per field, over a common x axis. The
values of the fields stay in the recording.
-/

namespace DriveBench

structure Figure where
  title : String
  /-- One panel each, from the top. -/
  fields : List String
  x : List Float
  xLabel : String

namespace Figure

def ofRecording (r : Recording) (fields : List String) (timeColumn xLabel : String) : Figure where
  title := r.title
  fields := fields
  x := r.series timeColumn
  xLabel := xLabel

end Figure

end DriveBench
