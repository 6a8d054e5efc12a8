import DriveBench.Rendering.Backend

/-!
# A scripted backend

A backend that draws nothing, for trying out what is around it. It follows a
list of outcomes: a failure is answered without touching any file; otherwise,
and when the list has ended, it writes three letters to the output.
-/

namespace DriveBench.Rendering

structure Call where
  figure : Figure
  output : String
  series : List (List Float)

/-- The requests so far, the latest last, and what is to come. -/
structure Script where
  calls : List Call
  outcomes : List (Except Failure Unit)

namespace Script

def ofOutcomes (outcomes : List (Except Failure Unit)) : Script := ⟨[], outcomes⟩

def placeholder : ByteArray := "png".toUTF8

def backend : Backend Script where
  name := "scripted"
  render recording figure output script files :=
    let state : Script :=
      ⟨script.calls ++ [⟨figure, output, figure.fields.map recording.series⟩], script.outcomes.tail⟩
    match script.outcomes.head? with
    | some (.error failure) => .ok ⟨.error failure, state, files⟩
    | _ => match files.writeFile output placeholder with
      | .error fault => .ok ⟨.error (.making output fault), state, files⟩
      | .ok files => .ok ⟨.ok (), state, files⟩

end Script

end DriveBench.Rendering
