import DriveBench.Image.Png
import DriveBench.Storage.Fault

/-!
# Failures to render

Why a figure has no image. One cause is no matter of the figure: where nothing
can be rendered at all, the next figure need not be tried.
-/

namespace DriveBench.Rendering

inductive SaveCause
  | storage (fault : Fault)
  | shape (defect : Png.Defect)
  deriving DecidableEq, Repr

namespace SaveCause

def message : SaveCause → String
  | storage fault => fault.message
  | shape .zeroWidth => "Zero width not allowed"
  | shape .zeroHeight => "Zero height not allowed"

end SaveCause

inductive Failure
  | unavailable (reason hint : String)
  | drawing (message : String)
  | making (path : String) (fault : Fault)
  | saving (path : String) (cause : SaveCause)
  deriving DecidableEq, Repr

namespace Failure

def message : Failure → String
  | unavailable reason _ => s!"plotting unavailable: {reason}"
  | drawing message => s!"drawing failed: {message}"
  | making path fault => s!"cannot create {path}: {fault.message}"
  | saving path cause => s!"cannot write {path}: {cause.message}"

def origin? : Failure → Option String
  | making _ fault => some fault.message
  | saving _ cause => some cause.message
  | unavailable .. | drawing _ => none

/-- Whether the failure is of all figures and not of one. -/
def isFatal : Failure → Bool
  | unavailable .. => true
  | _ => false

def hint? : Failure → Option String
  | unavailable _ hint => some hint
  | _ => none

theorem isFatal_iff {failure : Failure} :
    failure.isFatal = true ↔ ∃ reason hint, failure = unavailable reason hint := by
  cases failure <;> simp [isFatal]

end Failure

end DriveBench.Rendering
