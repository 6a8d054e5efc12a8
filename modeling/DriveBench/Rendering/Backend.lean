import DriveBench.Figure
import DriveBench.Rendering.Failure
import DriveBench.Rendering.Words
import DriveBench.Storage.Change

/-!
# Backends and renderers

A backend makes image files of figures. It sees the files, and what it did to
them before a failure stays. An overflow is no failure of a figure: it ends
everything, and there is nothing to say of the files. A renderer has a backend,
or the reason why there is none.
-/

namespace DriveBench.Rendering

structure Rendered (σ : Type) where
  result : Except Failure Unit
  state : σ
  files : Filesystem

structure Backend (σ : Type) where
  name : String
  render : Recording → Figure → (output : String) → σ → Filesystem → Except Overflow (Rendered σ)

inductive Renderer (σ : Type)
  | ready (backend : Backend σ)
  | unavailable (reason hint : String)

def fontHint : String :=
  "To enable plotting, install a TrueType font, e.g.:\n  sudo apt update && sudo apt install -y fonts-dejavu-core"

namespace Renderer

/-- The renderer for what the search for a backend found. Any failure of the
search leaves it without a backend. -/
def ofProbe : Except Failure (Backend σ) → Renderer σ
  | .ok backend => .ready backend
  | .error (.unavailable reason hint) => .unavailable reason hint
  | .error failure => .unavailable failure.message fontHint

def render (renderer : Renderer σ) (recording : Recording) (figure : Figure) (output : String)
    (state : σ) (files : Filesystem) : Except Overflow (Rendered σ) :=
  match renderer with
  | .ready backend => backend.render recording figure output state files
  | .unavailable reason hint => .ok ⟨.error (.unavailable reason hint), state, files⟩

end Renderer

end DriveBench.Rendering
