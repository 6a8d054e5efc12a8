import DriveBench.Proofs.Rendering.Placing
import DriveBench.Proofs.Rendering.Sizes
import DriveBench.Proofs.Report.Accounting
import DriveBench.Proofs.Report.Requests
import DriveBench.Rendering.Raster

/-!
# Runs within a budget of pixels

How many panels a figure has is limited by the settings alone. If an image with
that many panels has a size that fits into 32 bits, two things are left that can
break a run off: a figure lower than its title, and one without pixels that has
more of something than a word can count.
-/

namespace DriveBench

namespace Rendering

-- ---------------------------------------------------------------------------
-- Sizes that fit
-- ---------------------------------------------------------------------------

namespace Raster

variable {raster : Raster} {recording : Recording} {figure : Figure} {output : String}
  {files : Filesystem}

def image (raster : Raster) (recording : Recording) (figure : Figure) : Image where
  width := raster.width.toNat
  height := raster.panelHeight.toNat * figure.panelCount
  pixels := figure.draw recording _ _
  size_pixels := figure.size_draw recording _ _

end Raster

end Rendering

namespace Report

open Rendering (Backend Job Overflow Raster Rendered Renderer)

variable {σ : Type} {settings : Settings} {files : Filesystem} {path : String} {recording : Recording}

def Settings.raster (settings : Settings) : Raster := ⟨settings.panelWidth, settings.panelHeight⟩

end Report

end DriveBench
