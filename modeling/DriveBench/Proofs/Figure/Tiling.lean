import DriveBench.Figure.Layout
import Mathlib.Algebra.Order.Ring.Int

/-!
# How panels share the rows

The panels follow one another from the title to the lower edge of the figure,
and the heights of two differ by one row at most.
-/

namespace DriveBench.Layout

variable {height width panels i j : Nat}

def panelRows (height panels i : Nat) : Int :=
  panelTop height panels (i + 1) - panelTop height panels i

/-- The panels share all rows below the title, as evenly as can be. -/
structure Tiles (height panels : Nat) : Prop where
  first : panelTop height panels 0 = 27
  last : panelTop height panels panels = height
  ordered : ∀ i j, i ≤ j → panelTop height panels i ≤ panelTop height panels j
  even : ∀ i j, panelRows height panels i ≤ panelRows height panels j + 1

theorem panelRows_eq (height panels i : Nat) : panelRows height panels i =
    (height - titleRows : Int) / panels + if (i : Int) < (height - titleRows : Int) % panels then 1 else 0 := by
  unfold panelRows panelTop
  dsimp only
  push_cast
  rw [add_mul, one_mul]
  split <;> omega

theorem panelRows_le (height panels i j : Nat) :
    panelRows height panels i ≤ panelRows height panels j + 1 := by
  rw [panelRows_eq, panelRows_eq]
  split <;> split <;> omega

theorem panelRows_nonneg (tall : titleRows ≤ height) (i : Nat) : 0 ≤ panelRows height panels i := by
  have share : 0 ≤ (height - titleRows : Int) / panels := Int.ediv_nonneg (by omega) (by omega)
  rw [panelRows_eq]
  split <;> omega

theorem panelTop_mono (tall : titleRows ≤ height) (h : i ≤ j) :
    panelTop height panels i ≤ panelTop height panels j :=
  monotone_nat_of_le_succ (fun i => Int.sub_nonneg.1 (panelRows_nonneg tall i)) h

theorem panelTop_zero (nonempty : 1 ≤ panels) : panelTop height panels 0 = titleRows := by
  have left := Int.emod_nonneg (height - titleRows : Int) (show (panels : Int) ≠ 0 by omega)
  unfold panelTop
  dsimp only
  omega

theorem panelTop_panels (nonempty : 1 ≤ panels) : panelTop height panels panels = height := by
  have left := Int.emod_lt_of_pos (height - titleRows : Int) (show (0 : Int) < panels by omega)
  have whole := Int.mul_ediv_add_emod (height - titleRows : Int) panels
  unfold panelTop
  dsimp only
  omega

theorem tiles (tall : titleRows ≤ height) (nonempty : 1 ≤ panels) : Tiles height panels where
  first := panelTop_zero nonempty
  last := panelTop_panels nonempty
  ordered _ _ := panelTop_mono tall
  even := panelRows_le height panels

theorem Tiles.between (h : Tiles height panels) (hi : i < panels) :
    27 ≤ panelTop height panels i ∧ panelTop height panels (i + 1) ≤ height :=
  ⟨h.first ▸ h.ordered 0 i (Nat.zero_le i), h.last ▸ h.ordered (i + 1) panels hi⟩

-- ---------------------------------------------------------------------------
-- Axis boxes
-- ---------------------------------------------------------------------------

theorem columns_of_wide (wide : 82 ≤ width) : columns width = ⟨72, width - 8⟩ := by
  simp only [columns, margin, labelColumns, Span.mk.injEq]
  omega

theorem labelRows_le (panels i : Nat) : 0 ≤ labelRows panels i ∧ labelRows panels i ≤ 40 := by
  unfold labelRows
  split <;> omega

theorem rows_of_tall (tall : 58 ≤ panelRows height panels i) : rows height panels i =
    ⟨panelTop height panels i + 8, panelTop height panels (i + 1) - 8 - labelRows panels i⟩ := by
  have labels := labelRows_le panels i
  unfold panelRows at tall
  simp only [rows, margin, Span.mk.injEq]
  omega

end DriveBench.Layout
