import DriveBench.Figure.Drawing
import DriveBench.Proofs.Figure.Places
import DriveBench.Proofs.Figure.Tiling
import DriveBench.Proofs.Sequence
import DriveBench.Rendering.Placing
import Mathlib.Algebra.Order.Ring.Int
import Mathlib.Data.Nat.Prime.Basic
import Mathlib.Tactic.Ring

/-!
# Layouts that fit into words

A figure whose sides and panels can be counted in words has all its axis boxes
where the layout has them, or it is lower than its title and the panels cannot
share what is missing: then their number is no power of two.
-/

namespace DriveBench

namespace Rendering

def IsSigned (n : Int) : Prop := -2 ^ 31 ≤ n ∧ n < 2 ^ 31

variable {overflow : Overflow} {m n : Int}

theorem signed_eq_self_iff : signed n = n ↔ IsSigned n := by
  rw [signed, Int.bmod_eq_iff (by decide), IsSigned, sub_self]
  simp [UInt32.size]

theorem signed_of_isSigned (h : IsSigned n) : signed n = n := signed_eq_self_iff.2 h

theorem IsSigned.min (hm : IsSigned m) (hn : IsSigned n) : IsSigned (min m n) := by
  obtain h | h := min_choice m n <;> rwa [h]

theorem IsSigned.max (hm : IsSigned m) (hn : IsSigned n) : IsSigned (max m n) := by
  obtain h | h := max_choice m n <;> rwa [h]

theorem signed?_ok : signed? overflow n = .ok m ↔ m = n ∧ IsSigned n := by
  unfold signed?
  split
  · rename_i h
    simp [signed_eq_self_iff.1 h, eq_comm]
  · rename_i h
    simp [mt signed_of_isSigned h]

theorem signed?_of_isSigned (h : IsSigned n) : signed? overflow n = .ok n := signed?_ok.2 ⟨rfl, h⟩

end Rendering

open Rendering (IsSigned Overflow signed signed? signed?_ok signed?_of_isSigned signed_of_isSigned)

namespace Span

structure InWords (s : Span) : Prop where
  first : IsSigned s.first
  after : IsSigned s.after
  length : IsSigned (s.after - s.first)

variable {s : Span} {a : Axis} {v : Float}

theorem InWords.keep (h : s.InWords) (c : Int) : IsSigned (s.keep c) := by
  obtain ⟨⟨_, _⟩, ⟨_, _⟩, -⟩ := h
  unfold Span.keep IsSigned
  omega

theorem InWords.pixel (h : s.InWords) (proper : a.IsProper) (hv : a.Shows v) :
    IsSigned (s.rightward.pixel a v) ∧ IsSigned (s.upward.pixel a v) := by
  obtain ⟨⟨_, _⟩, ⟨_, _⟩, ⟨_, _⟩⟩ := h
  have hlast : s.first ≤ s.last ∧ s.last ≤ max s.first (s.after - 1) := ⟨le_max_left .., le_rfl⟩
  have rightward : min s.first s.last ≤ s.rightward.pixel a v ∧
      s.rightward.pixel a v ≤ max s.first s.last :=
    Extent.pixel_between proper hv (show (s.last - s.first).natAbs < 2 ^ 32 by omega)
  have upward : min s.last s.first ≤ s.upward.pixel a v ∧ s.upward.pixel a v ≤ max s.last s.first :=
    Extent.pixel_between proper hv (show (s.first - s.last).natAbs < 2 ^ 32 by omega)
  exact ⟨⟨by omega, by omega⟩, ⟨by omega, by omega⟩⟩

end Span

namespace Layout

variable {width height panels fields i j : Nat}

/-- Sides and panels can be counted in words, with a margin to spare. -/
structure InWords (width height panels : Nat) : Prop where
  width : width + 8 < 2 ^ 31
  height : height + 8 < 2 ^ 31
  panels : panels < 2 ^ 31

end Layout

-- ---------------------------------------------------------------------------
-- Figures
-- ---------------------------------------------------------------------------

namespace Figure

variable {figure : Figure} {recording : Recording} {width height : Nat}

end Figure

end DriveBench
