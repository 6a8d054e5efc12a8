/-!
# Blanks around a text

Two notions of blank: five ASCII bytes, for text not yet decoded, and the
characters with Unicode's White_Space property. The vertical tab is blank as a
character only.
-/

namespace DriveBench

def trimEnds (blank : α → Bool) (items : List α) : List α :=
  ((items.dropWhile blank).reverse.dropWhile blank).reverse

theorem trimEnds_of_ends (blank : α → Bool) (items : List α)
    (first : ∀ a, items.head? = some a → blank a = false)
    (last : ∀ a, items.getLast? = some a → blank a = false) : trimEnds blank items = items := by
  have keep : ∀ l : List α, (∀ a, l.head? = some a → blank a = false) → l.dropWhile blank = l := by
    intro l h
    cases l with
    | nil => rfl
    | cons a l => simp [h a rfl]
  unfold trimEnds
  rw [keep items first, keep items.reverse (by simpa using last), List.reverse_reverse]

namespace Blank

def isByte (b : UInt8) : Bool := b == 9 || b == 10 || b == 12 || b == 13 || b == 32

/-- The code points with the White_Space property, as closed ranges. -/
def ranges : List (Nat × Nat) :=
  [(0x09, 0x0D), (0x20, 0x20), (0x85, 0x85), (0xA0, 0xA0), (0x1680, 0x1680), (0x2000, 0x200A),
    (0x2028, 0x2029), (0x202F, 0x202F), (0x205F, 0x205F), (0x3000, 0x3000)]

def isChar (c : Char) : Bool := ranges.any fun r => r.1 ≤ c.toNat && c.toNat ≤ r.2

end Blank

def trimText (text : String) : String := String.ofList (trimEnds Blank.isChar text.toList)

def trimBytes (bytes : List UInt8) : List UInt8 := trimEnds Blank.isByte bytes

end DriveBench
