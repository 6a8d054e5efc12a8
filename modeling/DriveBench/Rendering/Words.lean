/-!
# Arithmetic on words

Sizes of images are words of 32 bits, and the places on them are such words with
a sign. A result that does not fit into one ends everything.
-/

namespace DriveBench.Rendering

inductive Overflow
  | sum
  | difference
  | product
  deriving DecidableEq, Repr

def Overflow.message : Overflow → String
  | sum => "attempt to add with overflow"
  | difference => "attempt to subtract with overflow"
  | product => "attempt to multiply with overflow"

def mul? (a b : UInt32) : Except Overflow UInt32 :=
  if a.toNat * b.toNat < UInt32.size then .ok (a * b) else .error .product

/-- What the lowest 32 bits of an integer say when one of them is a sign. -/
def signed (n : Int) : Int := n.bmod UInt32.size

def signed? (overflow : Overflow) (n : Int) : Except Overflow Int :=
  if signed n = n then .ok n else .error overflow

end DriveBench.Rendering
