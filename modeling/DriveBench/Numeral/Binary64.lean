/-!
# Doubles as exact numbers

A finite double is `± mantissa · 2 ^ exponent` with a natural mantissa. The
floor and the remainder of a truncated division are computed exactly on that
form; `wrapInto` is the one function here that rounds.
-/

namespace DriveBench.Binary64

open Float.Model (UnpackedFloat)

abbrev unpack (x : Float) : UnpackedFloat := x.toModel.unpack

abbrev pack (x : UnpackedFloat) : Float := .ofModel (.pack x)

def nan : Float := pack .notANumber

def floor? (x : Float) : Option Int :=
  match unpack x with
  | .zero _ => some 0
  | .finite sign mantissa exponent _ =>
    let signed := sign.apply mantissa
    some (if 0 ≤ exponent then signed * Int.ofNat (.pow 2 exponent.toNat)
      else signed / Int.ofNat (.pow 2 (-exponent).toNat))
  | .infinity _ | .notANumber => none

def ceil? (x : Float) : Option Int := (floor? (-x)).map (- ·)

/-- What is left of `x` after taking away the multiple of `y` that truncated
division finds. It has the sign of `x` and less than the magnitude of `y`. -/
def remainder (x y : Float) : Float :=
  match unpack x, unpack y with
  | .finite sign m e _, .finite _ n f _ =>
    let least := min e f
    let left := m * Nat.pow 2 (e - least).toNat % (n * Nat.pow 2 (f - least).toNat)
    pack (if left = 0 then .zero sign else .round .binary64 sign left least)
  | .zero _, .finite .. | .zero _, .infinity _ | .finite .., .infinity _ => x
  | _, _ => nan

/-- `x` brought into the period from zero to `modulus`. The sum for a negative
remainder is rounded, so a tiny one gives `modulus` itself. -/
def wrapInto (modulus x : Float) : Float :=
  let left := remainder x modulus
  if left < 0 then left + modulus.abs else left

def pi : Float := .ofBits 0x400921FB54442D18

end DriveBench.Binary64
