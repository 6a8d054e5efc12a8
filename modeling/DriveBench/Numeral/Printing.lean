import DriveBench.Numeral.Shortest

/-!
# Writing a number

The shortest decimal, positional where the point falls near the first digit,
with `e` otherwise. A positional number always has a point with a digit on both
sides.
-/

namespace DriveBench.Numeral

/-- Where positional notation begins and ends: the number of digits before the
point is above `least` and at most `greatest`. -/
structure Style where
  least : Int
  greatest : Int

def recordStyle : Style := ⟨-5, 16⟩

def zeros (count : Nat) : String := String.ofList (List.replicate count '0')

def Style.render (style : Style) (d : Decimal) : String :=
  let digits := toString d.digits
  let point : Int := digits.length + d.exponent
  let split (count : Nat) : String :=
    String.ofList (digits.toList.take count) ++ "." ++ String.ofList (digits.toList.drop count)
  if 0 ≤ d.exponent ∧ point ≤ style.greatest then digits ++ zeros d.exponent.toNat ++ ".0"
  else if 0 < point ∧ point ≤ style.greatest then split point.toNat
  else if style.least < point ∧ point ≤ 0 then "0." ++ zeros (-point).toNat ++ digits
  else (if digits.length = 1 then digits else split 1) ++ "e" ++ toString (point - 1)

def print (x : Float) : String :=
  let signed (sign : Float.Model.UnpackedFloat.Sign) (text : String) :=
    if sign == .negative then "-" ++ text else text
  match Binary64.unpack x with
  | .notANumber => "NaN"
  | .infinity sign => signed sign "inf"
  | .zero sign => signed sign "0.0"
  | .finite sign mantissa exponent _ =>
    signed sign (recordStyle.render (shortest mantissa exponent))

end DriveBench.Numeral
