import DriveBench.Numeral.Binary64

/-!
# The shortest decimal of a double

Among the decimals that read back as a given finite double, those with the
fewest digits, and of these the nearest; a tie goes to the even last digit. All
comparisons are exact, on natural numbers with one common denominator.
-/

namespace DriveBench.Numeral

structure Decimal where
  digits : Nat
  exponent : Int
  deriving DecidableEq, Repr

/-- The reals that read back as one double: `low / scale` to `high / scale`
around `value / scale`. -/
structure Basin where
  low : Nat
  value : Nat
  high : Nat
  scale : Nat
  closed : Bool

namespace Basin

/-- The basin of `mantissa · 2 ^ exponent`. The gap below the least mantissa of
a binade is half the gap above, except where doubles stop getting finer. -/
def ofBinary (mantissa : Nat) (exponent : Int) : Basin :=
  let lower := if mantissa = 0x10000000000000 ∧ exponent ≠ -1074 then 1 else 2
  let up := Nat.pow 2 (exponent - 2).toNat
  { low := (4 * mantissa - lower) * up
    value := 4 * mantissa * up
    high := (4 * mantissa + 2) * up
    scale := Nat.pow 2 (2 - exponent).toNat
    closed := mantissa % 2 = 0 }

def holds (b : Basin) (grid unit digits : Nat) : Bool :=
  let point := digits * grid * b.scale
  if b.closed then b.low * unit ≤ point && point ≤ b.high * unit
  else b.low * unit < point && point < b.high * unit

def decimalLength (n : Nat) : Nat := if n = 0 then 0 else (Nat.toDigits 10 n).length

def magnitude (b : Basin) : Int :=
  if b.scale ≤ b.value then decimalLength (b.value / b.scale)
  else 1 - (decimalLength ((b.scale + b.value - 1) / b.value - 1) : Int)

/-- The nearer of the two multiples of `10 ^ exponent` around the value, of
those that lie in the basin. -/
def nearest? (b : Basin) (exponent : Int) : Option Nat :=
  let grid := Nat.pow 10 exponent.toNat
  let unit := Nat.pow 10 (-exponent).toNat
  let below := b.value * unit / (grid * b.scale)
  let above := below + 1
  let twice := 2 * (b.value * unit)
  let middle := (below + above) * (grid * b.scale)
  let pick := if twice < middle ∨ (twice = middle ∧ below % 2 = 0) then below else above
  let other := if pick = below then above else below
  if b.holds grid unit pick then some pick
  else if b.holds grid unit other then some other else none

/-- The first of the grids with `count`, `count + 1`, … digits that has a
point in the basin, at most `fuel` of them. -/
def search (b : Basin) (magnitude : Int) : (fuel count : Nat) → Decimal
  | 0, count => ⟨(b.nearest? (magnitude - count)).getD 0, magnitude - count⟩
  | fuel + 1, count =>
    match b.nearest? (magnitude - count) with
    | some digits => ⟨digits, magnitude - count⟩
    | none => b.search magnitude fuel (count + 1)

end Basin

def Decimal.strip (d : Decimal) : (fuel : Nat) → Decimal
  | 0 => d
  | fuel + 1 => if d.digits ≠ 0 ∧ d.digits % 10 = 0 then
      Decimal.strip ⟨d.digits / 10, d.exponent + 1⟩ fuel
    else d

/-- The shortest decimal that reads back as `mantissa · 2 ^ exponent`, a
positive double in lowest exponent. Seventeen digits always suffice. -/
def shortest (mantissa : Nat) (exponent : Int) : Decimal :=
  let b := Basin.ofBinary mantissa exponent
  (b.search b.magnitude 16 1).strip 17

end DriveBench.Numeral
