import DriveBench.Numeral.Binary64

/-!
# Reading a number

The grammar of a cell: an optional sign, then one of the words `inf`, `infinity`
and `nan` in any case, or decimal digits with an optional point and an optional
power of ten. The double read is the one nearest to the decimal, ties to even.
-/

namespace DriveBench.Numeral

def digitsValue (digits : List Char) : Nat :=
  digits.foldl (fun n c => 10 * n + (c.toNat - '0'.toNat)) 0

/-- An exponent that has come this far takes no further digits. A text with
fewer digits than this cannot make up for it: its number is zero or infinite
either way. -/
def exponentLimit : Nat := 65536

def exponentValue (digits : List Char) : Nat :=
  digits.foldl (fun n c => if n < exponentLimit then 10 * n + (c.toNat - '0'.toNat) else n) 0

def takeSign : List Char → Bool × List Char
  | '-' :: rest => (true, rest)
  | '+' :: rest => (false, rest)
  | text => (false, text)

def exponent? : List Char → Option Int
  | [] => some 0
  | mark :: rest =>
    let (negative, digits) := takeSign rest
    if (mark == 'e' || mark == 'E') && !digits.isEmpty && digits.all Char.isDigit then
      some (if negative then -(exponentValue digits) else exponentValue digits)
    else none

def ofDecimal (digits : Nat) (exponent : Int) : Float :=
  OfScientific.ofScientific digits (exponent < 0) exponent.natAbs

def decimal? (text : List Char) : Option Float :=
  let whole := text.takeWhile Char.isDigit
  let rest := text.dropWhile Char.isDigit
  let (fraction, rest) := match rest with
    | '.' :: rest => (rest.takeWhile Char.isDigit, rest.dropWhile Char.isDigit)
    | rest => ([], rest)
  if whole.isEmpty && fraction.isEmpty then none
  else (exponent? rest).map fun e => ofDecimal (digitsValue (whole ++ fraction)) (e - fraction.length)

def unsigned? (text : List Char) : Option Float :=
  let word := text.map Char.toLower
  if word = "inf".toList ∨ word = "infinity".toList then some (Binary64.pack (.infinity .positive))
  else if word = "nan".toList then some Binary64.nan
  else decimal? text

def parse? (text : String) : Option Float :=
  let (negative, rest) := takeSign text.toList
  (unsigned? rest).map fun x => if negative then -x else x

theorem parse?_empty : parse? "" = none := by decide

end DriveBench.Numeral
