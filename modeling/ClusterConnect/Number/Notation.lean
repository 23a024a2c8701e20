import ClusterConnect.Number.Numeral
import ClusterConnect.Number.Shortest

/-!
# The notation of numbers

How time limits and other numbers are written: with the fewest digits that identify them,
positionally when the leading digit stands between the fourth place after the point and the
sixteenth before it, otherwise with an exponent of at least two digits and a sign.

* `floatText`: the text of a double.
* `Numeral.toFloat`: the double nearest to what a numeral says.
-/

namespace ClusterConnect.Number

open Text

/-- Decimal digits without the zeros at their end. -/
def trimZeros (cs : List Char) : List Char := (cs.reverse.dropWhile (· == '0')).reverse

/-- The exponent of ten after the letter `e`: a sign and at least two digits. -/
def exponentText (e : Int) : List Char :=
  let ds := decimalDigits e.natAbs
  (if e < 0 then '-' else '+') :: (if ds.length < 2 then '0' :: ds else ds)

/-- Digits that start at the place `10 ^ top`, in positional or exponent notation. -/
def layout (ds : List Char) (top : Int) : List Char :=
  if top < -4 ∨ 16 ≤ top then
    match ds with
    | [d] => d :: 'e' :: exponentText top
    | d :: more => d :: '.' :: (more ++ 'e' :: exponentText top)
    | [] => []
  else if top < 0 then
    '0' :: '.' :: (List.replicate (-top - 1).toNat '0' ++ ds)
  else
    let whole := top.toNat + 1
    if ds.length ≤ whole then
      ds ++ List.replicate (whole - ds.length) '0' ++ ['.', '0']
    else ds.take whole ++ '.' :: ds.drop whole

/-- The text of a positive decimal. -/
def Decimal.text (d : Decimal) : List Char :=
  let ds := decimalDigits d.digits
  layout (trimZeros ds) (d.exponent + ds.length - 1)

/-- The text of a double. -/
def floatText (x : Float) : String :=
  let bits := x.toBits
  if x.isNaN then "nan"
  else
    let negative := power 2 63 ≤ bits.toNat
    let body :=
      if x.isInf then "inf".toList
      else if bits.toNat % power 2 63 = 0 then "0.0".toList
      else (Binary.ofBits bits).shortest.text
    String.ofList (if negative then '-' :: body else body)

/-- The double nearest to `digits * 10 ^ exponent`. Values beyond the range of doubles by far are
infinite or zero without being computed. -/
def nearestFloat (digits : Nat) (exponent : Int) : Float :=
  let top : Int := (decimalDigits digits).length + exponent
  if digits = 0 ∨ top < -400 then 0
  else if 400 < top then Float.ofBits 0x7FF0000000000000
  else Float.ofScientific digits (exponent < 0) exponent.natAbs

/-- The double nearest to what a numeral says. -/
def Numeral.toFloat : Numeral → Float
  | .undefined => Float.ofBits 0x7FF8000000000000
  | .infinite negative => Float.ofBits (if negative then 0xFFF0000000000000 else 0x7FF0000000000000)
  | .decimal negative digits exponent =>
    let x := nearestFloat digits exponent
    if negative then -x else x

/-- The double that a text stands for. -/
def float? (s : String) : Option Float := (numeral? s.toList).map Numeral.toFloat

end ClusterConnect.Number
