import ShotRecorder.Decimal.Shortest

/-!
# Numbers as text

How a number with a fraction is written: its shortest digits, positionally while the leading
digit stands between the fourth place after the point and the sixteenth before it, and with an
exponent otherwise.
-/

namespace ShotRecorder.Decimal

/-- The limits and spellings of a way to write numbers. -/
structure Style where
  /-- The least exponent that is written positionally. -/
  least : Int
  /-- The greatest exponent that is written positionally. -/
  greatest : Int
  /-- How many digits an exponent has at least. -/
  exponentDigits : Nat
  infinity : String
  undefined : String

/-- Positional from `0.0001` to below `1e+16`; exponents have a sign and two digits. -/
def style : Style :=
  { least := -4, greatest := 15, exponentDigits := 2, infinity := "inf", undefined := "nan" }

/-- Zeros in front up to a width. -/
def padZeros (width : Nat) (ds : List Char) : List Char :=
  List.replicate (width - ds.length) '0' ++ ds

/-- Digits with the point after the first `before` of them; zeros fill what is missing. -/
def placePoint (ds : List Char) (before : Int) : List Char :=
  if before ≤ 0 then '0' :: '.' :: List.replicate (-before).toNat '0' ++ ds
  else
    let whole := ds.take before.toNat
    let fraction := ds.drop before.toNat
    whole ++ List.replicate (before.toNat - whole.length) '0' ++
      '.' :: (if fraction.isEmpty then ['0'] else fraction)

/-- Digits with an exponent: a point only where more than one digit stands. -/
def withExponent (style : Style) (ds : List Char) (exponent : Int) : List Char :=
  let lead := match ds with
    | [] => ['0']
    | [d] => [d]
    | d :: rest => d :: '.' :: rest
  lead ++ 'e' :: (if exponent < 0 then '-' else '+') ::
    padZeros style.exponentDigits (Digits.write exponent.natAbs)

/-- Trailing zeros cut off, all but a leading one. -/
def trimZeros (ds : List Char) : List Char :=
  (ds.reverse.dropWhile (· == '0')).reverse

/-- A decimal in a style. -/
def Scientific.text (style : Style) (s : Scientific) : List Char :=
  let all := Digits.write s.digits
  let before : Int := all.length + s.exponent
  let ds := trimZeros all
  if style.least ≤ before - 1 && before - 1 ≤ style.greatest then placePoint ds before
  else withExponent style ds (before - 1)

/-- The text of a number with a fraction. -/
def text (x : Float) : String :=
  let sign := if signed x then "-" else ""
  let b := Binary.ofFloat x
  if finite x then
    if b.mantissa = 0 then sign ++ "0.0"
    else sign ++ String.ofList ((shortest b).text style)
  else if b.mantissa = twoTo 52 then sign ++ style.infinity
  else style.undefined

/-- A quotient rounded to the nearest whole number, halves to the even neighbour. -/
def roundDiv (numerator denominator : Nat) : Nat :=
  let quotient := numerator / denominator
  let twice := 2 * (numerator % denominator)
  if twice < denominator then quotient
  else if denominator < twice then quotient + 1
  else quotient + quotient % 2

/-- A number with a fixed count of places behind the point. -/
def fixed (places : Nat) (x : Float) : String :=
  let sign := if signed x then "-" else ""
  let b := Binary.ofFloat x
  if finite x then
    let rounded := roundDiv (b.numerator * tenTo places) b.denominator
    let scaled := padZeros (places + 1) (Digits.write rounded)
    let whole := scaled.take (scaled.length - places)
    let fraction := scaled.drop (scaled.length - places)
    sign ++ String.ofList (whole ++ if places = 0 then [] else '.' :: fraction)
  else if b.mantissa = twoTo 52 then sign ++ style.infinity
  else style.undefined

end ShotRecorder.Decimal
