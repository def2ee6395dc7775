import ShotRecorder.Decimal.Binary

/-!
# Decimals to binary numbers

The binary number nearest to a decimal. Exponents far outside the range of binary numbers are
settled first, so that no huge power of ten is ever computed.
-/

namespace ShotRecorder.Decimal

/-- Positive infinity. -/
def infinity : Float := Float.ofBits 0x7FF0000000000000

/-- The value of no number. -/
def undefined : Float := Float.ofBits 0x7FF8000000000000

/-- The magnitude nearest to `digits · 10 ^ exponent`, where `digits` has `count` decimal digits. -/
def nearest (digits count : Nat) (exponent : Int) : Float :=
  if digits = 0 then 0.0
  else if 310 < exponent + count then infinity
  else if exponent + count < -330 then 0.0
  else OfScientific.ofScientific digits (exponent < 0) exponent.natAbs

/-- The number with a sign. -/
def withSign (negative : Bool) (x : Float) : Float := if negative then -x else x

/-- The binary number nearest to a whole number, unless it exceeds all of them. -/
def ofInt? (n : Int) : Option Float :=
  if n.natAbs < twoTo 1025 then
    let x := Float.ofInt n
    if finite x then some x else none
  else none

end ShotRecorder.Decimal
