/-!
# Binary numbers in parts

A finite binary number is a sign, a whole mantissa and a power of two. The exact arithmetic of the
other `Decimal` modules works on these parts and never on rounded numbers.
-/

namespace ShotRecorder.Decimal

/-- A power of two. -/
def twoTo (n : Nat) : Nat := Nat.pow 2 n

/-- A power of ten. -/
def tenTo (n : Nat) : Nat := Nat.pow 10 n

/-- The number `± mantissa · 2 ^ exponent`. -/
structure Binary where
  negative : Bool
  mantissa : Nat
  exponent : Int
  deriving DecidableEq, Repr

/-- The exponent field of a number: all ones for an infinity or a NaN. -/
def exponentField (x : Float) : Nat := x.toBits.toNat / twoTo 52 % 2048

/-- Neither an infinity nor a NaN. -/
def finite (x : Float) : Bool := exponentField x != 2047

/-- The sign bit, which a negative zero carries too. -/
def signed (x : Float) : Bool := x.toBits.toNat / twoTo 63 == 1

/-- The parts of a finite number; numbers below the least normal one share its exponent. -/
def Binary.ofFloat (x : Float) : Binary :=
  let field := exponentField x
  let fraction := x.toBits.toNat % twoTo 52
  { negative := signed x
    mantissa := if field = 0 then fraction else twoTo 52 + fraction
    exponent := (max field 1 : Int) - 1075 }

namespace Binary

/-- The magnitude is `numerator / denominator`. -/
def numerator (b : Binary) : Nat := b.mantissa * twoTo b.exponent.toNat

/-- A power of two: one unless the exponent is negative. -/
def denominator (b : Binary) : Nat := twoTo (-b.exponent).toNat

/-- Whether the magnitude has no fraction. -/
def isWhole (b : Binary) : Bool := b.numerator % b.denominator == 0

/-- The number with its fraction dropped. -/
def truncate (b : Binary) : Int :=
  let magnitude := b.numerator / b.denominator
  if b.negative then -(magnitude : Int) else magnitude

theorem denominator_pos (b : Binary) : 0 < b.denominator :=
  Nat.pow_pos (by decide)

end Binary

end ShotRecorder.Decimal
