import ShotRecorder.Decimal.Binary
import ShotRecorder.Text.Digits

/-!
# The shortest decimal

The decimal with the fewest digits that reads back as a given binary number, the nearest of those,
and of two that are equally near the even one. All comparisons are between whole numbers.
-/

namespace ShotRecorder.Decimal

/-- The decimal `digits · 10 ^ exponent`. -/
structure Scientific where
  digits : Nat
  exponent : Int
  deriving DecidableEq, Repr

/-- A grid of decimals `c · 10 ^ step`, on which a binary number is to be approximated. -/
structure Grid where
  number : Binary
  step : Int

namespace Grid

/-- A grid point on the common scale of grid points and quarters of the number's last place. -/
def point (g : Grid) (c : Nat) : Nat :=
  c * tenTo g.step.toNat * twoTo (2 - g.number.exponent).toNat

/-- That many quarters of the number's last place, on the same scale. -/
def quarters (g : Grid) (u : Nat) : Nat :=
  u * twoTo (g.number.exponent - 2).toNat * tenTo (-g.step).toNat

/-- The number itself, on the same scale. -/
def centre (g : Grid) : Nat := g.quarters (4 * g.number.mantissa)

/-- The least value that rounds to the number: half a place below it, or a quarter at a power of
two. -/
def low (g : Grid) : Nat :=
  let m := g.number.mantissa
  g.quarters (4 * m - if m = twoTo 52 ∧ -1074 < g.number.exponent then 1 else 2)

/-- The greatest value that rounds to the number: half a place above it. -/
def high (g : Grid) : Nat := g.quarters (4 * g.number.mantissa + 2)

/-- Whether a grid point reads back as the number; the two ends do when the mantissa is even. -/
def readsBack (g : Grid) (c : Nat) : Bool :=
  if g.number.mantissa % 2 = 0 then g.low ≤ g.point c && g.point c ≤ g.high
  else g.low < g.point c && g.point c < g.high

/-- How far a grid point is from the number. -/
def distance (g : Grid) (c : Nat) : Nat := (g.point c - g.centre) + (g.centre - g.point c)

/-- The nearest grid point that reads back, if one does: one of the number's two neighbours. -/
def best? (g : Grid) : Option Nat :=
  let below := g.centre / g.point 1
  let above := below + 1
  match g.readsBack below, g.readsBack above with
  | true, true =>
    if g.distance below < g.distance above then some below
    else if g.distance above < g.distance below then some above
    else some (if below % 2 = 0 then below else above)
  | true, false => some below
  | false, true => some above
  | false, false => none

end Grid

/-- The place of the leading decimal digit: scaled by `10 ^ 400` every number is at least one. -/
def magnitude (b : Binary) : Int :=
  (Digits.write (b.numerator * tenTo 400 / b.denominator)).length - 401

/-- The shortest decimal of a number other than zero; seventeen digits always suffice. -/
def shortest (b : Binary) : Scientific :=
  let top := magnitude b
  let found := (List.range 17).findSome? fun (fewer : Nat) =>
    let step := top - fewer
    (Grid.best? { number := b, step := step }).map fun digits => { digits, exponent := step }
  found.getD { digits := 0, exponent := 0 }

end ShotRecorder.Decimal
