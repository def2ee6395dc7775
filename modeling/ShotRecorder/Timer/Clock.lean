import ShotRecorder.Fault
import ShotRecorder.Json.Shown

/-!
# Clocks

How time is counted, in seconds. The recorder counts it in binary numbers, whose sums are rounded;
a delay is kept in the form it was given in. Counting in fractions is exact.
-/

namespace ShotRecorder

/-- A way to count time. -/
class Clock (τ : Type) where
  /-- The start. -/
  zero : τ
  /-- A time so much later, unless it is beyond all times. -/
  later? : τ → τ → Option τ
  /-- Below zero. -/
  isNegative : τ → Bool
  /-- Whether the first time is not before the second. -/
  reached : τ → τ → Bool
  /-- What counts as no difference to a loop. -/
  grain : τ
  /-- The text of a time. -/
  text : τ → String
  /-- The text of a time with three places. -/
  places : τ → String

namespace Clock

variable {τ : Type} [Clock τ]

/-- A time, or zero in place of a negative one. -/
def notNegative (t : τ) : τ := if isNegative t then zero else t

/-- Above zero. -/
def isPositive (t : τ) : Bool := !reached zero t

/-- A time so much later. -/
def later (t delay : τ) : Except Fault τ :=
  match later? t delay with
  | some t => .ok t
  | none => .error .tooLarge

end Clock

/-! ### Binary numbers -/

namespace Number

/-- The sum of two numbers, rounded. -/
def add? (a b : Number) : Option Number :=
  match a.toFloat?, b.toFloat? with
  | some x, some y => some (float (x + y))
  | _, _ => none

/-- Not less; false where one of the two is undefined. -/
def reaches (a b : Number) : Bool :=
  match a, b with
  | int m, int n => n ≤ m
  | a, b =>
    match a.toFloat?, b.toFloat? with
    | some x, some y => y ≤ x
    | _, _ => false

/-- Three places behind the point. -/
def threePlaces (a : Number) : String :=
  match a.toFloat? with
  | some x => Decimal.fixed 3 x
  | none => a.shown

end Number

instance : Clock Number where
  zero := .float 0.0
  later? := Number.add?
  isNegative := Number.isNegative
  reached := Number.reaches
  grain := .float 1e-9
  text := Number.shown
  places := Number.threePlaces

/-! ### Fractions -/

/-- A fraction: a whole number, a stroke and another whole number, or the first of them alone. -/
def Clock.fraction (q : Rat) : String :=
  (Number.int q.num).shown ++ if q.den = 1 then "" else "/" ++ (Number.int q.den).shown

instance : Clock Rat where
  zero := 0
  later? t delay := some (t + delay)
  isNegative t := t < 0
  reached now due := due ≤ now
  grain := 0
  text := Clock.fraction
  places := Clock.fraction

end ShotRecorder
