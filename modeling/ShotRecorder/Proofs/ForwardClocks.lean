import Mathlib.Algebra.Order.Ring.Rat
import ShotRecorder.Proofs.BinarySums
import ShotRecorder.Timer.Clock

/-!
Clocks on which time goes forwards. However times are counted, all that a loop relies on is that waiting takes no time
back and that who waits as long from a later time is not earlier (`Clock.Forward`). Both ways of counting have it: the
exact one (`forward_rational`) and the one that rounds (`forward_binary`), up to infinity.
-/
namespace ShotRecorder.Clock

/-- A time so much later; the same time if there is none so late. -/
def after {τ : Type} [Clock τ] (t delay : τ) : τ := (later? t delay).getD t

/-- Times on which time goes forwards, from the start on. -/
structure Forward {τ : Type} [Clock τ] (Time : τ → Prop) : Prop where
  zero : Time zero
  grain : Time grain
  notNegative : ∀ {t}, Time t → isNegative t = false
  later : ∀ {t delay}, Time t → Time delay → later? t delay = some (after t delay)
  time : ∀ {t delay}, Time t → Time delay → Time (after t delay)
  refl : ∀ {t}, Time t → reached t t = true
  trans : ∀ {t u v}, Time t → Time u → Time v → reached t u = true → reached u v = true → reached t v = true
  reaches : ∀ {t delay}, Time t → Time delay → reached (after t delay) t = true
  mono : ∀ {t u delay}, Time t → Time u → Time delay → reached u t = true →
    reached (after u delay) (after t delay) = true

namespace Forward

variable {τ : Type} [Clock τ] {Time : τ → Prop} (forward : Forward Time)
include forward

theorem later_eq {t delay : τ} (time : Time t) (delayed : Time delay) : Clock.later t delay = .ok (after t delay) := by
  rw [Clock.later,forward.later time delayed]

theorem notNegative_eq {delay : τ} (delayed : Time delay) : Clock.notNegative delay = delay := by
  rw [Clock.notNegative,forward.notNegative delayed]
  rfl

/-- A loop that has come to a time has also come to it within its grain. -/
theorem within_grain {wake due : τ} (time : Time wake) (time' : Time due) (come : reached wake due = true) :
    reached (after wake Clock.grain) due = true :=
  forward.trans (forward.time time forward.grain) time time' (forward.reaches time forward.grain) come

end Forward

/-- Fractions that are not negative are counted forwards. -/
theorem forward_rational : Forward fun t : Rat => 0 ≤ t where
  zero := le_refl 0
  grain := le_refl 0
  notNegative positive := by simpa [isNegative] using positive
  later _ _ := rfl
  time := add_nonneg
  refl _ := decide_eq_true (le_refl _)
  trans _ _ _ first second := decide_eq_true ((of_decide_eq_true second).trans (of_decide_eq_true first))
  reaches _ delayed := decide_eq_true (le_add_of_nonneg_right delayed)
  mono _ _ _ le := decide_eq_true (add_le_add_left (of_decide_eq_true le) _)

/-- A number with a fraction that is not negative. -/
def IsTimely (t : Number) : Prop := ∃ x, t = .float x ∧ Decimal.Timely x

/-- So are binary numbers, whose sums are rounded. -/
theorem forward_binary : Forward IsTimely where
  zero := ⟨0.0,rfl,by decide +kernel⟩
  grain := ⟨1e-9,rfl,by decide +kernel⟩
  notNegative := by
    rintro _ ⟨x,rfl,timely⟩
    exact decide_eq_false timely.not_lt_zero
  later := by
    rintro _ _ ⟨x,rfl,-⟩ ⟨y,rfl,-⟩
    rfl
  time := by
    rintro _ _ ⟨x,rfl,first⟩ ⟨y,rfl,second⟩
    exact ⟨x + y,rfl,first.add second⟩
  refl := by
    rintro _ ⟨x,rfl,timely⟩
    exact decide_eq_true timely.le_refl
  trans := by
    rintro _ _ _ ⟨x,rfl,first⟩ ⟨y,rfl,second⟩ ⟨z,rfl,third⟩ below above
    exact decide_eq_true (third.le_trans second first (of_decide_eq_true above) (of_decide_eq_true below))
  reaches := by
    rintro _ _ ⟨x,rfl,first⟩ ⟨y,rfl,second⟩
    exact decide_eq_true (first.le_add second)
  mono := by
    rintro _ _ _ ⟨x,rfl,first⟩ ⟨y,rfl,second⟩ ⟨z,rfl,third⟩ le
    exact decide_eq_true (first.add_le_add second third (of_decide_eq_true le))

end ShotRecorder.Clock
