import ShotRecorder.Timer.Clock

/-!
# Timers moved by hand

A timer whose time passes only when it is told to. It holds at most one callback.
-/

namespace ShotRecorder

/-- A timer moved by hand. -/
structure ManualTimer (τ κ : Type) where
  now : τ
  /-- How often it was armed. -/
  armings : Nat := 0
  /-- The deadline and the callback, while armed. -/
  armed : Option (τ × κ) := none

namespace ManualTimer

variable {τ κ : Type} [Clock τ]

/-- A timer at the start of time. -/
def new : ManualTimer τ κ := { now := Clock.zero }

/-- Armed with a callback, unless it is armed already. -/
def schedule (t : ManualTimer τ κ) (delay : τ) (callback : κ) :
    Except Fault (Option (ManualTimer τ κ)) :=
  match t.armed with
  | some _ => .ok none
  | none => do
    let due ← Clock.later t.now (Clock.notNegative delay)
    pure (some { t with armings := t.armings + 1, armed := some (due, callback) })

/-- No longer armed. -/
def disarm (t : ManualTimer τ κ) : ManualTimer τ κ := { t with armed := none }

/-- Time has passed; the callback comes back if its deadline is reached. -/
def advance (t : ManualTimer τ κ) (seconds : τ) : Except Fault (Option κ × ManualTimer τ κ) := do
  let t := { t with now := ← Clock.later t.now seconds }
  match t.armed with
  | some (due, callback) =>
    if Clock.reached t.now due then pure (some callback, t.disarm) else pure (none, t)
  | none => pure (none, t)

end ManualTimer

end ShotRecorder
