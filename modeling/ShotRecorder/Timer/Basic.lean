import ShotRecorder.Timer.Loop
import ShotRecorder.Timer.Manual

/-!
# One-shot timers

A timer calls back once after a delay. It holds at most one callback: requests made while it is
armed are refused. It may have trouble with the next requests made to it.
-/

namespace ShotRecorder

/-- How a timer answers a request, whatever its state. -/
inductive Trouble where
  /-- No trouble: as its state has it. -/
  | absent
  /-- Refused without a reason. -/
  | refuses
  /-- Failed. -/
  | fails (fault : Fault)

/-- What keeps the time of a timer. -/
inductive TimerDevice (τ κ : Type) where
  | manual (timer : ManualTimer τ κ)
  | loop (timer : LoopTimer τ κ)

/-- A one-shot timer, with the trouble it has with requests to come. -/
structure Timer (τ κ : Type) where
  device : TimerDevice τ κ
  troubles : List Trouble := []

namespace TimerDevice

variable {τ κ : Type} [Clock τ]

/-- Armed with a callback, unless it is armed already. -/
def schedule (device : TimerDevice τ κ) (delay : τ) (callback : κ) :
    Except Fault (Option (TimerDevice τ κ)) :=
  match device with
  | manual timer => return (← timer.schedule delay callback).map manual
  | loop timer => return (← timer.schedule delay callback).map loop

/-- Whether a callback is still to come. -/
def isArmed : TimerDevice τ κ → Bool
  | manual timer => timer.armed.isSome
  | loop timer => timer.appointment.isSome

/-- No longer armed. -/
def disarm : TimerDevice τ κ → TimerDevice τ κ
  | manual timer => manual timer.disarm
  | loop timer => loop timer.disarm

end TimerDevice

namespace Timer

variable {τ κ : Type} [Clock τ]

/-- A timer moved by hand, without trouble. -/
def byHand : Timer τ κ := { device := .manual .new }

/-- A timer on a loop, without trouble. -/
def onLoop (running bound : Bool) : Timer τ κ := { device := .loop { loop := .new running, bound } }

/-- Whether a callback is still to come. -/
def isArmed (t : Timer τ κ) : Bool := t.device.isArmed

/-- No longer armed. -/
def disarm (t : Timer τ κ) : Timer τ κ := { t with device := t.device.disarm }

/-- A request for a callback: whether it was accepted, and the timer afterwards. -/
def schedule (t : Timer τ κ) (delay : τ) (callback : κ) : Except Fault Bool × Timer τ κ :=
  let t' := { t with troubles := t.troubles.tail }
  match t.troubles.headD .absent with
  | .refuses => (.ok false, t')
  | .fails fault => (.error fault, t')
  | .absent =>
    match t.device.schedule delay callback with
    | .ok (some device) => (.ok true, { t' with device })
    | .ok none => (.ok false, t')
    | .error fault => (.error fault, t')

end Timer

end ShotRecorder
