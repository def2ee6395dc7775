import ShotRecorder.Timer.Clock

/-!
# Timers on an event loop

An event loop keeps appointments and calls them when their time has come, in the order of their
times. A loop timer makes appointments with a loop, and has at most one that is still to come; an
appointment that was cancelled stays in the queue but is never called.
-/

namespace ShotRecorder

/-- Something a loop is to call. -/
structure Appointment (τ κ : Type) where
  id : Nat
  due : τ
  callback : κ
  cancelled : Bool := false

/-- An event loop. -/
structure EventLoop (τ κ : Type) where
  now : τ
  /-- Whether the loop is running, so that timers find it. -/
  running : Bool := true
  queue : List (Appointment τ κ) := []
  /-- How many appointments were made. -/
  made : Nat := 0

namespace EventLoop

variable {τ κ : Type} [Clock τ]

/-- A loop at the start of time. -/
def new (running : Bool) : EventLoop τ κ := { now := Clock.zero, running }

/-- An appointment after a delay. -/
def callLater (loop : EventLoop τ κ) (delay : τ) (callback : κ) :
    Except Fault (Nat × EventLoop τ κ) := do
  let due ← Clock.later loop.now (Clock.notNegative delay)
  let appointment : Appointment τ κ := { id := loop.made, due, callback }
  pure (loop.made, { loop with queue := loop.queue ++ [appointment], made := loop.made + 1 })

/-- An appointment cancelled. -/
def cancel (loop : EventLoop τ κ) (id : Nat) : EventLoop τ κ :=
  { loop with
    queue := loop.queue.map fun a => if a.id = id then { a with cancelled := true } else a }

/-- Whether an appointment has come by the time a loop wakes up. -/
def isDue (wake : τ) (a : Appointment τ κ) : Bool :=
  !a.cancelled && Clock.reached ((Clock.later? wake Clock.grain).getD wake) a.due

/-- The earlier of two appointments, and of two at the same time the one made first. -/
def earlier (a b : Appointment τ κ) : Appointment τ κ := if Clock.reached b.due a.due then a else b

/-- The first appointment that has come by the time the loop wakes up. -/
def next? (loop : EventLoop τ κ) (wake : τ) : Option (Appointment τ κ) :=
  match loop.queue.filter (isDue wake) with
  | [] => none
  | first :: rest => some (rest.foldl earlier first)

/-- Whether a loop that is to wake up at a time has come to it. -/
def isAwake (loop : EventLoop τ κ) (wake : τ) : Bool :=
  Clock.reached ((Clock.later? loop.now Clock.grain).getD loop.now) wake

/-- The loop when it comes to an appointment: the appointment's time, at most that of waking up. -/
def arrive (loop : EventLoop τ κ) (wake : τ) (a : Appointment τ κ) : EventLoop τ κ :=
  { loop with
    now := if Clock.reached wake a.due then a.due else wake
    queue := loop.queue.filter (·.id != a.id) }

end EventLoop

/-- A timer on an event loop. -/
structure LoopTimer (τ κ : Type) where
  loop : EventLoop τ κ
  /-- Whether the timer knows its loop from the start, or looks for a running one each time. -/
  bound : Bool := false
  /-- The appointment that is still to come. -/
  appointment : Option Nat := none

namespace LoopTimer

variable {τ κ : Type} [Clock τ]

/-- Armed with a callback, unless it is armed already. -/
def schedule (t : LoopTimer τ κ) (delay : τ) (callback : κ) :
    Except Fault (Option (LoopTimer τ κ)) :=
  if t.appointment.isSome then .ok none
  else if !t.bound && !t.loop.running then .error .noLoop
  else do
    let (id, loop) ← t.loop.callLater delay callback
    pure (some { t with loop, appointment := some id })

/-- No longer armed. -/
def disarm (t : LoopTimer τ κ) : LoopTimer τ κ :=
  match t.appointment with
  | none => t
  | some id => { t with loop := t.loop.cancel id, appointment := none }

/-- The callback that comes next before the loop wakes up, with the timer as it is when the callback
is called. -/
def next? (t : LoopTimer τ κ) (wake : τ) : Option (κ × LoopTimer τ κ) :=
  (t.loop.next? wake).map fun a =>
    (a.callback, { t with loop := t.loop.arrive wake a, appointment := none })

/-- The loop has slept until it woke up. -/
def wakeUp (t : LoopTimer τ κ) (wake : τ) : LoopTimer τ κ :=
  { t with loop := { t.loop with now := wake } }

end LoopTimer

end ShotRecorder
