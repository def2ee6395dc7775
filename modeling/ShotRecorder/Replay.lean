import ShotRecorder.Hub.Perform

/-!
# Replays

A recorded stream of events is published again on an event loop, with a pause after each event if
one is wanted; then the loop sleeps until no refresh is pending. Refreshes are noticed when they
fire, with the shots as they are at that moment, and messages when they are published.
-/

namespace ShotRecorder

/-- Something noticed during a replay. -/
inductive Notice where
  /-- A refresh fired: its number, how many shots there were, and how many of them had ended. -/
  | refresh (number count closed : Nat)
  /-- A message was published. -/
  | message (text : String)
  deriving DecidableEq, Repr

namespace Replay

variable {τ : Type}

/-- The name of the observer of refreshes. -/
def refreshes : String := "refreshes"

/-- The name of the observer of messages. -/
def messages : String := "messages"

/-- What a sighting lets notice. -/
def notice? : Sighting τ → Option Notice
  | .call name signal view =>
    if name = refreshes then
      let (count, closed) := (view.shots.map fun (count, closed, _) => (count, closed)).getD (0, 0)
      some (.refresh view.fired count closed)
    else match signal with
      | .event (.message text) => some (.message text)
      | _ => none
  | _ => none

/-- All that was noticed so far, in order. -/
def notices (hub : Hub τ) : List Notice := hub.seen.toList.filterMap notice?

/-- The observers. -/
def cast : Cast τ := [(refreshes, .onlooker refreshes), (messages, .onlooker messages)]

variable {σ : Type} [Host σ τ] [Clock τ]

/-- The hub before the first event; with `echo`, messages are observed. -/
def start (delay : τ) (echo : Bool) : Except Fault (Hub τ) := do
  let hub ← Hub.new true delay (.onLoop true false) Level.off.number
  let hub := hub.onRouter 0 (·.subscribe Kind.refresh.name (.observer refreshes))
  pure (if echo then hub.onRouter 0 (·.subscribe Kind.message.name (.observer messages)) else hub)

/-- An event published, and the pause after it. -/
def publish (interval : τ) (event : Event) : Run σ Unit := do
  discard (Hub.step cast (.publish (.fresh (.ok (.event event))) 0))
  if Clock.isPositive interval then discard (Hub.step cast (.sleep interval))

/-- The loop sleeps for whole delays until no refresh is pending. -/
def drain : (sleeps : Nat) → Run σ Unit
  | 0 => throw .unfinished
  | sleeps + 1 => do
    let scheduler := (← Hub.look).scheduler
    if scheduler.pending then do
      discard (Hub.step cast (.sleep scheduler.delay))
      drain sleeps

/-- All events published in order, and the last refresh awaited. An event requests at most one
refresh, so that no more sleeps than events are needed. -/
def play (interval : τ) (events : List Event) : Run σ Unit := do
  events.forM (publish interval)
  drain (events.length + 1)

/-- How a replay ends, and the hub it leaves. -/
def run (hub : Hub τ) (interval : τ) (events : List Event) : Except Fault Unit × Hub τ :=
  (play interval events).run.run hub

end Replay

end ShotRecorder
