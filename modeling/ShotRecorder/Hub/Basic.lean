import ShotRecorder.Dispatch
import ShotRecorder.Registry
import ShotRecorder.Settings.Basic
import ShotRecorder.Shot.Log
import ShotRecorder.Timer.Basic

/-!
# Hubs

A hub is where signals come together: routers that bring signals to listeners, a recorder that
rebuilds shots from events, a scheduler that gathers the changes of a while into one refresh, and
the timer that the scheduler uses. What observers saw and what was logged are kept in order.
-/

namespace ShotRecorder

/-- Where a signal that is published comes from. -/
inductive Source where
  /-- Made for the occasion, unless it could not be made. -/
  | fresh (made : Except Fault Signal)
  /-- One of the signals that the hub keeps, by its place. -/
  | kept (place : Nat)

/-- Who listens to signals. -/
inductive Listener where
  | recorder
  | observer (name : String)
  deriving DecidableEq, Repr

/-- A change made in place to the state of an event. -/
structure Amendment where
  change : Members → Except Fault Members

/-- The change that sets members. -/
instance : Coe Members Amendment where
  coe members := { change := fun state => .ok (state.update members) }

/-- What can be done with a hub, from outside or by an observer that is called. -/
inductive Action (τ : Type) where
  /-- Ends the observer's call with a fault. -/
  | raise (fault : Fault)
  /-- Changes the state of the event that the observer is called with. -/
  | amend (amendment : Amendment)
  /-- Adds an item to a list in the state of the event that the observer is called with. -/
  | append (key : String) (item : Json)
  | publish (source : Source) (router : Nat)
  /-- Brings a signal to the recorder alone. -/
  | handle (source : Source)
  | subscribe (kind : String) (listener : Listener) (router : Nat) (token : Option String)
  | unsubscribe (kind : String) (listener : Listener) (router : Nat)
  /-- Undoes the subscription that was kept under a name. -/
  | cancel (token : String)
  | countListeners (kind : Option String) (router : Nat)
  | listKinds (router : Nat)
  /-- Requests a refresh. -/
  | notify
  /-- Fires a pending refresh now. -/
  | flush
  | readDelay
  /-- Moves the time of a timer that is moved by hand. -/
  | advance (seconds : τ)
  /-- Fires such a timer now. -/
  | fire
  | disarm
  /-- Arms the timer for something else than a refresh. -/
  | arm (delay : τ) (label : String) (actions : List (Action τ))
  /-- Lets the time of a loop pass. -/
  | sleep (seconds : τ)
  | readShots
  /-- Changes copies of all shots, which changes no shot. -/
  | scribble
  | summarize
  | clear
  /-- Subscribes the recorder to the events of producers on a router, and on no other. -/
  | attach (router : Nat)
  | detach

/-- What an action answers. -/
inductive Reply (τ : Type) where
  | nothing
  | truth (value : Bool)
  | number (value : Nat)
  | names (values : List String)
  | failures (found : List Failure)
  /-- The kind, and the names under which equal subscriptions are kept. -/
  | subscribed (kind : String) (names : List String)
  | delay (value : τ)
  | shots (records : List Shot)
  | summary (closed count : Nat) (isOpen capturing : Bool)

/-- What a timer calls back for. -/
inductive Callback (τ : Type) where
  | refresh
  | custom (label : String) (actions : List (Action τ))

/-- An observer: the name it is reported with, and what it does when it is called for the n-th
time. -/
structure Observer (τ : Type) where
  title : String
  script : Nat → List (Action τ)

/-- An observer that only looks. -/
def Observer.onlooker {τ : Type} (title : String) : Observer τ := { title, script := fun _ => [] }

/-- The observers of a hub by name. -/
abbrev Cast (τ : Type) := List (String × Observer τ)

/-- The part of a hub that observers can look at when they are called. -/
structure View where
  pending : Bool
  fired : Nat
  /-- How many shots there are and how many have ended, and whether one is open. -/
  shots : Option (Nat × Nat × Bool)

/-- Something seen while a hub runs. -/
inductive Sighting (τ : Type) where
  /-- An observer was called. -/
  | call (name : String) (signal : Signal) (view : View)
  /-- A timer called back for something else than a refresh. -/
  | timer (label : String) (view : View)
  /-- An action of an observer answered. -/
  | did (action : Action τ) (reply : Reply τ)

/-- A line of the log. -/
structure LogRecord where
  level : Level
  text : String
  fault : Option Fault := none

/-- What rebuilds shots from events. -/
structure Recorder where
  shots : ShotLog := {}
  /-- The router it was attached to last. -/
  router : Option Nat := none
  /-- Whether it requests refreshes. -/
  notifies : Bool := true

/-- What gathers requests into refreshes. -/
structure Scheduler (τ : Type) where
  /-- The time from a request to its refresh. -/
  delay : τ
  /-- Whether a refresh was requested and has not fired yet. -/
  pending : Bool := false
  /-- How many refreshes fired. -/
  fired : Nat := 0

/-- A subscription that was kept under a name. -/
structure Subscription where
  kind : String
  listener : Listener
  router : Nat

/-- The state of a hub. -/
structure Hub (τ : Type) where
  /-- Whether the hub is one whole, rather than parts that were made one by one; only a whole hub
  sums up its shots. -/
  whole : Bool := true
  routers : List (Registry Listener) := [.empty]
  recorder : Option Recorder
  scheduler : Scheduler τ
  timer : Timer τ (Callback τ)
  /-- The signals so far; those that are not fresh come first. -/
  signals : Array Signal := #[]
  subscriptions : List (String × Subscription) := []
  /-- How often each observer was called. -/
  calls : List (String × Nat) := []
  /-- The number of the level below which nothing is logged. -/
  threshold : Nat := Level.off.number
  log : Array LogRecord := #[]
  seen : Array (Sighting τ) := #[]

namespace Hub

variable {τ : Type}

/-- The registry of a router. -/
def registry (hub : Hub τ) (router : Nat) : Registry Listener := hub.routers.getD router .empty

/-- One more router, to which nothing is attached. -/
def addRouter (hub : Hub τ) : Hub τ := { hub with routers := hub.routers ++ [.empty] }

/-- A change to the registry of a router. -/
def onRouter (hub : Hub τ) (router : Nat) (change : Registry Listener → Registry Listener) :
    Hub τ :=
  { hub with routers := hub.routers.modify router change }

theorem registry_onRouter (hub : Hub τ) (router other : Nat)
    (change : Registry Listener → Registry Listener) :
    (hub.onRouter router change).registry other =
      if router = other ∧ other < hub.routers.length then change (hub.registry other)
      else hub.registry other := by
  unfold registry onRouter
  by_cases same : router = other
  · subst same
    by_cases inside : router < hub.routers.length
    · simp [inside]
    · simp [inside]
  · simp [same]

/-- The shots that the hub recorded; none if it does not record. -/
def shots (hub : Hub τ) : ShotLog := (hub.recorder.map Recorder.shots).getD {}

/-- Whether the hub records shots. -/
def capturing (hub : Hub τ) : Bool := hub.recorder.isSome

/-- What observers can look at. -/
def view (hub : Hub τ) : View :=
  { pending := hub.scheduler.pending
    fired := hub.scheduler.fired
    shots := hub.recorder.map fun r => (r.shots.count, r.shots.closedCount, r.shots.isOpen) }

/-- A line logged, unless its level is below the threshold. -/
def logged (hub : Hub τ) (record : LogRecord) : Hub τ :=
  if hub.threshold ≤ record.level.number then { hub with log := hub.log.push record } else hub

/-- Something seen. -/
def saw (hub : Hub τ) (sighting : Sighting τ) : Hub τ := { hub with seen := hub.seen.push sighting }

/-- How often an observer was called. -/
def callCount (hub : Hub τ) (name : String) : Nat := (hub.calls.lookup name).getD 0

/-- An observer called once more. -/
def counted (hub : Hub τ) (name : String) : Hub τ :=
  { hub with calls := (name, hub.callCount name + 1) :: hub.calls.filter (·.1 != name) }

/-- A subscription kept under a name, if it is given one. -/
def keeping (hub : Hub τ) (token : Option String) (subscription : Subscription) : Hub τ :=
  match token with
  | some name =>
    { hub with
      subscriptions := (name, subscription) :: hub.subscriptions.filter (·.1 != name) }
  | none => hub

/-- The recorder subscribed to every kind of producers' events on a router. -/
def subscribed (hub : Hub τ) (router : Nat) : Hub τ :=
  hub.onRouter router fun r =>
    Kind.producers.foldl (fun r kind => r.subscribe kind.name .recorder) r

/-- The recorder no longer subscribed to producers' events on a router. -/
def unsubscribed (hub : Hub τ) (router : Nat) : Hub τ :=
  hub.onRouter router fun r =>
    Kind.producers.foldl (fun r kind => r.unsubscribe kind.name .recorder) r

/-- The recorder taken off the router it was attached to. -/
def detached (hub : Hub τ) : Hub τ :=
  match hub.recorder with
  | some recorder =>
    let hub := match recorder.router with
      | some router => hub.unsubscribed router
      | none => hub
    { hub with recorder := some { recorder with router := none } }
  | none => hub

/-- The recorder attached to a router and to no other. -/
def attached (hub : Hub τ) (router : Nat) : Hub τ :=
  let hub := hub.detached.subscribed router
  { hub with recorder := hub.recorder.map fun r => { r with router := some router } }

/-! ### New hubs -/

variable [Clock τ]

/-- A scheduler with a delay, which must not be negative. -/
def newScheduler (delay : τ) : Except Fault (Scheduler τ) :=
  if Clock.isNegative delay then .error (.negativeDelay (Clock.text delay))
  else .ok { delay := delay }

/-- A hub with one router, which records shots or not. -/
def new (capture : Bool) (delay : τ) (timer : Timer τ (Callback τ)) (threshold : Nat) :
    Except Fault (Hub τ) := do
  let scheduler ← newScheduler delay
  let hub : Hub τ := { recorder := none, scheduler, timer, threshold }
  pure (if capture then { hub with recorder := some {} }.attached 0 else hub)

/-- A new hub that records is attached to its only router and to no other. -/
theorem new_capturing {delay : τ} {timer : Timer τ (Callback τ)} {threshold : Nat} {hub : Hub τ}
    (made : new true delay timer threshold = .ok hub) :
    hub = ({ recorder := some {}, scheduler := { delay }, timer, threshold : Hub τ }).attached 0 := by
  unfold new newScheduler at made
  split at made
  · simp [bind, Except.bind] at made
  · simpa [bind, Except.bind, pure, Except.pure] using made.symm

/-- A hub with two routers and a recorder that is not attached. -/
def unwired (notifies : Bool) (delay : τ) (timer : Timer τ (Callback τ)) (threshold : Nat) :
    Except Fault (Hub τ) := do
  let scheduler ← newScheduler delay
  let recorder := some { notifies := notifies }
  pure { whole := false, routers := [.empty, .empty], recorder, scheduler, timer, threshold }

/-- A hub as settings have it. -/
def ofSettings (settings : Settings) (timer : Timer Number (Callback Number)) :
    Except Fault (Hub Number) := do
  let delay ← settings.refreshSeconds
  new settings.capture (.float delay) timer settings.level.number

end Hub

end ShotRecorder
