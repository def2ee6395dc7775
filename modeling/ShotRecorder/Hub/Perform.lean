import ShotRecorder.Hub.Account

/-!
# Running hubs

What an action does to a hub. Actions may call observers, whose own actions may call observers
again; `act` is told how to perform such actions, and `perform` performs actions whose calls go no
deeper than a given depth. Whether an account of the run is kept makes no difference to the hub.
-/

namespace ShotRecorder.Hub

variable {σ τ : Type} [Host σ τ] [Clock τ]

/-! ### The log and the signals -/

/-- Logs a line. -/
def tell (level : Level) (text : String) (fault : Option Fault := none) : Run σ Unit :=
  change fun hub => hub.logged { level, text, fault }

/-- The place of a signal, which for a fresh one is a new place. -/
def place : Source → Run σ Nat
  | .kept place => pure place
  | .fresh made => do
    let signal ← Run.ofExcept made
    let fresh := (← look).signals.size
    change fun hub => { hub with signals := hub.signals.push signal }
    pure fresh

/-- The signal at a place, as it is at this moment. -/
def signalAt (place : Nat) : Run σ Signal := do
  match (← look).signals[place]? with
  | some signal => pure signal
  | none => throw .missingPart

/-- Changes the state of the snapshot that an observer is called with. -/
def amendState (place : Option Nat) (amendment : Amendment) : Run σ Unit := do
  let some place := place | throw .missingPart
  match ← signalAt place with
  | .event (.snapshot state rendered) => do
    let state ← Run.ofExcept (amendment.change state)
    change fun hub =>
      { hub with signals := hub.signals.setIfInBounds place (.event (.snapshot state rendered)) }
  | _ => throw .missingPart

/-- An item added to the list under a key. -/
def appendTo (key : String) (item : Json) (state : Members) : Except Fault Members :=
  match state.get? key with
  | some (.array items) => .ok (state.set key (.array (items ++ [item])))
  | some _ => .error .missingPart
  | none => .error (.missingKey (.string key))

/-! ### The scheduler and the recorder -/

/-- Requests a refresh: whether this request armed the timer. -/
def notify : Run σ Bool := do
  let hub ← look
  if hub.scheduler.pending then pure false
  else do
    note .request
    let (answer, timer) := hub.timer.schedule hub.scheduler.delay .refresh
    change fun hub => { hub with timer }
    match ← Run.ofExcept answer with
    | true => do
      change fun hub => { hub with scheduler := { hub.scheduler with pending := true } }
      tell .debug ("Refresh scheduled in " ++ Clock.places hub.scheduler.delay ++ "s")
      pure true
    | false => do
      tell .warning "Timer refused refresh request; none scheduled"
      pure false

/-- The line that tells that an event opens a shot, if none is open. -/
def opening (shots : ShotLog) : Run σ Unit :=
  if shots.isOpen then pure ()
  else tell .trace ("Shot " ++ toString (shots.closedCount + 1) ++ " opened")

/-- The line that tells that an event closes a shot. -/
def closing (shots : ShotLog) : Event → Run σ Unit
  | .result success _ =>
    let closed := "Shot " ++ toString (shots.closedCount + 1)
    tell .debug (closed ++ " closed (success=" ++ (Json.bool success).shown ++ ")")
  | _ => pure ()

/-- A refresh begins to fire: it is no longer pending. -/
def beginRefresh : Run σ Unit := do
  note .refresh
  change fun hub =>
    { hub with
      scheduler := { hub.scheduler with pending := false, fired := hub.scheduler.fired + 1 } }

/-- Brings a signal to the recorder: an event of a producer is applied to the shots, and a refresh
is requested; any other signal is ignored. -/
def record (signal : Signal) : Run σ Unit := do
  match (← look).recorder, signal with
  | none, _ => throw .missingPart
  | some _, .bare _ => pure ()
  | some _, .event .refresh => pure ()
  | some recorder, .event event => do
    let shots := recorder.shots
    opening shots
    note (.record event)
    change fun hub => { hub with recorder := some { recorder with shots := shots.apply event } }
    closing shots event
    if recorder.notifies then discard notify else pure ()

/-- Drops all shots. -/
def clearShots : Run σ Unit := do
  note .clear
  change fun hub => { hub with recorder := hub.recorder.map fun r => { r with shots := {} } }

/-! ### Observers -/

/-- How the actions of an observer are performed: the place of the signal it is called with, and the
actions. -/
abbrev Performer (σ τ : Type) := Option Nat → List (Action τ) → Run σ Unit

section Performing

variable (cast : Cast τ) (perform : Performer σ τ)

/-- The name that a listener is reported with. -/
def title : Listener → String
  | .recorder => "ShotAggregator.handle"
  | .observer name => ((cast.lookup name).map Observer.title).getD name

/-- Calls an observer. -/
def callObserver (name : String) (place : Nat) : Run σ Unit := do
  let signal ← signalAt place
  let count := (← look).callCount name
  change fun hub => (hub.counted name).saw (.call name signal hub.view)
  match cast.lookup name with
  | some observer => perform (some place) (observer.script count)
  | none => pure ()

/-- Calls a listener with the signal at a place. -/
def call (place : Nat) : Listener → Run σ Unit
  | .recorder => do record (← signalAt place)
  | .observer name => callObserver cast perform name place

/-- The dispatch of the signal at a place to the listeners of its kind on a router. -/
def dispatch (router : Nat) (kind : String) (place : Nat) : Dispatch σ Listener where
  registered listener := return ((← look).registry router).has kind listener
  call listener := do
    note (.call listener router place)
    call cast perform place listener
  report listener fault := do
    let listener := title cast listener
    tell .error ("Handler " ++ listener ++ " failed on " ++ kind ++ " event") (some fault)
    pure { kind, listener, fault }

/-- Publishes the signal at a place: the failures of the listeners that were called. -/
def publishAt (router place : Nat) : Run σ (List Failure) := do
  let signal ← signalAt place
  note (.publish router place)
  tell .debug ("Dispatching event: " ++ signal.shown)
  let listeners := ((← look).registry router).listeners signal.kind
  (dispatch cast perform router signal.kind place).deliver listeners

/-- Fires the refresh: it is no longer pending before any observer is called. -/
def fireRefresh : Run σ Unit := do
  beginRefresh
  tell .debug ("Refresh #" ++ toString (← look).scheduler.fired ++ " firing")
  discard (publishAt cast perform 0 (← place (.fresh (.ok (.event .refresh)))))

/-- What a timer calls back for is done. -/
def fireCallback : Callback τ → Run σ Unit
  | .refresh => fireRefresh cast perform
  | .custom label actions => do
    change fun hub => hub.saw (.timer label hub.view)
    perform none actions

/-- Fires a pending refresh now: whether one was pending. -/
def flush : Run σ Bool := do
  if (← look).scheduler.pending then do
    change fun hub => { hub with timer := hub.timer.disarm }
    fireRefresh cast perform
    pure true
  else pure false

/-! ### Time -/

/-- Puts a device in place of the timer's. -/
def setDevice (device : TimerDevice τ (Callback τ)) : Run σ Unit :=
  change fun hub => { hub with timer := { hub.timer with device } }

/-- Moves the time of a timer that is moved by hand: whether it fired. -/
def advance (seconds : τ) : Run σ Bool := do
  match (← look).timer.device with
  | .loop _ => throw .missingPart
  | .manual timer => do
    let (callback, timer) ← Run.ofExcept (timer.advance seconds)
    setDevice (.manual timer)
    match callback with
    | some callback => do fireCallback cast perform callback; pure true
    | none => pure false

/-- Fires such a timer now: whether it was armed. -/
def fire : Run σ Bool := do
  match (← look).timer.device with
  | .loop _ => throw .missingPart
  | .manual timer =>
    match timer.armed with
    | some (_, callback) => do
      setDevice (.manual timer.disarm)
      fireCallback cast perform callback
      pure true
    | none => pure false

/-- The loop of the timer has slept until it woke up. -/
def wakeUp (wake : τ) : Run σ Unit := do
  match (← look).timer.device with
  | .manual _ => pure ()
  | .loop timer => setDevice (.loop (timer.wakeUp wake))

/-- A callback of a loop; an ordinary fault goes no further. -/
def fireOnLoop (callback : Callback τ) : Run σ Unit := do
  match ← Run.attempt (fireCallback cast perform callback) with
  | .ok () => pure ()
  | .error fault => if fault.isOrdinary then pure () else throw fault

/-- Lets the time of a loop pass until it wakes up. What a callback appoints that is called at the
very moment of waking up waits for the next sleep. -/
def sleepUntil (wake : τ) : (callbacks : Nat) → Run σ Unit
  | 0 => throw .unfinished
  | callbacks + 1 => do
    match (← look).timer.device with
    | .manual _ => pure ()
    | .loop timer =>
      match timer.next? wake with
      | none => wakeUp wake
      | some (callback, timer) => do
        setDevice (.loop timer)
        fireOnLoop cast perform callback
        if timer.loop.isAwake wake then wakeUp wake else sleepUntil wake callbacks

/-- How many callbacks one sleep may have. -/
def maxCallbacks : Nat := 100000

/-- Lets the time of a loop pass. -/
def sleep (seconds : τ) : Run σ Unit := do
  match (← look).timer.device with
  | .manual _ => pure ()
  | .loop timer => do
    let wake ← Run.ofExcept (Clock.later timer.loop.now seconds)
    sleepUntil cast perform wake maxCallbacks

/-! ### Actions -/

/-- The names under which a subscription like the given one is kept. -/
def sameSubscriptions (hub : Hub τ) (kind : String) (listener : Listener) : List String :=
  ((hub.subscriptions.filter fun (_, s) => s.kind == kind && s.listener == listener).map
    Prod.fst).mergeSort fun a b => a ≤ b

/-- Does an action; `context` is the place of the signal that an observer is called with. -/
def act (context : Option Nat) : Action τ → Run σ (Reply τ)
  | .raise fault => throw fault
  | .amend amendment => do
    amendState context amendment
    pure .nothing
  | .append key item => do
    amendState context { change := appendTo key item }
    pure .nothing
  | .publish source router => do
    let place ← place source
    .failures <$> publishAt cast perform router place
  | .handle source => do
    let place ← place source
    record (← signalAt place)
    pure .nothing
  | .subscribe kind listener router token => do
    let same := sameSubscriptions (← look) kind listener
    change fun hub =>
      (hub.onRouter router (·.subscribe kind listener)).keeping token { kind, listener, router }
    pure (.subscribed kind same)
  | .unsubscribe kind listener router => do
    let registered := ((← look).registry router).has kind listener
    change fun hub => hub.onRouter router (·.unsubscribe kind listener)
    pure (.truth registered)
  | .cancel token => do
    match (← look).subscriptions.lookup token with
    | some s =>
      let registered := ((← look).registry s.router).has s.kind s.listener
      change fun hub => hub.onRouter s.router (·.unsubscribe s.kind s.listener)
      pure (.truth registered)
    | none => throw (.missingKey (.string token))
  | .countListeners kind router => return .number (((← look).registry router).count kind)
  | .listKinds router => return .names ((← look).registry router).kinds
  | .notify => .truth <$> notify
  | .flush => .truth <$> flush cast perform
  | .readDelay => return .delay (← look).scheduler.delay
  | .advance seconds => .truth <$> advance cast perform seconds
  | .fire => .truth <$> fire cast perform
  | .disarm => do
    let armed := (← look).timer.isArmed
    change fun hub => { hub with timer := hub.timer.disarm }
    pure (.truth armed)
  | .arm delay label actions => do
    let (answer, timer) := (← look).timer.schedule delay (.custom label actions)
    change fun hub => { hub with timer }
    .truth <$> Run.ofExcept answer
  | .sleep seconds => do
    sleep cast perform seconds
    pure .nothing
  | .readShots => return .shots (← look).shots.shots
  | .scribble => do
    let hub ← look
    if hub.capturing then pure (.number hub.shots.count) else throw .missingPart
  | .summarize => do
    let hub ← look
    if !hub.whole then throw .missingPart
    pure (.summary hub.shots.closedCount hub.shots.count hub.shots.isOpen hub.capturing)
  | .clear => do
    clearShots
    pure .nothing
  | .attach router => do
    if (← look).capturing then do
      change fun hub => hub.attached router
      pure (.names (Kind.producers.map Kind.name))
    else throw .missingPart
  | .detach => do
    if (← look).capturing then do
      change fun hub => hub.detached
      pure .nothing
    else throw .missingPart

end Performing

/-- Whether an action of an observer leaves a sighting. -/
def isSeen : Action τ → Bool
  | .raise _ | .amend _ | .append _ _ => false
  | _ => true

/-- Does an action of an observer, and keeps what it answered. -/
def actSeen (cast : Cast τ) (perform : Performer σ τ) (context : Option Nat) (action : Action τ) :
    Run σ Unit := do
  let reply ← act cast perform context action
  if isSeen action then change fun hub => hub.saw (.did action reply) else pure ()

/-- Performs the actions of an observer, in which calls go no deeper than a given depth. -/
def perform (cast : Cast τ) : (depth : Nat) → Performer σ τ
  | _, _, [] => pure ()
  | 0, _, _ :: _ => throw .unfinished
  | depth + 1, context, actions => actions.forM (actSeen cast (perform cast depth) context)

/-- How deep observers may call each other. -/
def maxCalls : Nat := 1000

/-- Does an action from outside. -/
def step (cast : Cast τ) (action : Action τ) : Run σ (Reply τ) :=
  act cast (perform cast maxCalls) none action

end ShotRecorder.Hub
