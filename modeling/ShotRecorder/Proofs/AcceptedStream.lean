import Mathlib.Data.List.Induction
import ShotRecorder.Http.Server
import ShotRecorder.Proofs.Batches
import ShotRecorder.Proofs.Dependable
import ShotRecorder.Proofs.Onlookers
import ShotRecorder.Proofs.Segments
import ShotRecorder.Proofs.SentResults

/-!
The service as a function of the events that it accepted. Requests come in any order and time passes between them;
whatever happens, what the service shows are the segments of the events that were accepted since the last reset
(`Hub.Follows`), so that how they were cut into batches, and which requests were turned down, does not matter.
-/
namespace ShotRecorder
open Segment Run

/-! ### Results of a stream -/

/-- What there is to show of a stream of events. -/
def Results.ofStream (events : List Event) (refreshes : Nat) : Results :=
  { shots := (cut events).1.map Segment.shot ++ (trailingEntries (cut events).2).toList.map ({ entries := · })
    closed := events.countP Event.isResult
    isOpen := events.getLast?.any fun last => !last.isResult
    refreshes }

/-- What there is to tell of a batch after which the stream consists of some events. -/
def Receipt.ofStream (accepted : Nat) (events : List Event) : Receipt :=
  { accepted, failures := 0
    isOpen := events.getLast?.any fun last => !last.isResult
    closed := events.countP Event.isResult }

/-- Something comes after the last result exactly if the last event is not one. -/
theorem cut_trailing (events : List Event) :
    (cut events).2 ≠ [] ↔ (events.getLast?.any fun last => !last.isResult) = true := by
  induction events using List.reverseRecOn with
  | nil => simp [cut]
  | append_singleton events event ih =>
    cases ends : event.isResult with
    | false =>
      rw [cut_append_observed events ends]
      simp [ends]
    | true =>
      cases event with
      | result success value => simp [cut_append_result,ends]
      | _ => simp [Event.isResult,Event.kind] at ends

theorem cuts_foldl {events : List Event} (produced : ∀ event ∈ events, event.kind ∈ Kind.producers) :
    (events.foldl ShotLog.apply {}).Cuts events := by
  induction events using List.reverseRecOn with
  | nil => exact ⟨rfl,rfl⟩
  | append_singleton events event ih =>
    obtain ⟨before,last⟩ := List.forall_mem_append.mp produced
    rw [List.foldl_append]
    exact (ih before).apply (last event (by simp))

namespace ShotLog.Cuts

variable {shots : ShotLog} {events : List Event}

theorem isOpen_eq (cuts : shots.Cuts events) :
    shots.isOpen = events.getLast?.any fun last => !last.isResult :=
  Bool.eq_iff_iff.mpr (cuts.isOpen_iff.trans (cut_trailing events))

/-- The shots of a log are those of the stream. -/
theorem results (cuts : shots.Cuts events) (refreshes : Nat) :
    ({ shots := shots.shots, closed := shots.closedCount, isOpen := shots.isOpen, refreshes } : Results) =
      Results.ofStream events refreshes := by
  rw [cuts.records,cuts.closedCount,cuts.isOpen_eq]
  rfl

end ShotLog.Cuts

namespace Hub

/-- The only observer of a session that nobody else observes. -/
def alone : Cast Number := [(Session.watcher,.onlooker Session.watcher)]

theorem onlookers_alone : Onlookers alone := by simp [Onlookers,alone,Observer.onlooker]

/-- Who listens to a new session. -/
def board (capture : Bool) : List (Registry Listener) :=
  let recording : Registry Listener :=
    if capture then Kind.producers.foldl (fun r kind => r.subscribe kind.name .recorder) .empty else .empty
  [recording.subscribe Kind.refresh.name (.observer Session.watcher)]

theorem listeners_board {event : Event} (produced : event.kind ∈ Kind.producers) (capture : Bool) :
    ((board capture).getD 0 .empty).listeners event.kind.name = if capture then [.recorder] else [] := by
  cases event with
  | refresh => simp [Event.kind,Kind.producers] at produced
  | _ => cases capture <;> rfl

theorem listeners_board_refresh (capture : Bool) :
    ((board capture).getD 0 .empty).listeners Kind.refresh.name = [Session.watcher].map .observer := by
  cases capture <;> rfl

/-- The hub of a session has recorded a stream of events, unless it does not record. -/
structure Follows (capture : Bool) (events : List Event) (hub : Hub Number) : Prop where
  routers : hub.routers = board capture
  recorder : hub.recorder = if capture then some { shots := events.foldl ShotLog.apply {}, router := some 0 } else none
  produced : ∀ event ∈ events, event.kind ∈ Kind.producers
  delay : hub.scheduler.delay.IsTime
  timer : capture = true → hub.timer.Dependable
  refreshes : ∀ callback ∈ hub.timer.device.callbacks, capture = true ∧ callback = .refresh
  idle : capture = false → hub.scheduler.pending = false ∧ hub.scheduler.fired = 0

variable {capture : Bool} {events : List Event} {hub : Hub Number} {account : Account Number}

/-- The events of which there is something to show. -/
def recorded (capture : Bool) (events : List Event) : List Event := if capture then events else []

theorem Follows.cuts (follows : Follows capture events hub) : hub.shots.Cuts (recorded capture events) := by
  unfold shots
  rw [follows.recorder]
  cases capture with
  | true => exact cuts_foldl follows.produced
  | false => exact ⟨rfl,rfl⟩

theorem Follows.withDevice (follows : Follows capture events hub) {device : TimerDevice Number (Callback Number)}
    (within : device.Within hub.timer.device) (dependable : capture = true → device.Dependable) :
    Follows capture events (hub.withDevice device) where
  routers := follows.routers
  recorder := follows.recorder
  produced := follows.produced
  delay := follows.delay
  timer captures := ⟨dependable captures,(follows.timer captures).troubles⟩
  refreshes callback member := follows.refreshes callback (within.callbacks callback member)
  idle := follows.idle

/-- A request of a session that records is answered, and changes nothing that the stream has to do with. -/
theorem Follows.requests (follows : Follows true events hub) :
    ∃ armed, hub.request.1 = .ok armed ∧ Follows true events hub.request.2 := by
  cases pending : hub.scheduler.pending with
  | true =>
    have still : hub.request = (.ok false,hub) := by simp [request,pending]
    exact ⟨false,by rw [still],by rw [still]; exact follows⟩
  | false =>
    obtain ⟨armed,later,scheduled,dependable⟩ :=
      (follows.timer rfl).schedule follows.delay (.refresh : Callback Number)
    have asked : hub.request =
        (.ok armed,{ hub with timer := later, scheduler := { hub.scheduler with pending := armed } }) := by
      simp [request,pending,scheduled,isYes]
    rw [asked]
    refine ⟨armed,rfl,follows.routers,follows.recorder,follows.produced,follows.delay,fun _ => dependable,?_,by simp⟩
    intro callback member
    have added := hub.timer.callbacks_schedule hub.scheduler.delay .refresh callback
    rw [scheduled] at added
    rcases added member with old | new
    · exact follows.refreshes callback old
    · exact ⟨rfl,new⟩

/-- An event of a producer that is published is followed, without a failure. -/
theorem Follows.publishes (follows : Follows capture events account.hub) {event : Event}
    (producer : event.kind ∈ Kind.producers) :
    ∃ left, (step alone (.publish (.fresh (.ok (.event event))) 0)).exec account = (.ok (.failures []),left) ∧
      Follows capture (events ++ [event]) left.hub := by
  have listeners : (account.hub.registry 0).listeners event.kind.name = if capture then [.recorder] else [] := by
    unfold registry
    rw [follows.routers]
    exact listeners_board producer capture
  have produced : ∀ other ∈ events ++ [event], other.kind ∈ Kind.producers :=
    List.forall_mem_append.mpr ⟨follows.produced,by simpa using producer⟩
  cases capture with
  | true =>
    -- The recorder takes the event and requests a refresh in one call; nobody else listens to producers.
    obtain ⟨armed,answered,asked⟩ := follows.requests
    have brought := Signal.produced_event producer
    obtain ⟨calls,log,fresh,-,ran⟩ :=
      @exec_publish_event _ _ alone onlookers_alone maxCalls event brought account _ follows.recorder rfl armed answered
        [] none listeners
    let placed : Hub Number := { account.hub with signals := account.hub.signals.push (.event event) }
    rw [taking_congr account.hub placed rfl rfl] at ran
    refine ⟨_,ran,follows.routers,?_,produced,asked.delay,asked.timer,asked.refreshes,nofun⟩
    rw [List.foldl_append]
    rfl
  | false =>
    have nobody : (account.hub.registry 0).listeners (Signal.event event).kind = [] := listeners
    obtain ⟨log,ran⟩ := exec_publish_unheard alone (perform alone maxCalls) none nobody
    have same : account.hub.recorder = none := follows.recorder
    exact ⟨_,ran,follows.routers,same,produced,follows.delay,nofun,follows.refreshes,follows.idle⟩

/-- Clearing the shots begins the stream anew. -/
theorem Follows.clears (follows : Follows capture events account.hub) :
    ∃ left, (step alone .clear).exec account = (.ok .nothing,left) ∧ Follows capture [] left.hub ∧
      left.hub.scheduler = account.hub.scheduler := by
  have ran : (step alone .clear).exec account = (.ok .nothing,(clearShots.exec account).2) := by
    unfold step act
    rw [exec_bind,exec_clearShots]
    rfl
  refine ⟨_,ran,⟨follows.routers,?_,by simp,follows.delay,follows.timer,follows.refreshes,follows.idle⟩,rfl⟩
  rw [exec_clearShots]
  dsimp only
  rw [follows.recorder]
  cases capture <;> rfl

/-- A timer of a session calls back for a refresh, which only its observer sees. -/
theorem Follows.called (follows : Follows capture events account.hub) {callback : Callback Number}
    {later : TimerDevice Number (Callback Number)} (calls : account.hub.timer.device.Calls callback later) :
    Follows capture events ((fireCallback alone (perform alone maxCalls) callback).exec
      { account with hub := account.hub.withDevice later }).2.hub := by
  obtain ⟨within,member,-⟩ := calls.within
  -- Only a session that records arms its timer, and only with refreshes.
  obtain ⟨rfl,rfl⟩ := follows.refreshes callback member
  have woken := follows.withDevice within fun captures => calls.dependable (follows.timer captures).device
  let start : Account Number := { account with hub := account.hub.withDevice later }
  have listeners : (start.hub.registry 0).listeners Kind.refresh.name = [Session.watcher].map .observer := by
    unfold registry
    rw [woken.routers]
    exact listeners_board_refresh true
  obtain ⟨calls,log,before,fresh,-,ran⟩ := exec_fireRefresh_seen onlookers_alone maxCalls listeners
  have fired : (fireCallback alone (perform alone maxCalls) .refresh).exec start = (.ok (),_) := ran
  rw [fired]
  exact ⟨woken.routers,woken.recorder,woken.produced,woken.delay,woken.timer,woken.refreshes,nofun⟩

theorem Follows.passed (follows : Follows capture events account.hub) {later : TimerDevice Number (Callback Number)}
    (passes : account.hub.timer.device.Passes later) : Follows capture events (account.hub.withDevice later) :=
  follows.withDevice passes.within fun captures => passes.dependable (follows.timer captures).device

/-- What time does to a timer: one that is moved by hand is moved or fired, and a loop sleeps. -/
inductive Tick where
  | advance (seconds : Number)
  | fire
  | sleep (seconds : Number)

/-- The action by which it is done. -/
def Tick.action : Tick → Action Number
  | advance seconds => .advance seconds
  | fire => .fire
  | sleep seconds => .sleep seconds

/-- Time changes nothing that the stream has to do with. -/
theorem Follows.ticks (follows : Follows capture events account.hub) (tick : Tick) :
    Follows capture events ((step alone tick.action).exec account).2.hub := by
  let I : Account Number → Prop := fun account => Follows capture events account.hub
  have passed : ∀ {account : Account Number} {later}, account.hub.timer.device.Passes later → I account →
      I { account with hub := account.hub.withDevice later } := fun passes follows => follows.passed passes
  have called : ∀ {account : Account Number} {callback later}, account.hub.timer.device.Calls callback later →
      I account → I ((fireCallback alone (perform alone maxCalls) callback).exec
        { account with hub := account.hub.withDevice later }).2 := fun calls follows => follows.called calls
  have kept : Keeps I (step alone tick.action) := by
    cases tick with
    | advance seconds => exact (keeps_advance passed called seconds).map _
    | fire => exact (keeps_fire called).map _
    | sleep seconds => exact (keeps_sleep passed called seconds).bind fun _ => keeps_pure _
  exact kept account follows

end Hub

/-! ### Sessions -/

namespace Session
open Hub

/-- The session has recorded a stream of events, unless it does not record, and nobody else observes it. -/
structure Follows (capture : Bool) (events : List Event) (s : Session) : Prop where
  cast : s.cast = alone
  hub : s.hub.Follows capture events

/-- Keeping an account of what a session does changes nothing. -/
theorem perform_eq (s : Session) (action : Action Number) :
    let ran := (step s.cast action).exec ({ hub := s.hub } : Account Number)
    s.perform action = (ran.1,{ s with hub := ran.2.hub }) := by
  have same : Agrees (step s.cast action : Run (Account Number) (Reply Number)) (step s.cast action) :=
    agrees_act (agrees_perform s.cast maxCalls) none action
  have ran := same ({ hub := s.hub } : Account Number)
  unfold perform
  exact congrArg (fun left : Except Fault (Reply Number) × Hub Number => (left.1,{ s with hub := left.2 })) ran

variable {capture : Bool} {events : List Event} {s : Session}

theorem Follows.results (follows : Follows capture events s) :
    s.results = .ofStream (recorded capture events) s.hub.scheduler.fired :=
  follows.hub.cuts.results _

/-- The events of a batch are published one after the other: what each of them leads to, the batch leads to. -/
theorem publishEach_leads {P : List Event → Session → Prop}
    (published : ∀ {events s event}, event.kind ∈ Kind.producers → P events s →
      ∃ left, s.perform (.publish (.fresh (.ok (.event event))) 0) = (.ok (.failures []),left) ∧
        P (events ++ [event]) left)
    {batch : List Event} (produced : ∀ event ∈ batch, event.kind ∈ Kind.producers) (held : P events s) :
    ∃ left, s.publishEach (batch.map .event) = (.ok 0,left) ∧ P (events ++ batch) left := by
  induction batch generalizing events s with
  | nil => exact ⟨s,rfl,by simpa using held⟩
  | cons event rest ih =>
    obtain ⟨producer,others⟩ := List.forall_mem_cons.mp produced
    obtain ⟨next,ran,after⟩ := published producer held
    obtain ⟨left,rested,last⟩ := ih others after
    refine ⟨left,?_,by simpa using last⟩
    simp only [List.map_cons,Session.publishEach]
    rw [ran]
    dsimp only
    rw [rested]
    rfl

/-- Nobody fails on the events of a batch. -/
theorem Follows.publishEach {batch : List Event} (follows : Follows capture events s)
    (produced : ∀ event ∈ batch, event.kind ∈ Kind.producers) :
    ∃ left, s.publishEach (batch.map .event) = (.ok 0,left) ∧ Follows capture (events ++ batch) left := by
  refine publishEach_leads (fun {events s event} producer follows => ?_) produced follows
  have start : Hub.Follows capture events ({ hub := s.hub } : Account Number).hub := follows.hub
  obtain ⟨account,ran,after⟩ := start.publishes producer
  refine ⟨{ s with hub := account.hub },?_,follows.cast,after⟩
  rw [perform_eq,follows.cast,ran]

theorem Follows.publishAll {batch : List Event} (follows : Follows capture events s)
    (produced : ∀ event ∈ batch, event.kind ∈ Kind.producers) :
    ∃ left, s.publishAll (batch.map .event) =
        (.ok (.ofStream batch.length (recorded capture (events ++ batch))),left) ∧
      Follows capture (events ++ batch) left := by
  obtain ⟨left,ran,after⟩ := follows.publishEach produced
  refine ⟨left,?_,after⟩
  have cuts := after.hub.cuts
  unfold Session.publishAll
  rw [ran]
  dsimp only
  rw [cuts.isOpen_eq,cuts.closedCount,List.length_map]
  rfl

theorem Follows.reset (follows : Follows capture events s) :
    Follows capture [] s.reset ∧ s.reset.hub.scheduler = s.hub.scheduler := by
  have start : Hub.Follows capture events ({ hub := s.hub } : Account Number).hub := follows.hub
  obtain ⟨account,ran,after,scheduler⟩ := start.clears
  have cleared : s.reset = { s with hub := account.hub } := by
    unfold Session.reset
    rw [perform_eq,follows.cast,ran]
  rw [cleared]
  exact ⟨⟨follows.cast,after⟩,scheduler⟩

theorem Follows.ticks (follows : Follows capture events s) (tick : Tick) :
    Follows capture events (s.perform tick.action).2 := by
  have start : Hub.Follows capture events ({ hub := s.hub } : Account Number).hub := follows.hub
  have after := start.ticks tick
  rw [perform_eq,follows.cast]
  exact ⟨rfl,after⟩

end Session

/-! ### The service -/

namespace Http
open Hub

/-- What happens to a service: a request comes, or time passes on its timer. -/
inductive Happening where
  | asked (request : Request)
  | ticked (tick : Tick)

/-- The endpoint that a request is for. -/
def target? (request : Request) : Option Endpoint :=
  ((routes.filter (Service.isOnPath request.path)).find? (·.method == request.method)).map Route.endpoint

/-- The accepted stream after something happens: a batch that is accepted continues it, and a reset begins it anew. -/
def Happening.extend (events : List Event) : Happening → List Event
  | asked request =>
    match target? request with
    | some .publish => events ++ (readBatch request).toOption.getD []
    | some .reset => []
    | _ => events
  | ticked _ => events

/-- The events that were accepted since the last reset. -/
def accepted (happenings : List Happening) : List Event := happenings.foldl Happening.extend []

namespace Service

/-- The service after something happens. -/
def on (s : Service) : Happening → Service
  | .asked request => (s.respond request).2
  | .ticked tick => { s with session := (s.session.perform tick.action).2 }

/-- The service after everything that happens to it. -/
def after (s : Service) (happenings : List Happening) : Service := happenings.foldl on s

/-- The service has its own routes, and its session follows a stream of events. -/
structure Follows (capture : Bool) (events : List Event) (s : Service) : Prop where
  routes : s.routes = Http.routes
  session : s.session.Follows capture events

variable {capture : Bool} {events : List Event} {s : Service}

/-- The question that a browser asks beforehand is for no endpoint. -/
theorem question_of_target {request : Request} {endpoint : Endpoint} (target : target? request = some endpoint) :
    question? request = none := by
  obtain ⟨route,found,-⟩ := Option.map_eq_some_iff.mp target
  have same : route.method = request.method := by simpa using List.find?_some found
  have own : route ∈ Http.routes := (List.mem_filter.mp (List.mem_of_find?_eq_some found)).1
  have other : request.method ≠ "OPTIONS" := by
    have methods : ∀ route ∈ Http.routes, route.method ≠ "OPTIONS" := by simp [Http.routes]
    exact same ▸ methods route own
  unfold question?
  simp only [other,↓reduceIte]
  split <;> rfl

theorem respond_eq (own : s.routes = Http.routes) {request : Request} {endpoint : Endpoint}
    (target : target? request = some endpoint) :
    s.respond request = (shared request (s.answer request endpoint).1,(s.answer request endpoint).2) := by
  obtain ⟨route,found,rfl⟩ := Option.map_eq_some_iff.mp target
  unfold respond
  rw [question_of_target target]
  unfold routed
  rw [own]
  dsimp only
  rw [found]

/-- A request for no endpoint is answered without regard to the session. -/
theorem respond_elsewhere (own : s.routes = Http.routes) {request : Request} (target : target? request = none) :
    (s.respond request).2 = s := by
  have missed := Option.map_eq_none_iff.mp target
  unfold respond
  split
  · rfl
  · unfold routed
    rw [own]
    dsimp only
    rw [missed]
    cases Http.routes.filter (isOnPath request.path) with
    | cons route rest => rfl
    | nil =>
      dsimp only
      split <;> rfl

theorem Follows.publishes (follows : Follows capture events s) {request : Request} {batch : List Event}
    (brings : Brings request batch) :
    ∃ left, s.answer request .publish =
        (.json 202 (Receipt.ofStream batch.length (recorded capture (events ++ batch))).toJson,left) ∧
      Follows capture (events ++ batch) left := by
  obtain ⟨session,ran,after⟩ := follows.session.publishAll brings.produced
  refine ⟨{ s with session },?_,⟨follows.routes,after⟩⟩
  unfold answer
  dsimp only
  rw [readBatch_ok.mpr brings]
  dsimp only
  rw [ran]

/-- Whatever happens, the service follows the stream that is continued by it. -/
theorem Follows.on (follows : Follows capture events s) (happening : Happening) :
    Follows capture (happening.extend events) (s.on happening) := by
  cases happening with
  | ticked tick => exact ⟨follows.routes,follows.session.ticks tick⟩
  | asked request =>
    unfold Service.on Happening.extend
    dsimp only
    cases target : target? request with
    | none =>
      rw [respond_elsewhere follows.routes target]
      exact follows
    | some endpoint =>
      rw [respond_eq follows.routes target]
      cases endpoint with
      | publish =>
        dsimp only
        cases read : readBatch request with
        | error fault =>
          simp only [answer,read]
          simpa [Except.toOption] using follows
        | ok batch =>
          obtain ⟨left,answered,after⟩ := follows.publishes (readBatch_ok.mp read)
          rw [answered]
          exact after
      | reset => exact ⟨follows.routes,follows.session.reset.1⟩
      | _ => exact follows

theorem Follows.after (follows : Follows capture events s) (happenings : List Happening) :
    Follows capture (happenings.foldl Happening.extend events) (s.after happenings) := by
  induction happenings generalizing events s with
  | nil => exact follows
  | cons happening rest ih => exact ih (follows.on happening)

end Service

section

variable {request : Request}

theorem target_events (method : request.method = "POST") (path : request.path = "/events") :
    target? request = some .publish := by
  simp [target?,routes,Service.isOnPath,method,path]

end

namespace Service

variable {capture : Bool} {events : List Event} {s : Service} {request : Request}

/-- A batch that is brought continues the stream, and the receipt tells of the stream that it is continued to. -/
theorem Follows.accepts (follows : Follows capture events s) (method : request.method = "POST")
    (path : request.path = "/events") {batch : List Event} (brings : Brings request batch) :
    (Happening.asked request).extend events = events ++ batch ∧
      (s.respond request).1 = shared request
        (.json 202 (Receipt.ofStream batch.length (recorded capture (events ++ batch))).toJson) := by
  have target := target_events method path
  obtain ⟨left,answered,-⟩ := follows.publishes brings
  constructor
  · simp [Happening.extend,target,readBatch_ok.mpr brings,Except.toOption]
  · rw [respond_eq follows.routes target,answered]

end Service

end Http

end ShotRecorder
