import ShotRecorder.Listing.Basic
import ShotRecorder.Proofs.Accounts
import ShotRecorder.Proofs.ForwardClocks
import ShotRecorder.Proofs.Onlookers

/-!
Listings as a function of the stream. The events are published at once, so that at most one refresh is pending when the
delay passes; whatever the delay is, making a listing comes to an end, and it tells of the shots of all events
(`ofEvents_eq`).
-/
namespace ShotRecorder

namespace Listing
open Hub Run

section

variable {τ : Type} [Clock τ]

/-! ### The hub of a listing -/

/-- The hub before the first event. -/
def opened (delay : τ) : Hub τ :=
  let hub : Hub τ := { recorder := some {}, scheduler := { delay }, timer := .byHand, threshold := Level.off.number }
  (hub.attached 0).onRouter 0 (·.subscribe Kind.refresh.name (.observer watcher))

variable {Time : τ → Prop} (forward : Clock.Forward Time) {delay : τ} (delayed : Time delay)

include forward delayed in
theorem start_eq : start delay = .ok (opened delay) := by
  have positive : Clock.isNegative delay = false := forward.notNegative delayed
  simp [start,Hub.new,newScheduler,positive,bind,Except.bind,pure,Except.pure,opened]

theorem listeners_opened (delay : τ) {event : Event} (produced : event.kind ∈ Kind.producers) :
    ((opened delay).registry 0).listeners event.kind.name = .recorder :: [].map .observer := by
  cases event with
  | refresh => simp [Event.kind,Kind.producers] at produced
  | _ => rfl

theorem listeners_opened_refresh (delay : τ) :
    ((opened delay).registry 0).listeners Kind.refresh.name = [watcher].map .observer := rfl

omit [Clock τ] in
theorem onlookers_cast : Onlookers (cast : Cast τ) := by
  simp [Onlookers,cast,Observer.onlooker]

/-- The hub of a listing after some of its events: no time has passed, and a refresh is pending once there is one. -/
structure Underway (delay : τ) (events : List Event) (hub : Hub τ) : Prop where
  routers : hub.routers = (opened delay).routers
  recorder : hub.recorder = some { shots := events.foldl ShotLog.apply {}, router := some 0 }
  scheduler : hub.scheduler = { delay, pending := !events.isEmpty }
  timer : ∃ armings, hub.timer =
    { device := .manual
        { now := Clock.zero, armings
          armed := if events.isEmpty then none else some (Clock.after Clock.zero delay,.refresh) } }
  seen : hub.seen = #[]

theorem Underway.start (delay : τ) : Underway delay [] (opened delay) where
  routers := rfl
  recorder := rfl
  scheduler := rfl
  timer := ⟨0,rfl⟩
  seen := rfl

variable {events : List Event} {account : Account τ}

include forward delayed in
/-- The first event requests a refresh, and the others find it pending. -/
theorem Underway.request (underway : Underway delay events account.hub) :
    ∃ armed armings, account.hub.request.1 = .ok armed ∧
      account.hub.request.2.timer =
        { device := .manual
            { now := Clock.zero, armings, armed := some (Clock.after Clock.zero delay,.refresh) } } ∧
      account.hub.request.2.scheduler = { delay, pending := true } := by
  obtain ⟨armings,timer⟩ := underway.timer
  have scheduler := underway.scheduler
  cases none : events.isEmpty with
  | false =>
    rw [none] at scheduler timer
    exact ⟨false,armings,by simp [Hub.request,scheduler],by simp [Hub.request,scheduler,timer],
      by simp [Hub.request,scheduler]⟩
  | true =>
    rw [none] at scheduler timer
    let armed : ManualTimer τ (Callback τ) :=
      { now := Clock.zero, armings := armings + 1, armed := some (Clock.after Clock.zero delay,.refresh) }
    have granted : account.hub.timer.schedule delay .refresh = (.ok true,{ device := .manual armed }) := by
      rw [timer]
      simp [armed,Timer.schedule,TimerDevice.schedule,ManualTimer.schedule,forward.notNegative_eq delayed,
        forward.later_eq forward.zero delayed,bind,Except.bind,pure,Except.pure]
    exact ⟨true,armings + 1,by simp [Hub.request,scheduler,granted],by simp [Hub.request,scheduler,granted,armed],
      by simp [Hub.request,scheduler,granted,isYes]⟩

include forward delayed in
/-- An event that is published is recorded at once. -/
theorem Underway.publishes (underway : Underway delay events account.hub) {event : Event}
    (producer : event.kind ∈ Kind.producers) :
    ∃ left, (step cast (.publish (.fresh (.ok (.event event))) 0)).exec account = (.ok (.failures []),left) ∧
      Underway delay (events ++ [event]) left.hub := by
  have produced := Signal.produced_event producer
  have listeners : (account.hub.registry 0).listeners event.kind.name = .recorder :: [].map .observer := by
    unfold registry
    rw [underway.routers]
    exact listeners_opened delay producer
  obtain ⟨armed,armings,answered,timer,scheduler⟩ := underway.request forward delayed
  obtain ⟨calls,log,fresh,-,ran⟩ :=
    exec_publish_event onlookers_cast maxCalls produced underway.recorder rfl answered none listeners
  let placed : Hub τ := { account.hub with signals := account.hub.signals.push (.event event) }
  rw [taking_congr account.hub placed rfl rfl] at ran
  refine ⟨_,ran,?_⟩
  have some : (events ++ [event]).isEmpty = false := by simp
  exact
    { routers := underway.routers
      recorder := by simp
      scheduler := by rw [some]; exact scheduler
      timer := ⟨armings,by rw [some]; exact timer⟩
      seen := by simp [underway.seen,sightings] }

/-- How an event is published. -/
def publish (event : Event) : Run (Account τ) Unit :=
  discard (step cast (.publish (.fresh (.ok (.event event))) 0))

include forward delayed in
theorem Underway.plays (underway : Underway delay events account.hub) {rest : List Event}
    (produced : ∀ event ∈ rest, event.kind ∈ Kind.producers) :
    ∃ left, (rest.forM publish).exec account = (.ok (),left) ∧ Underway delay (events ++ rest) left.hub := by
  induction rest generalizing events account with
  | nil => exact ⟨account,rfl,by simpa using underway⟩
  | cons event rest ih =>
    obtain ⟨producer,others⟩ := List.forall_mem_cons.mp produced
    obtain ⟨next,ran,after⟩ := underway.publishes forward delayed producer
    obtain ⟨left,rested,last⟩ := ih after others
    refine ⟨left,?_,by simpa using last⟩
    have unfolded : (event :: rest).forM publish = (do publish event; rest.forM publish : Run (Account τ) Unit) := rfl
    rw [unfolded,exec_bind,publish,exec_discard,ran]
    exact rested

/-- What there is to tell of a stream. -/
def ofStream (events : List Event) : Listing :=
  let shots := events.foldl ShotLog.apply {}
  { refreshes := if events.isEmpty then [] else [shots.count]
    events := events.length
    closed := shots.closedCount
    rows := shots.shots.map Row.ofShot }

include forward delayed in
/-- When the delay has passed, the refresh that was pending has told of all shots. -/
theorem Underway.ends (underway : Underway delay events account.hub) :
    ∃ fired left, (step cast (.advance delay)).exec account = (.ok (.truth fired),left) ∧
      ofHub events.length left.hub = ofStream events := by
  obtain ⟨armings,timer⟩ := underway.timer
  have moved := forward.later_eq forward.zero delayed
  let later : ManualTimer τ (Callback τ) := { now := Clock.after Clock.zero delay, armings }
  unfold step act
  rw [exec_map]
  cases quiet : events.isEmpty with
  | true =>
    rw [quiet] at timer
    let timer' : ManualTimer τ (Callback τ) := { now := Clock.zero, armings }
    have kind : account.hub.timer.device = .manual timer' := by
      rw [timer]
      rfl
    have advanced : timer'.advance delay = .ok (none,later) := by
      simp [ManualTimer.advance,timer',later,moved,bind,Except.bind,pure,Except.pure]
    rw [exec_advance_quiet cast (perform cast maxCalls) kind advanced]
    refine ⟨false,_,rfl,?_⟩
    simp [ofHub,ofStream,withDevice,Hub.shots,underway.recorder,underway.seen,quiet]
  | false =>
    rw [quiet] at timer
    let timer' : ManualTimer τ (Callback τ) :=
      { now := Clock.zero, armings, armed := some (Clock.after Clock.zero delay,.refresh) }
    let woken : Account τ := { account with hub := account.hub.withDevice (.manual later) }
    have kind : account.hub.timer.device = .manual timer' := by
      rw [timer]
      rfl
    have come := forward.refl (forward.time forward.zero delayed)
    have advanced : timer'.advance delay = .ok (some .refresh,later) := by
      simp [ManualTimer.advance,timer',later,moved,come,ManualTimer.disarm,bind,Except.bind,pure,Except.pure]
    have listeners : (woken.hub.registry 0).listeners Kind.refresh.name = [watcher].map .observer := by
      have routers : woken.hub.routers = (opened delay).routers := underway.routers
      unfold registry
      rw [routers]
      exact listeners_opened_refresh delay
    obtain ⟨calls,log,before,fresh,-,ran⟩ := exec_fireRefresh_seen onlookers_cast maxCalls listeners
    rw [exec_advance_calling cast (perform cast maxCalls) kind advanced ran]
    refine ⟨true,_,rfl,?_⟩
    simp [ofHub,ofStream,withDevice,refreshing,sightings,count?,view,Hub.shots,woken,underway.recorder,underway.seen,
      quiet]

/-! ### Whole listings -/

theorem agrees_publish (event : Event) : Agrees (publish event : Run (Account τ) Unit)
    (discard (step cast (.publish (.fresh (.ok (.event event))) 0))) :=
  (agrees_act (agrees_perform cast maxCalls) none _).discard

theorem agrees_play (delay : τ) (events : List Event) :
    Agrees (do events.forM publish; discard (step cast (.advance delay)) : Run (Account τ) Unit)
      (play delay events) := by
  exact (agrees_forM agrees_publish events).bind fun _ =>
    (agrees_act (agrees_perform cast maxCalls) none _).discard

include forward delayed in
/-- Making a listing comes to an end, and the listing tells of the shots of the whole stream. -/
theorem ofEvents_eq {events : List Event} (produced : ∀ event ∈ events, event.kind ∈ Kind.producers) :
    ofEvents delay events = .ok (ofStream events) := by
  have begun : Underway delay [] ({ hub := opened delay } : Account τ).hub := .start delay
  obtain ⟨middle,ran,underway⟩ := begun.plays forward delayed produced
  obtain ⟨fired,left,ended,told⟩ := underway.ends forward delayed
  have whole : (do events.forM publish; discard (step cast (.advance delay)) : Run (Account τ) Unit).exec
      { hub := opened delay } = (.ok (),left) := by
    rw [exec_bind,ran]
    dsimp only
    rw [exec_discard,ended]
    rfl
  have alone : (play delay events).run.run (opened delay) = (.ok (),left.hub) := by
    have same := agrees_play delay events ({ hub := opened delay } : Account τ)
    rw [whole] at same
    exact same
  unfold ofEvents
  rw [start_eq forward delayed]
  dsimp only [bind,Except.bind]
  rw [alone]
  dsimp only [pure,Except.pure]
  rw [List.nil_append] at told
  exact congrArg Except.ok told

end

end Listing

end ShotRecorder
