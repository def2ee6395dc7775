import ShotRecorder.Proofs.AcceptedStream
import ShotRecorder.Proofs.Armed

/-!
What a service tells of refreshes. Its status moves in three ways only (`Happening.Moves`): a batch with an event makes
a refresh pending, time may fire a refresh that is pending, and everything else, a reset too, leaves the status as it
is. That it moves no other way needs a timer that accepts what it is asked while it is idle (`Timer.Willing`), since
then a refresh is pending exactly while the timer is armed (`Hub.Punctual`). What the status has to do with the shots
follows from the moves (`status_true_to_shots`).
-/
namespace ShotRecorder
open Run

/-! ### Willing timers -/

namespace TimerDevice

variable {κ : Type}

section

variable {τ : Type} [Clock τ]

/-- No device that is idle turns a request down. -/
theorem schedule_refused {device : TimerDevice τ κ} {delay : τ} {callback : κ}
    (refused : device.schedule delay callback = .ok none) : device.isArmed = true := by
  cases device with
  | manual timer =>
    cases armed : timer.armed with
    | some pair => simp [isArmed,armed]
    | none =>
      cases reached : Clock.later timer.now (Clock.notNegative delay) with
      | error fault => simp [schedule,ManualTimer.schedule,armed,reached,bind,Except.bind] at refused
      | ok due => simp [schedule,ManualTimer.schedule,armed,reached,bind,Except.bind,pure,Except.pure] at refused
  | loop timer =>
    cases appointed : timer.appointment with
    | some id => simp [isArmed,appointed]
    | none =>
      by_cases lost : (!timer.bound && !timer.loop.running) = true
      · simp [schedule,LoopTimer.schedule,appointed,lost,bind,Except.bind] at refused
      · cases reached : Clock.later timer.loop.now (Clock.notNegative delay) with
        | error fault =>
          simp [schedule,LoopTimer.schedule,appointed,lost,EventLoop.callLater,reached,bind,Except.bind] at refused
        | ok due =>
          simp [schedule,LoopTimer.schedule,appointed,lost,EventLoop.callLater,reached,bind,Except.bind,pure,
            Except.pure] at refused

theorem Passes.isArmed {device later : TimerDevice τ κ} (passes : device.Passes later) :
    later.isArmed = device.isArmed := by
  cases passes <;> rfl

end

theorem Coherent.idle {τ : Type} {device : TimerDevice τ κ} (coherent : device.Coherent)
    (fresh : device.callbacks = []) : device.isArmed = false := by
  refine Bool.eq_false_iff.mpr fun armed => ?_
  obtain ⟨callback,found⟩ := Option.isSome_iff_exists.mp (coherent.armed_iff.mp armed)
  have member := armedWith_mem found
  rw [fresh] at member
  cases member

theorem Dependable.disarm {device : TimerDevice Number κ} (dependable : device.Dependable) :
    device.disarm.Dependable := by
  cases device with
  | manual timer => exact dependable
  | loop timer =>
    cases appointed : timer.appointment with
    | none => simpa [TimerDevice.disarm,LoopTimer.disarm,appointed] using dependable
    | some id =>
      obtain ⟨time,dues,found⟩ := dependable
      simp only [TimerDevice.disarm,LoopTimer.disarm,appointed]
      refine ⟨time,?_,found⟩
      intro a member
      obtain ⟨b,queued,rfl⟩ := List.mem_map.mp member
      have due := dues b queued
      split <;> exact due

end TimerDevice

namespace Timer

variable {κ : Type} {timer : Timer Number κ}

/-- A timer that accepts every request that is made while it is idle. -/
structure Willing (timer : Timer Number κ) : Prop where
  device : timer.device.Dependable
  coherent : timer.device.Coherent
  untroubled : ∀ trouble ∈ timer.troubles, trouble = .absent

theorem Willing.dependable (willing : timer.Willing) : timer.Dependable :=
  ⟨willing.device,fun _ member => nomatch willing.untroubled _ member⟩

/-- A request made while it is idle arms it, and leaves it willing. -/
theorem Willing.schedule (willing : timer.Willing) (idle : timer.isArmed = false) {delay : Number}
    (span : delay.IsTime) (callback : κ) :
    ∃ later, timer.schedule delay callback = (.ok true,later) ∧ later.Willing ∧ later.isArmed = true := by
  have first : timer.troubles.headD .absent = .absent := by
    cases troubles : timer.troubles with
    | nil => rfl
    | cons trouble others => exact willing.untroubled trouble (by simp [troubles])
  have rest : ∀ trouble ∈ timer.troubles.tail, trouble = .absent :=
    fun trouble member => willing.untroubled trouble (List.mem_of_mem_tail member)
  obtain ⟨answer,scheduled⟩ := TimerDevice.schedule_answers willing.device span callback
  cases answer with
  | none =>
    have armed : timer.isArmed = true := TimerDevice.schedule_refused scheduled
    rw [idle] at armed
    cases armed
  | some device =>
    obtain ⟨-,armed,coherent⟩ := TimerDevice.schedule_arms willing.coherent scheduled
    refine ⟨{ device, troubles := timer.troubles.tail },?_,?_,?_⟩
    · unfold Timer.schedule
      dsimp only
      rw [first]
      simp only [scheduled]
    · exact ⟨TimerDevice.dependable_schedule willing.device scheduled,coherent,rest⟩
    · exact coherent.armed_iff.mpr (by simp [armed])

end Timer

/-! ### The hub of a session -/

/-- The status after a refresh that finds a number of shots. -/
def RefreshStatus.observed (shots : Nat) (status : RefreshStatus) : RefreshStatus :=
  { pending := false, refreshes := status.refreshes + 1, lastSeen := some shots }

namespace Hub

/-- What a session with this hub tells of refreshes. -/
def told (hub : Hub Number) : RefreshStatus :=
  { pending := hub.scheduler.pending
    refreshes := hub.scheduler.fired
    lastSeen := hub.seen.toList.reverse.findSome? Session.seenBy }

/-- The hub of a session that records a stream of events, and whose refresh is pending while the timer is armed. -/
structure Punctual (events : List Event) (hub : Hub Number) : Prop where
  follows : Follows true events hub
  willing : hub.timer.Willing
  armed : hub.scheduler.pending = hub.timer.isArmed

variable {events : List Event} {hub : Hub Number} {account : Account Number}

theorem Follows.shots (follows : Follows true events hub) : hub.shots = events.foldl ShotLog.apply {} := by
  unfold Hub.shots
  rw [follows.recorder]
  rfl

/-- A request leaves a refresh pending, and changes nothing else that is told. -/
theorem Punctual.requests (punctual : Punctual events hub) :
    ∃ timer, hub.request.2 = { hub with timer, scheduler := { hub.scheduler with pending := true } } ∧
      timer.Willing ∧ timer.isArmed = true := by
  cases pending : hub.scheduler.pending with
  | true =>
    have still : { hub.scheduler with pending := true } = hub.scheduler := by rw [← pending]
    refine ⟨hub.timer,?_,punctual.willing,punctual.armed ▸ pending⟩
    simp [request,pending,still]
  | false =>
    have idle : hub.timer.isArmed = false := punctual.armed ▸ pending
    obtain ⟨timer,scheduled,willing,armed⟩ := punctual.willing.schedule idle punctual.follows.delay Callback.refresh
    refine ⟨timer,?_,willing,armed⟩
    simp [request,pending,scheduled,isYes]

theorem Punctual.publishes (punctual : Punctual events account.hub) {event : Event}
    (producer : event.kind ∈ Kind.producers) :
    ∃ left, (step alone (.publish (.fresh (.ok (.event event))) 0)).exec account = (.ok (.failures []),left) ∧
      Punctual (events ++ [event]) left.hub ∧ left.hub.told = { account.hub.told with pending := true } := by
  obtain ⟨left,ran,follows⟩ := punctual.follows.publishes producer
  obtain ⟨armed,answered,-⟩ := punctual.follows.requests
  obtain ⟨timer,requested,willing,isArmed⟩ := punctual.requests
  have listeners : (account.hub.registry 0).listeners event.kind.name = .recorder :: [].map .observer := by
    unfold registry
    rw [punctual.follows.routers]
    exact listeners_board producer true
  obtain ⟨calls,log,fresh,-,ran'⟩ :=
    @exec_publish_event _ _ alone onlookers_alone maxCalls event (Signal.produced_event producer) account _
      punctual.follows.recorder rfl armed answered [] none listeners
  let placed : Hub Number := { account.hub with signals := account.hub.signals.push (.event event) }
  rw [taking_congr account.hub placed rfl rfl,requested] at ran'
  obtain rfl := (Prod.mk.inj (ran.symm.trans ran')).2
  refine ⟨_,ran,⟨follows,willing,isArmed.symm⟩,?_⟩
  simp [told,sightings]

theorem Punctual.clears (punctual : Punctual events account.hub) :
    ∃ left, (step alone .clear).exec account = (.ok .nothing,left) ∧ Punctual [] left.hub ∧
      left.hub.told = account.hub.told := by
  obtain ⟨left,ran,follows,-⟩ := punctual.follows.clears
  have ran' : (step alone .clear).exec account = (.ok .nothing,(clearShots.exec account).2) := by
    unfold step act
    rw [exec_bind,exec_clearShots]
    rfl
  obtain rfl := (Prod.mk.inj (ran.symm.trans ran')).2
  exact ⟨_,ran,⟨follows,punctual.willing,punctual.armed⟩,rfl⟩

/-- A refresh that fires on an idle timer is no longer pending, and the session looks at the shots. -/
theorem Follows.refreshes_once (follows : Follows true events account.hub) (willing : account.hub.timer.Willing)
    (idle : account.hub.timer.isArmed = false) :
    ∃ left, (fireRefresh alone (perform alone maxCalls)).exec account = (.ok (),left) ∧ Punctual events left.hub ∧
      left.hub.told = account.hub.told.observed account.hub.shots.count := by
  have listeners : (account.hub.registry 0).listeners Kind.refresh.name = [Session.watcher].map .observer := by
    unfold registry
    rw [follows.routers]
    exact listeners_board_refresh true
  obtain ⟨calls,log,before,fresh,-,ran⟩ := exec_fireRefresh_seen onlookers_alone maxCalls listeners
  refine ⟨_,ran,⟨⟨follows.routers,follows.recorder,follows.produced,follows.delay,follows.timer,follows.refreshes,
    nofun⟩,willing,idle.symm⟩,?_⟩
  have looked : account.hub.refreshing.view.shots.map (·.1) = some account.hub.shots.count := by
    simp [view,refreshing,Hub.shots,follows.recorder]
  have seen : (account.hub.seen ++ sightings [Session.watcher] (.event .refresh)
      account.hub.refreshing.view).toList.reverse.findSome? Session.seenBy = some account.hub.shots.count := by
    simp [sightings,Session.seenBy,looked]
  simp only [told,RefreshStatus.observed]
  rw [seen]
  rfl

theorem Punctual.withDevice (punctual : Punctual events hub) {device : TimerDevice Number (Callback Number)}
    (within : device.Within hub.timer.device) (dependable : device.Dependable) (coherent : device.Coherent) :
    Follows true events (hub.withDevice device) ∧ (hub.withDevice device).timer.Willing :=
  ⟨punctual.follows.withDevice within fun _ => dependable,dependable,coherent,punctual.willing.untroubled⟩

/-- Time fires the refresh that is pending, or nothing. -/
theorem Punctual.ticks (punctual : Punctual events account.hub) (tick : Tick) :
    let left := ((step alone tick.action).exec account).2.hub
    Punctual events left ∧ (left.told = account.hub.told ∨
      account.hub.told.pending = true ∧ left.told = account.hub.told.observed account.hub.shots.count) := by
  let start := account.hub
  have begun : Follows true events start := punctual.follows
  let I : Account Number → Prop := fun account => Punctual events account.hub ∧
    (account.hub.told = start.told ∨ start.told.pending = true ∧ account.hub.told = start.told.observed start.shots.count)
  have passed : ∀ {account : Account Number} {later}, account.hub.timer.device.Passes later → I account →
      I { account with hub := account.hub.withDevice later } := by
    intro account later passes held
    obtain ⟨punctual,moved⟩ := held
    obtain ⟨follows,willing⟩ := punctual.withDevice passes.within (passes.dependable punctual.willing.device)
      (passes.coherent punctual.willing.coherent)
    exact ⟨⟨follows,willing,punctual.armed.trans passes.isArmed.symm⟩,moved⟩
  have called : ∀ {account : Account Number} {callback later}, account.hub.timer.device.Calls callback later →
      I account → I ((fireCallback alone (perform alone maxCalls) callback).exec
        { account with hub := account.hub.withDevice later }).2 := by
    intro account callback later calls held
    obtain ⟨punctual,moved⟩ := held
    obtain ⟨within,member,idle⟩ := calls.within
    obtain ⟨-,rfl⟩ := punctual.follows.refreshes callback member
    obtain ⟨follows,willing⟩ := punctual.withDevice within (calls.dependable punctual.willing.device)
      (calls.coherent punctual.willing.coherent)
    have armed : account.hub.timer.device.isArmed = true :=
      punctual.willing.coherent.armed_iff.mpr (by simp [(calls.armedWith punctual.willing.coherent).1])
    have pending : account.hub.told.pending = true := punctual.armed.trans armed
    -- A device that still calls back has not done so before, so that this is the first refresh to fire.
    have same : account.hub.told = start.told := by
      rcases moved with same | ⟨-,observed⟩
      · exact same
      · rw [observed] at pending
        cases pending
    let woken : Account Number := { account with hub := account.hub.withDevice later }
    obtain ⟨left,ran,after,told⟩ := @Follows.refreshes_once _ woken follows willing idle
    have fired : (fireCallback alone (perform alone maxCalls) .refresh).exec woken = (.ok (),left) := ran
    have shots : woken.hub.shots.count = start.shots.count := by
      rw [follows.shots,begun.shots]
    rw [fired]
    refine ⟨after,.inr ⟨same ▸ pending,?_⟩⟩
    rw [told,shots,← same]
    rfl
  have kept : Keeps I (step alone tick.action) := by
    cases tick with
    | advance seconds => exact (keeps_advance passed called seconds).map _
    | fire => exact (keeps_fire called).map _
    | sleep seconds => exact (keeps_sleep passed called seconds).bind fun _ => keeps_pure _
  exact kept account ⟨punctual,.inl rfl⟩

/-- A pending refresh is flushed, and nothing else is. -/
theorem Punctual.flushes (punctual : Punctual events account.hub) :
    ∃ left, (step alone .flush).exec account = (.ok (.truth account.hub.told.pending),left) ∧
      Punctual events left.hub ∧
      left.hub.told =
        if account.hub.told.pending then account.hub.told.observed account.hub.shots.count else account.hub.told := by
  cases pending : account.hub.scheduler.pending with
  | true =>
    obtain ⟨follows,willing⟩ := punctual.withDevice (TimerDevice.disarm_within _) punctual.willing.device.disarm
      punctual.willing.coherent.disarm
    obtain ⟨left,fired,after,told⟩ := @Follows.refreshes_once _
      { account with hub := { account.hub with timer := account.hub.timer.disarm } } follows willing
      (TimerDevice.isArmed_disarm _)
    have isPending : account.hub.told.pending = true := pending
    refine ⟨left,?_,after,by rwa [if_pos isPending]⟩
    unfold step act flush
    rw [exec_map,exec_bind,exec_look]
    dsimp only [hub_account]
    rw [pending]
    simp only [↓reduceIte]
    rw [exec_bind,exec_change]
    dsimp only [hub_account,put_account]
    rw [exec_bind,fired]
    simp [Hub.told,pending,Except.map]
  | false =>
    refine ⟨account,?_,punctual,by simp [Hub.told,pending]⟩
    unfold step act flush
    rw [exec_map,exec_bind,exec_look]
    dsimp only [hub_account]
    simp [Hub.told,pending,Except.map]

end Hub

/-! ### Sessions -/

namespace Session
open Hub

/-- A session that records a stream of events, and whose refresh is pending while its timer is armed. -/
structure Punctual (events : List Event) (s : Session) : Prop where
  cast : s.cast = alone
  hub : s.hub.Punctual events

variable {events : List Event} {s : Session}

theorem Punctual.follows (punctual : Punctual events s) : Follows true events s := ⟨punctual.cast,punctual.hub.follows⟩

/-- What an action with the hub leads to, the session does. -/
theorem Punctual.perform (punctual : Punctual events s) {action : Action Number} {outcome : Except Fault (Reply Number)}
    {left : Account Number} (ran : (step alone action).exec ({ hub := s.hub } : Account Number) = (outcome,left)) :
    s.perform action = (outcome,{ s with hub := left.hub }) := by
  rw [perform_eq,punctual.cast,ran]

theorem Punctual.publishAll {batch : List Event} (punctual : Punctual events s)
    (produced : ∀ event ∈ batch, event.kind ∈ Kind.producers) :
    ∃ receipt left, s.publishAll (batch.map .event) = (.ok receipt,left) ∧ Punctual (events ++ batch) left ∧
      left.status = { s.status with pending := s.status.pending || !batch.isEmpty } := by
  let P : List Event → Session → Prop := fun events' s' => Punctual events' s' ∧ ∃ published,
    events' = events ++ published ∧
      s'.status = { s.status with pending := s.status.pending || !published.isEmpty }
  have start : P events s := ⟨punctual,[],by simp,by simp⟩
  obtain ⟨left,ran,after,published,same,moved⟩ : ∃ left, s.publishEach (batch.map .event) = (.ok 0,left) ∧
      P (events ++ batch) left := by
    refine publishEach_leads (fun {events' s' event} producer held => ?_) produced start
    obtain ⟨punctual',published,rfl,moved⟩ := held
    have before : Hub.Punctual _ ({ hub := s'.hub } : Account Number).hub := punctual'.hub
    obtain ⟨account,ran,after,told⟩ := before.publishes producer
    refine ⟨_,punctual'.perform ran,⟨punctual'.cast,after⟩,published ++ [event],by simp,?_⟩
    have told' : ({ s' with hub := account.hub } : Session).status = { s'.status with pending := true } := told
    rw [told',moved]
    simp
  obtain rfl := List.append_cancel_left same
  unfold Session.publishAll
  rw [ran]
  exact ⟨_,left,rfl,after,moved⟩

theorem Punctual.reset (punctual : Punctual events s) : Punctual [] s.reset ∧ s.reset.status = s.status := by
  have start : Hub.Punctual events ({ hub := s.hub } : Account Number).hub := punctual.hub
  obtain ⟨account,ran,after,told⟩ := start.clears
  unfold Session.reset
  rw [punctual.perform ran]
  exact ⟨⟨punctual.cast,after⟩,told⟩

theorem Punctual.ticks (punctual : Punctual events s) (tick : Tick) :
    let left := (s.perform tick.action).2
    Punctual events left ∧ (left.status = s.status ∨
      s.status.pending = true ∧ left.status = s.status.observed s.hub.shots.count) := by
  have start : Hub.Punctual events ({ hub := s.hub } : Account Number).hub := punctual.hub
  obtain ⟨after,told⟩ := start.ticks tick
  dsimp only
  rw [punctual.perform rfl]
  exact ⟨⟨punctual.cast,after⟩,told⟩

theorem Punctual.close (punctual : Punctual events s) : Punctual events s.close ∧
    s.close.status = if s.status.pending then s.status.observed s.hub.shots.count else s.status := by
  have start : Hub.Punctual events ({ hub := s.hub } : Account Number).hub := punctual.hub
  obtain ⟨account,ran,after,told⟩ := start.flushes
  unfold Session.close
  rw [punctual.perform ran]
  exact ⟨⟨punctual.cast,after⟩,told⟩

end Session

/-! ### The service -/

namespace Http
open Hub

/-- How the status moves when something happens to a service that shows a number of shots. -/
inductive Happening.Moves (shots : Nat) : Happening → RefreshStatus → RefreshStatus → Prop
  | still {happening : Happening} {status : RefreshStatus} (nothing : happening.extend [] = []) :
    Moves shots happening status status
  | requested {happening : Happening} {status : RefreshStatus} (news : happening.extend [] ≠ []) :
    Moves shots happening status { status with pending := true }
  | fired {tick : Tick} {status : RefreshStatus} (pending : status.pending = true) :
    Moves shots (.ticked tick) status (status.observed shots)

section

variable {shots : Nat} {happening : Happening} {status status' : RefreshStatus}

/-- While nothing is pending, only an event that is accepted moves the status. -/
theorem Happening.Moves.rests (moves : happening.Moves shots status status') (settled : status.pending = false)
    (nothing : happening.extend [] = []) : status' = status := by
  cases moves with
  | still => rfl
  | requested news => exact absurd nothing news
  | fired pending => simp [settled] at pending

end

namespace Service

/-- A service whose session records a stream of events and has a refresh pending while its timer is armed. -/
structure Punctual (events : List Event) (s : Service) : Prop where
  routes : s.routes = Http.routes
  session : s.session.Punctual events

variable {events : List Event} {s : Service}

theorem Punctual.length_shots (punctual : Punctual events s) :
    s.session.results.shots.length = (events.foldl ShotLog.apply {}).count := by
  rw [← punctual.session.hub.follows.shots]
  exact ShotLog.length_shots _

/-- Whatever happens moves the status in one of the three ways. -/
theorem Punctual.on (punctual : Punctual events s) (happening : Happening) :
    Punctual (happening.extend events) (s.on happening) ∧
      happening.Moves s.session.results.shots.length s.session.status (s.on happening).session.status := by
  cases happening with
  | ticked tick =>
    obtain ⟨after,moved⟩ := punctual.session.ticks tick
    refine ⟨⟨punctual.routes,after⟩,?_⟩
    unfold Service.on
    dsimp only
    rcases moved with same | ⟨pending,told⟩
    · rw [same]
      exact .still rfl
    · rw [told,← ShotLog.length_shots]
      exact .fired pending
  | asked request =>
    unfold Service.on
    dsimp only
    cases target : target? request with
    | none =>
      rw [respond_elsewhere punctual.routes target]
      simp only [Happening.extend,target]
      exact ⟨punctual,.still (by simp [Happening.extend,target])⟩
    | some endpoint =>
      rw [respond_eq punctual.routes target]
      cases endpoint with
      | publish =>
        simp only [Happening.extend,target]
        cases read : readBatch request with
        | error fault =>
          have still : (s.answer request .publish).2 = s := by simp only [answer,read]
          rw [still]
          exact ⟨by simpa [Except.toOption] using punctual,
            .still (by simp [Happening.extend,target,read,Except.toOption])⟩
        | ok batch =>
          obtain ⟨receipt,left,ran,after,moved⟩ := punctual.session.publishAll (readBatch_ok.mp read).produced
          have taken : (s.answer request .publish).2 = { s with session := left } := by
            simp only [answer,read,ran]
          have brought : (Happening.asked request).extend [] = batch := by
            simp [Happening.extend,target,read,Except.toOption]
          rw [taken]
          refine ⟨⟨punctual.routes,after⟩,?_⟩
          dsimp only
          rw [moved]
          cases batch with
          | nil =>
            simp only [List.isEmpty_nil,Bool.not_true,Bool.or_false]
            exact .still brought
          | cons event rest =>
            simp only [List.isEmpty_cons,Bool.not_false,Bool.or_true]
            exact .requested (by simp [brought])
      | reset =>
        obtain ⟨after,same⟩ := punctual.session.reset
        simp only [Happening.extend,target,answer]
        refine ⟨⟨punctual.routes,after⟩,?_⟩
        rw [same]
        exact .still (by simp [Happening.extend,target])
      | _ =>
        simp only [Happening.extend,target,answer]
        exact ⟨punctual,.still (by simp [Happening.extend,target])⟩

theorem Punctual.after (punctual : Punctual events s) (happenings : List Happening) :
    Punctual (happenings.foldl Happening.extend events) (s.after happenings) := by
  induction happenings generalizing events s with
  | nil => exact punctual
  | cons happening rest ih => exact ih (punctual.on happening).1

/-- While nothing is pending and no event is accepted, nothing moves. -/
theorem Punctual.rests (punctual : Punctual events s) (settled : s.session.status.pending = false)
    {happenings : List Happening} (nothing : ∀ happening ∈ happenings, happening.extend [] = []) :
    (s.after happenings).session.status = s.session.status := by
  induction happenings generalizing events s with
  | nil => rfl
  | cons happening rest ih =>
    obtain ⟨first,others⟩ := List.forall_mem_cons.mp nothing
    obtain ⟨next,moves⟩ := punctual.on happening
    have same := moves.rests settled first
    exact (ih next (same ▸ settled) others).trans same

theorem Punctual.close (punctual : Punctual events s) : Punctual events s.close ∧
    s.close.session.status =
      if s.session.status.pending then s.session.status.observed s.session.results.shots.length
      else s.session.status := by
  obtain ⟨after,told⟩ := punctual.session.close
  refine ⟨⟨punctual.routes,after⟩,?_⟩
  rw [← ShotLog.length_shots] at told
  exact told

end Service

end Http

end ShotRecorder
