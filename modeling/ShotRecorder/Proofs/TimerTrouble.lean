import ShotRecorder.Proofs.ArrivalOrder
import ShotRecorder.Proofs.Onlookers
import ShotRecorder.Proofs.Sustained

/-!
The trouble of timers does not reach the shots. The recorder takes an event before it requests a refresh, so that it
has taken the event however the request ends (`Attached.publishes`, `Attached.handles`), and what is done on the side
of refreshes brings nothing to the recorder as long as those who see refreshes only read (`sustained_standsBy`). So the
shots are those of the deeds alone, and two hubs with the same deeds have the same shots, whatever their timers, delays
and observers do (`shots_regardless_of_timer`). A request that fails is reported as a failure of the recorder, and
leaves nothing pending.
-/
namespace ShotRecorder

variable {τ : Type}

namespace Action

/-- Actions that read, and change nothing. -/
def Reads : Action τ → Prop
  | countListeners _ _ | listKinds _ | readDelay | readShots | scribble | summarize => True
  | _ => False

/-- Actions on the side of refreshes: to request and to fire them, to move the time of the timer, to arm it for
    something that reads or to disarm it, and to read. -/
def Refreshes : Action τ → Prop
  | notify | flush | advance _ | fire | disarm | sleep _ => True
  | arm _ _ actions => ∀ action ∈ actions, action.Reads
  | action => action.Reads

theorem Reads.refreshes {action : Action τ} (reads : action.Reads) : action.Refreshes := by
  cases action <;> first | exact reads | exact reads.elim

end Action

namespace Hub
open Run

/-- What is done to a recorder and around it: events of producers reach it through a router or by themselves, its shots
    are dropped, and refreshes are seen to. -/
inductive Dealing (τ : Type) where
  | published (event : Event) (producer : event.kind ∈ Kind.producers)
  | handled (event : Event) (producer : event.kind ∈ Kind.producers)
  | cleared
  | aside (action : Action τ) (refreshes : action.Refreshes)

namespace Dealing

/-- The action by which it is done, where the recorder is attached to a router. -/
def action (router : Nat) : Dealing τ → Action τ
  | published event _ => .publish (.fresh (.ok (.event event))) router
  | handled event _ => .handle (.fresh (.ok (.event event)))
  | cleared => .clear
  | aside action _ => action

/-- What it does to the shots, if that is anything. -/
def deed? : Dealing τ → Option Deed
  | published event _ | handled event _ => some (.apply event)
  | cleared => some .reset
  | aside _ _ => none

/-- The shots after it. -/
def on (shots : ShotLog) (dealing : Dealing τ) : ShotLog := (dealing.deed?.map (Deed.on shots)).getD shots

end Dealing

/-- A recorder that is the only listener to producers on a router and does not listen to refreshes, on a hub whose timer
    calls back for nothing but refreshes and readings. -/
structure Attached (router : Nat) (recorder : Recorder) (hub : Hub τ) : Prop where
  present : hub.recorder = some recorder
  alone : ∀ kind ∈ Kind.producers, (hub.registry router).listeners kind.name = [.recorder]
  apart : .recorder ∉ (hub.registry 0).listeners Kind.refresh.name
  quiet : ∀ callback ∈ hub.timer.device.callbacks, ∀ action ∈ actionsOf callback, action.Reads

variable {router : Nat} {recorder : Recorder} {hub : Hub τ} {account : Account τ}

theorem Attached.congr (attached : Attached router recorder hub) {hub' : Hub τ} {recorder' : Recorder}
    (routers : hub'.routers = hub.routers) (present : hub'.recorder = some recorder')
    (quiet : ∀ callback ∈ hub'.timer.device.callbacks, ∀ action ∈ actionsOf callback, action.Reads) :
    Attached router recorder' hub' where
  present := present
  alone := by
    unfold registry
    rw [routers]
    exact attached.alone
  apart := by
    unfold registry
    rw [routers]
    exact attached.apart
  quiet := quiet

theorem Attached.shots (attached : Attached router recorder hub) : hub.shots = recorder.shots := by
  simp [Hub.shots,attached.present]

/-- What stands by while refreshes are seen to. -/
def StandsBy (router : Nat) (recorder : Recorder) (account : Account τ) : Prop := Attached router recorder account.hub

theorem plain_standsBy : Plain (StandsBy (τ := τ) router recorder) := by
  refine plain_of_parts fun account => ⟨fun attached => ?_,fun attached => ?_⟩
  all_goals exact Attached.congr attached rfl attached.present attached.quiet

variable [Clock τ]

/-- Whoever the timer is armed for, it calls back for nothing else. -/
theorem Attached.scheduled (attached : Attached router recorder hub) (delay : τ) {callback : Callback τ}
    (reads : ∀ action ∈ actionsOf callback, action.Reads) :
    Attached router recorder { hub with timer := (hub.timer.schedule delay callback).2 } := by
  refine attached.congr rfl attached.present fun held member => ?_
  rcases hub.timer.callbacks_schedule delay callback held member with old | rfl
  · exact attached.quiet held old
  · exact reads

omit [Clock τ] in
theorem Attached.within (attached : Attached router recorder hub) {device : TimerDevice τ (Callback τ)}
    (within : device.Within hub.timer.device) : Attached router recorder (hub.withDevice device) :=
  attached.congr rfl attached.present fun callback member => attached.quiet callback (within.callbacks callback member)

/-- What the recorder requests leaves it where it is. -/
theorem Attached.asked (attached : Attached router recorder hub) : Attached router recorder (hub.asked recorder).2 := by
  unfold Hub.asked request
  split
  · split
    · exact attached
    · have reads : ∀ action ∈ actionsOf (Callback.refresh : Callback τ), action.Reads := by simp [actionsOf]
      exact (attached.scheduled hub.scheduler.delay reads).congr rfl attached.present
        (attached.scheduled hub.scheduler.delay reads).quiet
  · exact attached

section

variable {cast : Cast τ} (reading : ∀ pair ∈ cast, ∀ n, ∀ action ∈ pair.2.script n, action.Reads)
include reading

theorem keeps_fireRefresh_standsBy {depth : Nat}
    (performed : Performed cast Action.Refreshes (StandsBy router recorder) depth) :
    Keeps (StandsBy router recorder) (fireRefresh cast (perform cast depth)) := by
  intro account attached
  obtain ⟨before,after,ran⟩ := exec_fireRefresh_logs cast (perform cast depth) account
  rw [ran]
  refine Keeps.discard (keeps_deliver plain_standsBy 0 _ _ _ fun listener member => ?_) _
    (Attached.congr attached rfl attached.present attached.quiet)
  cases listener with
  | recorder => exact absurd member attached.apart
  | observer name =>
    have noted : Keeps (StandsBy (τ := τ) router recorder) (note (.call (.observer name) 0 account.hub.signals.size)) :=
      fun _ held => held
    refine noted.bind fun _ => keeps_callObserver plain_standsBy name _ fun observer known n => ?_
    exact performed _ _ fun action among => (reading (name,observer) known n action among).refreshes

/-- Nothing on the side of refreshes reaches the recorder. -/
theorem sustained_standsBy : Sustained cast Action.Refreshes (StandsBy router recorder) := by
  have passed : ∀ {account : Account τ} {later}, account.hub.timer.device.Passes later →
      StandsBy router recorder account → StandsBy router recorder { account with hub := account.hub.withDevice later } :=
    fun passes attached => Attached.within attached passes.within
  have called : ∀ {depth}, Performed cast Action.Refreshes (StandsBy router recorder) depth →
      ∀ {account : Account τ} {callback later}, account.hub.timer.device.Calls callback later →
        StandsBy router recorder account →
          StandsBy router recorder ((fireCallback cast (perform cast depth) callback).exec
            { account with hub := account.hub.withDevice later }).2 := by
    intro depth performed account callback later calls attached
    obtain ⟨within,member,-⟩ := calls.within
    have woken := Attached.within attached within
    cases callback with
    | refresh => exact keeps_fireRefresh_standsBy reading performed _ woken
    | custom label actions =>
      have reads : ∀ action ∈ actions, action.Refreshes := fun action among =>
        (attached.quiet _ member action among).refreshes
      exact ((keeps_saw plain_standsBy fun hub => .timer label hub.view).bind fun _ => performed none actions reads) _
        woken
  refine
    { plain := plain_standsBy
      placed := fun _ attached => Attached.congr attached rfl attached.present attached.quiet
      amended := fun _ _ attached => Attached.congr attached rfl attached.present attached.quiet
      published := fun permitted => permitted.elim
      handled := fun permitted => permitted.elim
      subscribed := fun permitted => permitted.elim
      unsubscribed := fun permitted => permitted.elim
      cancelled := fun permitted => permitted.elim
      notified := fun _ => keeps_notify plain_standsBy (fun _ held => held) ?_ ?_
      flushed := fun _ depth performed => ?_
      advanced := fun _ depth performed => keeps_advance passed (called performed) _
      fired := fun _ depth performed => keeps_fire (called performed)
      disarmed := fun _ _ attached => Attached.within attached (TimerDevice.disarm_within _)
      armed := fun permitted _ attached => Attached.scheduled attached _ permitted
      slept := fun _ depth performed => keeps_sleep passed (called performed) _
      cleared := fun permitted => permitted.elim
      attached := fun permitted => permitted.elim
      detached := fun permitted => permitted.elim }
  · exact fun account attached => Attached.scheduled attached _ (by simp [actionsOf])
  · exact fun account attached => Attached.congr attached rfl attached.present attached.quiet
  · refine keeps_look_bind fun account attached => ?_
    split
    · rw [exec_bind,exec_change]
      refine leads_bind (keeps_fireRefresh_standsBy reading performed _ ?_) fun _ => keeps_pure _
      exact Attached.within attached (TimerDevice.disarm_within _)
    · exact attached

end

/-! ### Deeds -/

/-- How a dispatch to a recorder alone ends, given what became of the request that the recorder made. -/
def reported {α : Type} (kind : String) : Except Fault α → Except Fault (List Failure)
  | .ok _ => .ok []
  | .error fault =>
    if fault.isOrdinary then .ok [{ kind, listener := "ShotAggregator.handle", fault }] else .error fault

theorem exec_deliver_recorder {cast : Cast τ} {performer : Performer (Account τ) τ} {kind : String} {place : Nat}
    {outcome : Except Fault Unit} {account left : Account τ}
    (registered : (account.hub.registry router).has kind .recorder = true)
    (called : ((dispatch cast performer router kind place).call .recorder).exec account = (outcome,left)) :
    ∃ log, ((dispatch cast performer router kind place).deliver [.recorder]).exec account =
      (reported kind outcome,{ left with hub := { left.hub with log } }) := by
  have asked : ((dispatch cast performer router kind place).registered .recorder).exec account = (.ok true,account) := by
    simp only [dispatch,exec_bind,exec_look,hub_account,registered]
    rfl
  unfold Dispatch.deliver Dispatch.deliver Dispatch.turn
  rw [exec_bind,exec_bind,asked]
  simp only [↓reduceIte]
  rw [exec_bind,exec_attempt,called]
  cases outcome with
  | ok => exact ⟨left.hub.log,rfl⟩
  | error fault =>
    cases ordinary : fault.isOrdinary with
    | false => exact ⟨left.hub.log,by simp [reported,ordinary]⟩
    | true =>
      let text := "Handler " ++ title cast .recorder ++ " failed on " ++ kind ++ " event"
      obtain ⟨log,same⟩ := logged_frame left.hub { level := .error, text, fault := some fault }
      have told : ((dispatch cast performer router kind place).report .recorder fault).exec left =
          (.ok { kind, listener := "ShotAggregator.handle", fault },{ left with hub := { left.hub with log } }) := by
        simp only [dispatch,tell]
        rw [exec_bind,exec_change]
        dsimp only [hub_account,put_account]
        rw [same]
        rfl
      refine ⟨log,?_⟩
      simp only [reported,ordinary,↓reduceIte]
      rw [exec_map,told]
      rfl

theorem reported_map {α β : Type} (kind : String) (f : α → β) (outcome : Except Fault α) :
    reported kind (outcome.map f) = reported kind outcome := by
  cases outcome <;> rfl

/-- An event that is published reaches the recorder, and a request that fails is reported. -/
theorem Attached.publishes (attached : Attached router recorder account.hub) {event : Event}
    (producer : event.kind ∈ Kind.producers) (cast : Cast τ) (performer : Performer (Account τ) τ) :
    ∃ left, (act cast performer none (.publish (.fresh (.ok (.event event))) router)).exec account =
        ((reported event.kind.name (account.hub.asked recorder).1).map .failures,left) ∧
      Attached router { recorder with shots := recorder.shots.apply event } left.hub ∧
      left.hub.scheduler = (account.hub.asked recorder).2.scheduler := by
  obtain ⟨told,published⟩ := exec_publish_fresh cast performer none (.event event) router account
  let placed : Hub τ := { account.hub with signals := account.hub.signals.push (.event event) }
  let announced : Account τ :=
    { hub := { placed with log := told }
      past := { occurrence := .publish router account.hub.signals.size, hub := placed } :: account.past }
  let calling : Account τ :=
    { announced with
      past := { occurrence := .call .recorder router account.hub.signals.size, hub := announced.hub } :: announced.past }
  have ready : Attached router recorder calling.hub := attached.congr rfl attached.present attached.quiet
  have found : calling.hub.signals[account.hub.signals.size]? = some (.event event) := by
    simp [calling,announced,placed]
  obtain ⟨log,fresh,-,called⟩ :=
    exec_call_asked (Signal.produced_event producer) ready.present cast performer found
  have same := asked_congr account.hub calling.hub rfl rfl recorder
  let left : Account τ :=
    { hub := { (calling.hub.asked recorder).2 with
        recorder := some { recorder with shots := recorder.shots.apply event }, log }
      past := fresh ++ calling.past }
  have called' : ((dispatch cast performer router event.kind.name account.hub.signals.size).call .recorder).exec
      announced = ((account.hub.asked recorder).1.map fun _ => (),left) := by
    have answer : (calling.hub.asked recorder).1 = (account.hub.asked recorder).1 := by rw [same]
    simp only [dispatch]
    rw [exec_bind,exec_note,← answer]
    exact called
  have listeners : (account.hub.registry router).listeners (Signal.event event).kind = [.recorder] :=
    attached.alone _ producer
  have registered : (announced.hub.registry router).has event.kind.name .recorder = true :=
    Registry.mem_listeners.mp (listeners ▸ List.mem_singleton.mpr rfl)
  obtain ⟨log',delivered⟩ := exec_deliver_recorder registered called'
  refine ⟨{ left with hub := { left.hub with log := log' } },?_,ready.asked.congr rfl rfl ready.asked.quiet,?_⟩
  · rw [published,listeners]
    have ended := congrArg
      (fun ended : Except Fault (List Failure) × Account τ => (ended.1.map (Reply.failures (τ := τ)),ended.2)) delivered
    rw [reported_map] at ended
    exact ended
  · simp only [left]
    rw [same]

/-- So does an event that is handled, but then nobody holds the fault up. -/
theorem Attached.handles (attached : Attached router recorder account.hub) {event : Event}
    (producer : event.kind ∈ Kind.producers) (cast : Cast τ) (performer : Performer (Account τ) τ) :
    ∃ left, (act cast performer none (.handle (.fresh (.ok (.event event))))).exec account =
        ((account.hub.asked recorder).1.map fun _ => .nothing,left) ∧
      Attached router { recorder with shots := recorder.shots.apply event } left.hub := by
  let placed : Account τ :=
    { account with hub := { account.hub with signals := account.hub.signals.push (.event event) } }
  have ready : Attached router recorder placed.hub := attached.congr rfl attached.present attached.quiet
  obtain ⟨log,fresh,-,recorded⟩ := exec_record_asked (Signal.produced_event producer) ready.present
  have same : (placed.hub.asked recorder).1 = (account.hub.asked recorder).1 := by
    rw [asked_congr account.hub placed.hub rfl rfl recorder]
  let left : Account τ :=
    { hub := { (placed.hub.asked recorder).2 with
        recorder := some { recorder with shots := recorder.shots.apply event }, log }
      past := fresh ++ placed.past }
  refine ⟨left,?_,ready.asked.congr rfl rfl ready.asked.quiet⟩
  unfold act
  rw [exec_bind,exec_place]
  dsimp only
  rw [exec_bind,exec_signalAt]
  simp only [Array.getElem?_push_size]
  rw [exec_bind,recorded,same]
  cases (account.hub.asked recorder).1 <;> rfl

/-- Whatever is done, the recorder stays attached, with the shots of what was done to it. -/
theorem Attached.dealt {cast : Cast τ} (reading : ∀ pair ∈ cast, ∀ n, ∀ action ∈ pair.2.script n, action.Reads)
    (attached : Attached router recorder account.hub) (depth : Nat) (dealing : Dealing τ) :
    Attached router { recorder with shots := dealing.on recorder.shots }
      ((act cast (perform cast depth) none (dealing.action router)).exec account).2.hub := by
  cases dealing with
  | published event producer =>
    obtain ⟨left,ran,after,-⟩ := attached.publishes producer cast (perform cast depth)
    simp only [Dealing.action,ran]
    exact after
  | handled event producer =>
    obtain ⟨left,ran,after⟩ := attached.handles producer cast (perform cast depth)
    simp only [Dealing.action,ran]
    exact after
  | cleared =>
    have dropped : (clearShots.exec account).2.hub.recorder = some { recorder with shots := {} } := by
      simp [exec_clearShots,attached.present]
    have after : Attached router { recorder with shots := {} } (clearShots.exec account).2.hub :=
      attached.congr rfl dropped attached.quiet
    exact leads_bind (I := StandsBy router { recorder with shots := {} }) after fun _ => keeps_pure _
  | aside action refreshes =>
    have sustained : Sustained cast Action.Refreshes (StandsBy router recorder) := sustained_standsBy reading
    exact sustained.act (sustained.perform depth) none action refreshes account attached

theorem Attached.afterAll {cast : Cast τ} (reading : ∀ pair ∈ cast, ∀ n, ∀ action ∈ pair.2.script n, action.Reads)
    (attached : Attached router recorder account.hub) (depth : Nat) (dealings : List (Dealing τ)) :
    Attached router { recorder with shots := dealings.foldl Dealing.on recorder.shots }
      (afterAll cast depth (dealings.map (Dealing.action router)) account).hub := by
  induction dealings generalizing recorder account with
  | nil => exact attached
  | cons dealing rest ih => exact ih (attached.dealt reading depth dealing)

omit [Clock τ] in
theorem foldl_dealings (dealings : List (Dealing τ)) (shots : ShotLog) :
    dealings.foldl Dealing.on shots = (dealings.filterMap Dealing.deed?).foldl Deed.on shots := by
  rw [List.foldl_filterMap]
  congr 1
  funext shots dealing
  unfold Dealing.on
  cases dealing.deed? <;> rfl

theorem notify_answers_request (hub : Hub τ) : ((notify : Run (Hub τ) Bool).exec hub).1 = hub.request.1 := by
  obtain ⟨log,fresh,-,ran⟩ := exec_notify_request ({ hub } : Account τ)
  have same := agrees_notify ({ hub } : Account τ)
  rw [ran] at same
  have answer := congrArg Prod.fst same
  exact answer

theorem request_failed {fault : Fault} (failed : hub.request.1 = .error fault) :
    hub.request.2.scheduler.pending = false := by
  unfold request at failed ⊢
  split at failed
  · cases failed
  · rename_i idle
    rw [if_neg idle]
    dsimp only at failed ⊢
    rw [failed]
    rfl

/-- A request that fails leaves nothing pending. -/
theorem asked_failed {fault : Fault} (failed : (hub.asked recorder).1 = .error fault) :
    (hub.asked recorder).2.scheduler.pending = false := by
  unfold asked at failed ⊢
  by_cases notifies : recorder.notifies = true
  · rw [if_pos notifies] at failed ⊢
    exact request_failed failed
  · rw [if_neg notifies] at failed
    cases failed

/-- How publishing an event to a recorder alone ends is told by how notifying would end. -/
theorem Attached.answers (attached : Attached router recorder hub) {event : Event} (producer : event.kind ∈ Kind.producers)
    (cast : Cast τ) (depth : Nat) :
    let answer := if recorder.notifies then (notify.exec hub).1 else .ok false
    let ended := (act cast (perform cast depth) none (.publish (.fresh (.ok (.event event))) router)).exec hub
    ended.1 = (reported event.kind.name answer).map .failures ∧
      ∀ fault, answer = .error fault → ended.2.scheduler.pending = false := by
  intro answer ended
  have before : Attached router recorder ({ hub } : Account τ).hub := attached
  obtain ⟨left,ran,-,scheduler⟩ := before.publishes producer cast (perform cast depth)
  have agrees : Agrees (act cast (perform cast depth) none (.publish (.fresh (.ok (.event event))) router))
      (act cast (perform cast depth) none (.publish (.fresh (.ok (.event event))) router)) :=
    agrees_act (agrees_perform cast depth) none _
  have same := agrees ({ hub } : Account τ)
  rw [ran] at same
  have answered : answer = (hub.asked recorder).1 := by
    by_cases notifies : recorder.notifies = true
    · simp only [answer,Hub.asked,notifies,↓reduceIte]
      exact notify_answers_request hub
    · simp [answer,Hub.asked,notifies]
  constructor
  · rw [answered]
    exact congrArg Prod.fst same
  · intro fault failed
    have left' : ended.2 = left.hub := congrArg Prod.snd same
    rw [left',scheduler]
    exact asked_failed (answered ▸ failed)

/-- The shots are those of the deeds, so that hubs with the same deeds have the same shots, whatever is done on the side
    of refreshes. An event that is published is reported as a failure of the recorder exactly if its request for a
    refresh fails, and then nothing is pending. -/
theorem shots_regardless_of_timer {cast : Cast τ} (reading : ∀ pair ∈ cast, ∀ n, ∀ action ∈ pair.2.script n, action.Reads)
    {router : Nat} {recorder : Recorder} {hub : Hub τ} (attached : Attached router recorder hub) (depth : Nat)
    (dealings : List (Dealing τ)) :
    let left := Hub.afterAll cast depth (dealings.map (Dealing.action router)) hub
    left.shots = (dealings.filterMap Dealing.deed?).foldl Deed.on hub.shots ∧
      (∀ (cast' : Cast τ) (router' : Nat) (recorder' : Recorder) (hub' : Hub τ) (depth' : Nat)
        (dealings' : List (Dealing τ)), (∀ pair ∈ cast', ∀ n, ∀ action ∈ pair.2.script n, action.Reads) →
        Attached router' recorder' hub' → hub'.shots = hub.shots →
        dealings'.filterMap Dealing.deed? = dealings.filterMap Dealing.deed? →
        let left' := Hub.afterAll cast' depth' (dealings'.map (Dealing.action router')) hub'
        left'.shots.shots = left.shots.shots ∧ left'.shots.isOpen = left.shots.isOpen ∧
          left'.shots.closedCount = left.shots.closedCount) ∧
      ∀ event, event.kind ∈ Kind.producers →
        let answer := if recorder.notifies then (notify.exec left).1 else .ok false
        let ended := (act cast (perform cast depth) none (.publish (.fresh (.ok (.event event))) router)).exec left
        (∀ armed, answer = .ok armed → ended.1 = .ok (.failures [])) ∧
          ∀ fault, answer = .error fault → ended.2.scheduler.pending = false ∧
            ended.1 =
              if fault.isOrdinary then
                .ok (.failures [{ kind := event.kind.name, listener := "ShotAggregator.handle", fault }])
              else .error fault := by
  -- Every run ends with the recorder attached, and its shots are those of the deeds.
  have ends : ∀ {cast : Cast τ} {router : Nat} {recorder : Recorder} {hub : Hub τ} (depth : Nat)
      (dealings : List (Dealing τ)), (∀ pair ∈ cast, ∀ n, ∀ action ∈ pair.2.script n, action.Reads) →
      Attached router recorder hub →
      let left := Hub.afterAll cast depth (dealings.map (Dealing.action router)) hub
      Attached router { recorder with shots := left.shots } left ∧
        left.shots = (dealings.filterMap Dealing.deed?).foldl Deed.on hub.shots := by
    intro cast router recorder hub depth dealings reading attached left
    let start : Account τ := { hub }
    have alone : Attached router recorder start.hub := attached
    have after := alone.afterAll reading depth dealings
    rw [afterAll_hub] at after
    have shots : left.shots = dealings.foldl Dealing.on recorder.shots := after.shots
    exact ⟨shots ▸ after,by rw [shots,foldl_dealings,attached.shots]⟩
  intro left
  obtain ⟨after,shots⟩ := ends depth dealings reading attached
  refine ⟨shots,?_,?_⟩
  · intro cast' router' recorder' hub' depth' dealings' reading' attached' start same left'
    have equal : left'.shots = left.shots := by
      rw [shots,(ends depth' dealings' reading' attached').2,start,same]
    rw [equal]
    exact ⟨rfl,rfl,rfl⟩
  · intro event producer answer ended
    have told := after.answers producer cast depth
    have outcome : ended.1 = (reported event.kind.name answer).map .failures := told.1
    refine ⟨fun armed yes => ?_,fun fault failed => ⟨told.2 fault failed,?_⟩⟩
    · rw [outcome,yes]
      rfl
    · rw [outcome,failed]
      cases ordinary : fault.isOrdinary <;> simp [reported,ordinary,Except.map]

/-- A timer that first fails, then refuses and then accepts, a refresh that is seen by a reader, and a recorder without a
    scheduler whose events are handled. -/
theorem shots_regardless_of_timer_without_loop :
    let reader : Observer Rat := { title := "reader", script := fun _ => [.readShots,.summarize] }
    let timer : Timer Rat (Callback Rat) := { device := .manual .new, troubles := [.fails .noLoop,.refuses] }
    let bare : Hub Rat := { recorder := some {}, scheduler := { delay := 1 }, timer }
    let hub := (bare.subscribed 0).onRouter 0 (·.subscribe Kind.refresh.name (.observer "reader"))
    let bare' : Hub Rat := { recorder := some { notifies := false }, scheduler := { delay := 0 }, timer := .byHand }
    let hub' := bare'.subscribed 0
    let first := Event.message "a"
    let second := Event.result true "b"
    let dealings : List (Dealing Rat) :=
      [.published first (by decide),.published second (by decide),.published first (by decide),
        .aside (.advance 1) trivial,.aside .flush trivial]
    let dealings' : List (Dealing Rat) :=
      [.handled first (by decide),.handled second (by decide),.handled first (by decide)]
    let left := afterAll [("reader",reader)] maxCalls (dealings.map (Dealing.action 0)) hub
    let left' := afterAll [] maxCalls (dealings'.map (Dealing.action 0)) hub'
    let ended := (act [("reader",reader)] (perform [("reader",reader)] maxCalls) none
      (.publish (.fresh (.ok (.event first))) 0)).exec hub
    left'.shots.shots = left.shots.shots ∧ left.shots.count = 2 ∧ left.scheduler.fired = 1 ∧
      ended.1 = .ok (.failures [{ kind := "Message", listener := "ShotAggregator.handle", fault := .noLoop }]) ∧
      ended.2.scheduler.pending = false := by
  intro reader timer bare hub bare' hub' first second dealings dealings' left left' ended
  have attached : Attached 0 {} hub := ⟨rfl,by decide,by decide,nofun⟩
  have attached' : Attached 0 { notifies := false } hub' := ⟨rfl,by decide,by decide,nofun⟩
  have reading : ∀ pair ∈ [("reader",reader)], ∀ n, ∀ action ∈ pair.2.script n, action.Reads := by
    simp [reader,Action.Reads]
  obtain ⟨-,others,-⟩ := shots_regardless_of_timer reading attached maxCalls dealings
  obtain ⟨-,-,reports⟩ := shots_regardless_of_timer reading attached maxCalls []
  obtain ⟨pending,failed⟩ := (reports first (by decide)).2 .noLoop rfl
  exact ⟨(others [] 0 _ hub' maxCalls dealings' (by simp) attached' rfl rfl).1,by decide +kernel,by decide +kernel,failed,
    pending⟩

end Hub
end ShotRecorder
