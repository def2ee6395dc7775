import ShotRecorder.Proofs.Operations

/-!
Hubs whose observers only look. What is done with such a hub can be told exactly, but for the log and for how
often an observer was called: an event of a producer is applied to the shots, requests a refresh and is then seen
by the observers of its kind (`exec_publish_event`), and a refresh that fires is seen by the observers of
refreshes (`exec_fireRefresh_seen`). Nobody fails unless the timer does.
-/
namespace ShotRecorder

/-- Neither is a signal published at this moment, nor are shots dropped, nor does a refresh fire. -/
def Moment.isAside {τ : Type} (moment : Moment τ) : Bool :=
  match moment.occurrence with
  | .call _ _ _ | .record _ | .request => true
  | _ => false

namespace Hub
open Run

variable {τ : Type}

/-- Observers that do nothing when they are called. -/
def Onlookers (cast : Cast τ) : Prop := ∀ pair ∈ cast, ∀ n, pair.2.script n = []

/-- What there is to see when observers are called with a signal. -/
def sightings (names : List String) (signal : Signal) (view : View) : Array (Sighting τ) :=
  (names.map fun name => .call name signal view).toArray

/-- Moments in which nothing begins. -/
def Asides (fresh : List (Moment τ)) : Prop := ∀ moment ∈ fresh, moment.isAside = true

theorem Asides.nil : Asides ([] : List (Moment τ)) := fun _ member => absurd member List.not_mem_nil

theorem Asides.cons {fresh : List (Moment τ)} (asides : Asides fresh) {moment : Moment τ}
    (aside : moment.isAside = true) : Asides (moment :: fresh) :=
  List.forall_mem_cons.mpr ⟨aside,asides⟩

theorem Asides.append {fresh older : List (Moment τ)} (newer : Asides fresh) (asides : Asides older) :
    Asides (fresh ++ older) :=
  List.forall_mem_append.mpr ⟨newer,asides⟩

/-- The turn of a listener that is registered, and whose call comes to an end. -/
theorem exec_turn [Clock τ] {cast : Cast τ} {performer : Performer (Account τ) τ} {router place : Nat} {kind : String}
    {listener : Listener} {account left : Account τ}
    (registered : (account.hub.registry router).has kind listener = true)
    (called : (call cast performer place listener).exec
      { account with past := { occurrence := .call listener router place, hub := account.hub } :: account.past } =
        (.ok (),left)) :
    ((dispatch cast performer router kind place).turn listener).exec account = (.ok none,left) := by
  have asked : ((dispatch cast performer router kind place).registered listener).exec account = (.ok true,account) := by
    simp only [dispatch,exec_bind,exec_look,hub_account,registered]
    rfl
  have ran : ((dispatch cast performer router kind place).call listener).exec account = (.ok (),left) := by
    simp only [dispatch]
    rw [exec_bind,exec_note]
    exact called
  unfold Dispatch.turn
  rw [exec_bind,asked]
  simp only [↓reduceIte]
  rw [exec_bind,exec_attempt,ran]
  rfl

section

variable [Clock τ] {cast : Cast τ} (onlookers : Onlookers cast) (depth : Nat)
include onlookers

theorem exec_call_onlooker {name : String} {place : Nat} {signal : Signal} {account : Account τ}
    (found : account.hub.signals[place]? = some signal) :
    (call cast (perform cast depth) place (.observer name)).exec account =
      (.ok (),{ account with hub := (account.hub.counted name).saw (.call name signal account.hub.view) }) := by
  unfold call callObserver
  rw [exec_bind,exec_signalAt,found]
  dsimp only
  rw [exec_bind,exec_look]
  dsimp only
  rw [exec_bind,exec_change]
  dsimp only [hub_account,put_account]
  cases listed : cast.lookup name with
  | none => rfl
  | some observer =>
    obtain ⟨before,after,split,-⟩ := List.lookup_eq_some_iff.mp listed
    have still := onlookers (name,observer) (by simp [split]) (account.hub.callCount name)
    dsimp only at still ⊢
    rw [still]
    cases depth <;> rfl

/-- Onlookers see the signal, one after the other. -/
theorem exec_deliver_onlookers (router : Nat) (kind : String) {place : Nat} {signal : Signal} (names : List String)
    {account : Account τ} (found : account.hub.signals[place]? = some signal)
    (registered : ∀ name ∈ names, (account.hub.registry router).has kind (.observer name) = true) :
    ∃ calls fresh, Asides fresh ∧
      ((dispatch cast (perform cast depth) router kind place).deliver (names.map .observer)).exec account =
        (.ok [],
          { hub := { account.hub with calls, seen := account.hub.seen ++ sightings names signal account.hub.view }
            past := fresh ++ account.past }) := by
  induction names generalizing account with
  | nil => exact ⟨account.hub.calls,[],Asides.nil,by simp [Dispatch.deliver,sightings]⟩
  | cons name names ih =>
    let called : Account τ :=
      { hub := (account.hub.counted name).saw (.call name signal account.hub.view)
        past := { occurrence := .call (.observer name) router place, hub := account.hub } :: account.past }
    have turn : ((dispatch cast (perform cast depth) router kind place).turn (.observer name)).exec account =
        (.ok none,called) :=
      exec_turn (registered name (by simp)) (exec_call_onlooker onlookers depth found)
    obtain ⟨calls,fresh,asides,ran⟩ :=
      @ih called found fun other member => registered other (by simp [member])
    have one : Asides [({ occurrence := .call (.observer name) router place, hub := account.hub } : Moment τ)] :=
      Asides.nil.cons rfl
    refine ⟨calls,fresh ++ [_],asides.append one,?_⟩
    rw [List.map_cons,Dispatch.deliver,exec_bind,turn]
    dsimp only
    rw [exec_bind,ran]
    have view : called.hub.view = account.hub.view := rfl
    have seen : called.hub.seen ++ sightings names signal called.hub.view =
        account.hub.seen ++ sightings (name :: names) signal account.hub.view := by
      rw [view]
      simp [called,saw,counted,sightings]
    rw [seen]
    simp [called,saw,counted]

end

/-! ### Requests and refreshes -/

section

variable [Clock τ]

/-- A fresh signal that is published is kept, and brought to those who listen to its kind. -/
theorem exec_publish_fresh (cast : Cast τ) (performer : Performer (Account τ) τ) (context : Option Nat) (signal : Signal)
    (router : Nat) (account : Account τ) :
    let placed : Hub τ := { account.hub with signals := account.hub.signals.push signal }
    ∃ log, (act cast performer context (.publish (.fresh (.ok signal)) router)).exec account =
      let ended := ((dispatch cast performer router signal.kind account.hub.signals.size).deliver
        ((account.hub.registry router).listeners signal.kind)).exec
          { hub := { placed with log }
            past := { occurrence := .publish router account.hub.signals.size, hub := placed } :: account.past }
      (ended.1.map .failures,ended.2) := by
  intro placed
  let start : Account τ := { account with hub := placed }
  have found : start.hub.signals[account.hub.signals.size]? = some signal := by simp [start,placed]
  obtain ⟨log,published⟩ := exec_publishAt_logs cast performer found router
  refine ⟨log,?_⟩
  unfold act
  rw [exec_bind,exec_place]
  dsimp only
  rw [exec_map,published]
  rfl

/-- A signal that is published is kept, also where nobody listens to it. -/
theorem exec_publish_unheard (cast : Cast τ) (performer : Performer (Account τ) τ) (context : Option Nat)
    {signal : Signal} {account : Account τ} (nobody : (account.hub.registry 0).listeners signal.kind = []) :
    let placed : Hub τ := { account.hub with signals := account.hub.signals.push signal }
    ∃ log, (act cast performer context (.publish (.fresh (.ok signal)) 0)).exec account =
      (.ok (.failures []),
        { hub := { placed with log }
          past := { occurrence := .publish 0 account.hub.signals.size, hub := placed } :: account.past }) := by
  intro placed
  obtain ⟨log,published⟩ := exec_publish_fresh cast performer context signal 0 account
  refine ⟨log,?_⟩
  rw [published,nobody]
  rfl

/-- What becomes of a request for a refresh, and the hub it leaves. -/
def request (hub : Hub τ) : Except Fault Bool × Hub τ :=
  if hub.scheduler.pending then (.ok false,hub)
  else
    let (answer,timer) := hub.timer.schedule hub.scheduler.delay .refresh
    (answer,{ hub with timer, scheduler := { hub.scheduler with pending := isYes answer } })

theorem exec_notify_request (account : Account τ) : ∃ log fresh, Asides fresh ∧
    notify.exec account =
      (account.hub.request.1,{ hub := { account.hub.request.2 with log }, past := fresh ++ account.past }) := by
  cases idle : account.hub.scheduler.pending with
  | true => exact ⟨account.hub.log,[],Asides.nil,by simp [exec_notify_of_pending idle,request,idle]⟩
  | false =>
    rcases scheduled : account.hub.timer.schedule account.hub.scheduler.delay .refresh with ⟨answer,timer⟩
    obtain ⟨log,ran⟩ := exec_notify_logs idle scheduled
    refine ⟨log,[{ occurrence := .request, hub := account.hub }],Asides.nil.cons rfl,?_⟩
    rw [ran]
    simp [request,idle,scheduled]

/-- A hub whose recorder has taken an event of a producer, and requested a refresh. -/
def taking (hub : Hub τ) (recorder : Recorder) (event : Event) : Hub τ :=
  { hub.request.2 with recorder := some { recorder with shots := recorder.shots.apply event } }

/-- Requests have to do with the scheduler and the timer alone. -/
theorem request_congr (hub other : Hub τ) (scheduler : other.scheduler = hub.scheduler)
    (timer : other.timer = hub.timer) :
    other.request =
      (hub.request.1,{ other with timer := hub.request.2.timer, scheduler := hub.request.2.scheduler }) := by
  obtain ⟨whole,routers,recorder,_,_,signals,subscriptions,calls,threshold,log,seen⟩ := other
  obtain rfl := scheduler
  obtain rfl := timer
  unfold request
  dsimp only
  split <;> rfl

theorem request_frame (hub : Hub τ) :
    hub.request.2 = { hub with timer := hub.request.2.timer, scheduler := hub.request.2.scheduler } := by
  unfold request
  split <;> rfl

theorem taking_congr (hub other : Hub τ) (scheduler : other.scheduler = hub.scheduler)
    (timer : other.timer = hub.timer) (recorder : Recorder) (event : Event) :
    other.taking recorder event =
      { other with
        recorder := some { recorder with shots := recorder.shots.apply event }
        timer := hub.request.2.timer
        scheduler := hub.request.2.scheduler } := by
  unfold taking
  rw [request_congr hub other scheduler timer]

/-- What becomes of the request that a recorder makes once it has taken an event, if it makes one. -/
def asked (hub : Hub τ) (recorder : Recorder) : Except Fault Bool × Hub τ :=
  if recorder.notifies then hub.request else (.ok false,hub)

theorem asked_congr (hub other : Hub τ) (scheduler : other.scheduler = hub.scheduler) (timer : other.timer = hub.timer)
    (recorder : Recorder) :
    other.asked recorder =
      ((hub.asked recorder).1,
        { other with timer := (hub.asked recorder).2.timer, scheduler := (hub.asked recorder).2.scheduler }) := by
  unfold asked
  split
  · exact request_congr hub other scheduler timer
  · simp [← scheduler,← timer]

/-- An event of a producer that is brought to the recorder is taken, however the request for a refresh ends. -/
theorem exec_record_asked {event : Event} (produced : (Signal.event event).produced? = some event) {account : Account τ}
    {recorder : Recorder} (present : account.hub.recorder = some recorder) :
    ∃ log fresh, Asides fresh ∧ (record (.event event)).exec account =
      ((account.hub.asked recorder).1.map fun _ => (),
        { hub := { (account.hub.asked recorder).2 with
            recorder := some { recorder with shots := recorder.shots.apply event }, log }
          past := fresh ++ account.past }) := by
  obtain ⟨before,after,ran⟩ := exec_record produced present
  let applied : Account τ :=
    { hub := { account.hub with recorder := some { recorder with shots := recorder.shots.apply event }, log := after }
      past := { occurrence := .record event, hub := { account.hub with log := before } } :: account.past }
  have one : Asides [({ occurrence := .record event, hub := { account.hub with log := before } } : Moment τ)] :=
    Asides.nil.cons rfl
  unfold asked
  by_cases notifies : recorder.notifies = true
  · obtain ⟨log,fresh,asides,requested⟩ := exec_notify_request applied
    have recorded : (record (.event event)).exec account = (discard notify).exec applied :=
      ran.trans (congrArg (fun x : Run (Account τ) Unit => x.exec applied) (if_pos notifies))
    refine ⟨log,fresh ++ [_],asides.append one,?_⟩
    rw [recorded,exec_discard,requested,request_congr account.hub applied.hub rfl rfl,if_pos notifies,
      request_frame account.hub]
    simp [applied]
  · refine ⟨after,[_],one,?_⟩
    rw [if_neg notifies]
    exact ran.trans (congrArg (fun x : Run (Account τ) Unit => x.exec applied) (if_neg notifies))

/-- A call of the recorder with an event of a producer. -/
theorem exec_call_asked {event : Event} (produced : (Signal.event event).produced? = some event) {account : Account τ}
    {recorder : Recorder} (present : account.hub.recorder = some recorder) (cast : Cast τ)
    (performer : Performer (Account τ) τ) {place : Nat} (found : account.hub.signals[place]? = some (.event event)) :
    ∃ log fresh, Asides fresh ∧ (call cast performer place .recorder).exec account =
      ((account.hub.asked recorder).1.map fun _ => (),
        { hub := { (account.hub.asked recorder).2 with
            recorder := some { recorder with shots := recorder.shots.apply event }, log }
          past := fresh ++ account.past }) := by
  obtain ⟨log,fresh,asides,recorded⟩ := exec_record_asked produced present
  refine ⟨log,fresh,asides,?_⟩
  unfold call
  rw [exec_bind,exec_signalAt,found]
  exact recorded

variable {cast : Cast τ} (onlookers : Onlookers cast) (depth : Nat)

section

variable {event : Event} (produced : (Signal.event event).produced? = some event) {account : Account τ}
  {recorder : Recorder} (present : account.hub.recorder = some recorder) (notifies : recorder.notifies = true)
  {armed : Bool} (answered : account.hub.request.1 = .ok armed) {names : List String}
include produced present notifies answered

/-- A call of the recorder with an event of a producer, where the request that it makes is answered. -/
theorem exec_call_recorder {place : Nat} (found : account.hub.signals[place]? = some (.event event)) :
    ∃ log fresh, Asides fresh ∧
      (call cast (perform cast depth) place .recorder).exec account =
        (.ok (),{ hub := { account.hub.taking recorder event with log }, past := fresh ++ account.past }) := by
  obtain ⟨log,fresh,asides,called⟩ := exec_call_asked produced present cast (perform cast depth) found
  have asks : account.hub.asked recorder = account.hub.request := if_pos notifies
  refine ⟨log,fresh,asides,?_⟩
  rw [called,asks,answered]
  rfl

include onlookers

/-- The recorder takes the event before onlookers see it. -/
theorem exec_deliver_event (router : Nat) (kind : String) {place : Nat}
    (found : account.hub.signals[place]? = some (.event event))
    (registered : ∀ listener ∈ (.recorder :: names.map .observer : List Listener),
      (account.hub.registry router).has kind listener = true) :
    ∃ calls log fresh, Asides fresh ∧
      ((dispatch cast (perform cast depth) router kind place).deliver (.recorder :: names.map .observer)).exec account =
        (.ok [],
          { hub := { account.hub.taking recorder event with
              calls, log
              seen := account.hub.seen ++ sightings names (.event event) (account.hub.taking recorder event).view }
            past := fresh ++ account.past }) := by
  let calling : Account τ :=
    { account with past := { occurrence := .call .recorder router place, hub := account.hub } :: account.past }
  obtain ⟨log,recording,asides,called⟩ :=
    @exec_call_recorder _ _ cast depth _ produced calling _ present notifies _ answered _ found
  let recorded : Account τ :=
    { hub := { account.hub.taking recorder event with log }, past := recording ++ calling.past }
  have turn : ((dispatch cast (perform cast depth) router kind place).turn .recorder).exec account =
      (.ok none,recorded) := exec_turn (registered .recorder (by simp)) called
  have kept : recorded.hub.signals[place]? = some (.event event) := by
    simp only [recorded,taking]
    rw [request_frame]
    exact found
  have seen : recorded.hub.seen = account.hub.seen := by
    simp only [recorded,taking]
    rw [request_frame]
  have routers : recorded.hub.registry router = account.hub.registry router := by
    simp only [recorded,taking,Hub.registry]
    rw [request_frame]
  obtain ⟨calls,looking,looked,delivered⟩ :=
    @exec_deliver_onlookers _ _ cast onlookers depth router kind _ _ names recorded kept fun name member => by
      rw [routers]
      exact registered _ (by simp [member])
  -- The onlookers look after the recorder took the event, so they see the shots with it.
  have one : Asides [({ occurrence := .call .recorder router place, hub := account.hub } : Moment τ)] :=
    Asides.nil.cons rfl
  refine ⟨calls,log,looking ++ (recording ++ [_]),looked.append (asides.append one),?_⟩
  rw [Dispatch.deliver,exec_bind,turn]
  dsimp only
  rw [exec_bind,delivered,seen]
  have view : recorded.hub.view = (account.hub.taking recorder event).view := rfl
  rw [view]
  simp [recorded,calling]

/-- An event of a producer that is published is recorded, and seen by the onlookers of its kind. -/
theorem exec_publish_event (context : Option Nat)
    (listeners : (account.hub.registry 0).listeners event.kind.name = .recorder :: names.map .observer) :
    let placed : Hub τ := { account.hub with signals := account.hub.signals.push (.event event) }
    ∃ calls log fresh, Asides fresh ∧
      (act cast (perform cast depth) context (.publish (.fresh (.ok (.event event))) 0)).exec account =
        (.ok (.failures []),
          { hub := { placed.taking recorder event with
              calls, log
              seen := account.hub.seen ++ sightings names (.event event) (placed.taking recorder event).view }
            past := fresh ++ { occurrence := .publish 0 account.hub.signals.size, hub := placed } :: account.past }) := by
  intro placed
  obtain ⟨told,published⟩ := exec_publish_fresh cast (perform cast depth) context (.event event) 0 account
  let announced : Account τ :=
    { hub := { placed with log := told }
      past := { occurrence := .publish 0 account.hub.signals.size, hub := placed } :: account.past }
  have answered' : announced.hub.request.1 = .ok armed := by
    rw [request_congr account.hub announced.hub rfl rfl]
    exact answered
  have found : announced.hub.signals[account.hub.signals.size]? = some (.event event) := by simp [announced,placed]
  have registered : ∀ listener ∈ (.recorder :: names.map .observer : List Listener),
      (announced.hub.registry 0).has event.kind.name listener = true := by
    intro listener member
    rw [← listeners] at member
    exact Registry.mem_listeners.mp member
  obtain ⟨calls,log,fresh,asides,delivered⟩ :=
    @exec_deliver_event _ _ cast onlookers depth _ produced announced _ present notifies _ answered' names 0
      event.kind.name _ found registered
  refine ⟨calls,log,fresh,asides,?_⟩
  have taken : announced.hub.taking recorder event = { placed.taking recorder event with log := told } := by
    rw [taking_congr account.hub announced.hub rfl rfl,taking_congr account.hub placed rfl rfl]
  rw [taken] at delivered
  have order : (account.hub.registry 0).listeners (Signal.event event).kind = .recorder :: names.map .observer :=
    listeners
  rw [published,order]
  exact congrArg
    (fun ended : Except Fault (List Failure) × Account τ => (ended.1.map (Reply.failures (τ := τ)),ended.2)) delivered

end

include onlookers

/-- A refresh that fires is seen by the onlookers of refreshes. -/
theorem exec_fireRefresh_seen {account : Account τ} {names : List String}
    (listeners : (account.hub.registry 0).listeners Kind.refresh.name = names.map .observer) :
    ∃ calls log before fresh, Asides fresh ∧
      (fireRefresh cast (perform cast depth)).exec account =
        (.ok (),
          { hub := { account.hub.refreshing with
              calls, log
              seen := account.hub.seen ++ sightings names (.event .refresh) account.hub.refreshing.view }
            past := fresh ++
              { occurrence := .publish 0 account.hub.signals.size
                hub := { account.hub.refreshing with log := before } } ::
              { occurrence := .refresh, hub := account.hub } :: account.past }) := by
  obtain ⟨before,log,fired⟩ := exec_fireRefresh_logs cast (perform cast depth) account
  let begun : Account τ :=
    { hub := { account.hub.refreshing with log }
      past := { occurrence := .publish 0 account.hub.signals.size
                hub := { account.hub.refreshing with log := before } } ::
        { occurrence := .refresh, hub := account.hub } :: account.past }
  have found : begun.hub.signals[account.hub.signals.size]? = some (.event .refresh) := by simp [begun,refreshing]
  obtain ⟨calls,fresh,asides,delivered⟩ :=
    @exec_deliver_onlookers _ _ cast onlookers depth 0 Kind.refresh.name _ _ names begun found fun name member => by
      refine Registry.mem_listeners.mp ?_
      have member' : Listener.observer name ∈ (account.hub.registry 0).listeners Kind.refresh.name := by
        rw [listeners]
        exact List.mem_map_of_mem member
      exact member'
  refine ⟨calls,log,before,fresh,asides,?_⟩
  rw [fired,listeners,exec_discard]
  have ended := congrArg (fun ended : Except Fault (List Failure) × Account τ => (ended.1.map fun _ => (),ended.2))
    delivered
  exact ended

end

end Hub

end ShotRecorder
