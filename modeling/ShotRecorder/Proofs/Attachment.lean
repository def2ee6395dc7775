import ShotRecorder.Proofs.MidDelivery
import ShotRecorder.Proofs.Onlookers

/-!
Where the recorder is attached, and how often it takes an event. As long as nobody else touches its subscriptions, the
recorder is registered once for each kind of producers' events on the router it was attached to last, and nowhere else
(`Hub.AttachedAt`), whatever is done, by whom and at which moment. So publishing an event brings it to the recorder at
most once, and if the recorder is neither attached nor detached during the delivery, once on that router and never on
another one (`events_are_applied_once`) — unless a fault that nobody holds up ends the delivery before its turn
(`interrupted_event_is_not_applied`).
-/
namespace ShotRecorder

section
variable {τ : Type}

/-- Leaves the recorder's subscriptions to attaching and detaching it. -/
def Action.spares : Action τ → Bool
  | .subscribe _ listener _ _ | .unsubscribe _ listener _ => listener ≠ .recorder
  | _ => true

/-- Attaches or detaches the recorder. -/
def Action.moves : Action τ → Bool
  | .attach _ | .detach => true
  | _ => false

/-- Tells of no action but those that leave the recorder's subscriptions to attaching and detaching it. -/
def Sighting.spares : Sighting τ → Bool
  | .did action _ => action.spares
  | _ => true

/-- Tells of an action that attaches or detaches the recorder. -/
def Sighting.moves : Sighting τ → Bool
  | .did action _ => action.moves
  | _ => false

end

open Registry

namespace Ledger

variable {τ : Type}

/-- The recorder is registered where it is attached, and nowhere else. -/
structure Neat (start : Hub τ) (ledger : Ledger) : Prop where
  places : ∀ router < start.routers.length, ∀ kind,
    (last? (ledger.on router) kind .recorder).getD ((start.registry router).has kind .recorder) =
      decide (ledger.attachedTo = some router ∧ kind ∈ Kind.producers.map Kind.name)
  kept : ∀ pair ∈ ledger.kept, pair.2.listener ≠ .recorder

theorem last?_moves (joins : Bool) (place router : Nat) (kind : String) :
    last? (changesOn (moves joins place) router) kind .recorder =
      if place = router ∧ kind ∈ Kind.producers.map Kind.name then some joins else none := by
  unfold changesOn moves
  rw [List.filterMap_map]
  by_cases same : place = router
  · simp only [Function.comp_def,same,↓reduceIte,List.filterMap_some,last?_map]
    simp
  · simp [same,last?]

theorem last?_moves_off (attachedTo : Option Nat) (router : Nat) (kind : String) :
    last? (changesOn (attachedTo.toList.flatMap (moves false)) router) kind .recorder =
      if attachedTo = some router ∧ kind ∈ Kind.producers.map Kind.name then some false else none := by
  cases attachedTo with
  | none => simp [changesOn,last?]
  | some place =>
    rw [Option.toList_some,List.flatMap_cons,List.flatMap_nil,List.append_nil,last?_moves]
    simp

/-- A change that is not the recorder's leaves it where it is. -/
theorem Neat.other {start : Hub τ} {ledger : Ledger} (neat : Neat start ledger) (place : Nat) {change : Change Listener}
    (other : change.listener ≠ .recorder) {kept : List (String × Subscription)}
    (others : ∀ pair ∈ kept, pair.2.listener ≠ .recorder) :
    Neat start { ledger with changes := ledger.changes ++ [(place,change)], kept } := by
  refine ⟨fun router inside kind => Eq.trans ?_ (neat.places router inside kind),others⟩
  unfold Ledger.on
  rw [changesOn_append,last?_append]
  by_cases same : place = router
  · simp [changesOn,same,last?_singleton,other]
  · simp [changesOn,same,last?]

/-- An action that spares the recorder's subscriptions keeps them neat. -/
theorem Neat.enter {start : Hub τ} {ledger : Ledger} (neat : Neat start ledger) {action : Action τ}
    (spares : action.spares = true) : Neat start (ledger.enter action) := by
  cases action with
  | subscribe kind listener router token =>
    have other : listener ≠ .recorder := of_decide_eq_true spares
    refine neat.other router other ?_
    cases token with
    | none => exact neat.kept
    | some name =>
      exact List.forall_mem_cons.mpr ⟨other,fun pair member => neat.kept pair (List.mem_filter.mp member).1⟩
  | unsubscribe kind listener router =>
    have other : listener ≠ .recorder := of_decide_eq_true spares
    exact neat.other router other neat.kept
  | cancel token =>
    cases found : ledger.kept.lookup token with
    | none =>
      simp only [Ledger.enter,found]
      exact neat
    | some s =>
      obtain ⟨before,after,split,-⟩ := List.lookup_eq_some_iff.mp found
      simp only [Ledger.enter,found]
      exact neat.other s.router (neat.kept (token,s) (by simp [split])) neat.kept
  | attach router =>
    refine ⟨fun r inside k => ?_,neat.kept⟩
    have before := neat.places r inside k
    unfold Ledger.on at before ⊢
    simp only [Ledger.enter,changesOn_append,last?_append,last?_moves,last?_moves_off]
    grind
  | detach =>
    refine ⟨fun r inside k => ?_,neat.kept⟩
    have before := neat.places r inside k
    unfold Ledger.on at before ⊢
    simp only [Ledger.enter,changesOn_append,last?_append,last?_moves_off]
    grind
  | _ => exact neat

theorem Neat.readAll {start : Hub τ} {ledger : Ledger} (neat : Neat start ledger) {sightings : List (Sighting τ)}
    (spared : ∀ sighting ∈ sightings, sighting.spares = true) : Neat start (ledger.readAll sightings) := by
  induction sightings generalizing ledger with
  | nil => exact neat
  | cons sighting rest ih =>
    refine ih ?_ fun other member => spared other (by simp [member])
    cases sighting with
    | did action reply => exact neat.enter (spared (.did action reply) (by simp))
    | _ => exact neat

theorem attachedTo_readAll (ledger : Ledger) {sightings : List (Sighting τ)}
    (still : ∀ sighting ∈ sightings, sighting.moves = false) :
    (ledger.readAll sightings).attachedTo = ledger.attachedTo := by
  induction sightings generalizing ledger with
  | nil => rfl
  | cons sighting rest ih =>
    refine (ih (ledger.read sighting) fun other member => still other (by simp [member])).trans ?_
    have rests := still sighting (by simp)
    cases sighting with
    | did action reply =>
      cases action with
      | attach _ => simp [Sighting.moves,Action.moves] at rests
      | detach => simp [Sighting.moves,Action.moves] at rests
      | cancel token =>
        simp only [Ledger.read,Ledger.enter]
        split <;> rfl
      | _ => rfl
    | _ => rfl

end Ledger

namespace Hub
open Run Ledger

variable {τ : Type}

/-- The recorder is registered once for each kind of producers' events on the router where it is attached, and nowhere
    else; no subscription of it is kept under a name. -/
structure AttachedAt (hub : Hub τ) (place : Option Nat) : Prop where
  present : hub.recorder.map Recorder.router = some place
  registered : ∀ router < hub.routers.length, ∀ kind, ((hub.registry router).listeners kind).count .recorder =
    if place = some router ∧ kind ∈ Kind.producers.map Kind.name then 1 else 0
  kept : ∀ pair ∈ hub.subscriptions, pair.2.listener ≠ .recorder

theorem count_listeners (r : Registry Listener) (kind : String) (listener : Listener) :
    (r.listeners kind).count listener = if r.has kind listener then 1 else 0 := by
  rw [(r.nodup_listeners kind).count]
  simp only [mem_listeners]

theorem AttachedAt.has {hub : Hub τ} {place : Option Nat} (attached : hub.AttachedAt place) {router : Nat}
    (inside : router < hub.routers.length) (kind : String) :
    (hub.registry router).has kind .recorder = decide (place = some router ∧ kind ∈ Kind.producers.map Kind.name) := by
  have count := attached.registered router inside kind
  rw [count_listeners] at count
  cases registered : (hub.registry router).has kind .recorder <;> simp only [registered] at count <;> grind

theorem AttachedAt.ledger {hub : Hub τ} {place : Option Nat} (attached : hub.AttachedAt place) :
    hub.ledger.attachedTo = place := by
  obtain ⟨recorder,present,rfl⟩ := Option.map_eq_some_iff.mp attached.present
  simp [Hub.ledger,present]

/-- A hub in which the recorder's subscriptions are neat keeps them so, if all that was seen spares them. -/
theorem AttachedAt.later {hub later : Hub τ} {place : Option Nat} (attached : hub.AttachedAt place)
    {sightings : List (Sighting τ)} (told : later.wiring = (hub.ledger.readAll sightings).wiring hub)
    (spared : ∀ sighting ∈ sightings, sighting.spares = true) :
    later.AttachedAt (hub.ledger.readAll sightings).attachedTo := by
  obtain ⟨recorder,present,rfl⟩ := Option.map_eq_some_iff.mp attached.present
  have began : Neat hub hub.ledger := by
    refine ⟨fun router inside kind => ?_,attached.kept⟩
    rw [attached.has inside kind]
    simp [Ledger.on,changesOn,last?,Hub.ledger,present]
  have neat := began.readAll spared
  have parts := told
  simp only [Hub.wiring,Ledger.wiring,Prod.mk.injEq] at parts
  obtain ⟨-,kept,attachedTo⟩ := parts
  refine ⟨?_,fun router inside kind => ?_,kept ▸ neat.kept⟩
  · simp [attachedTo,present]
  · rw [length_of_told told] at inside
    rw [count_listeners,registry_of_told told inside,has_applyAll,neat.places router inside kind]
    simp

/-- As long as nobody attaches or detaches it, the recorder stays attached where it is. -/
theorem AttachedAt.still {hub later : Hub τ} {place : Option Nat} (attached : hub.AttachedAt place)
    {sightings : List (Sighting τ)} (told : later.wiring = (hub.ledger.readAll sightings).wiring hub)
    (quiet : ∀ sighting ∈ sightings, sighting.spares = true ∧ sighting.moves = false) : later.AttachedAt place := by
  have there := attached.later told fun sighting seen => (quiet sighting seen).1
  rwa [attachedTo_readAll _ fun sighting seen => (quiet sighting seen).2,attached.ledger] at there

/-! ### Deliveries of an event -/

/-- What becomes of the recorder in the delivery of an event on a router, if it was attached somewhere when the delivery
    began. -/
structure Applies (hub : Hub τ) (router place : Nat) (event : Event) (attachedTo : Option Nat) (turns : List (Turn τ))
    (ended : Except Fault (List Failure) × Hub τ) : Prop where
  /-- Its call applies the event to the shots, with the state that the event has by then. -/
  applied : ∀ turn ∈ turns, turn.listener = .recorder → turn.outcome.isSome = true → ∃ event',
    turn.before.signals[place]? = some (.event event') ∧ event'.kind = event.kind ∧
      turn.after.shots = turn.before.shots.apply event'
  atMost : (calledIn turns).count .recorder ≤ 1
  elsewhere : attachedTo ≠ some router → .recorder ∉ calledIn turns
  /-- If it is left where it is, it is called once, or else the fault of somebody before it ended the delivery. -/
  here : attachedTo = some router →
    (∀ sighting ∈ hub.since ended.2, sighting.spares = true ∧ sighting.moves = false) →
    (calledIn turns).count .recorder = 1 ∨
      .recorder ∉ calledIn turns ∧ ∃ last fault, turns.getLast? = some last ∧ last.listener ≠ .recorder ∧
        last.interrupt? = some fault ∧ ended.1 = .error fault

theorem event_of_nature {hub : Hub τ} {place : Nat} {event : Event}
    (nature : hub.natureAt place = some (event.kind.name,true)) :
    ∃ event', hub.signals[place]? = some (.event event') ∧ event'.kind = event.kind ∧
      (Signal.event event').produced? = some event' := by
  obtain ⟨signal,found,same⟩ := Option.map_eq_some_iff.mp nature
  obtain ⟨kind,taken⟩ := Prod.mk.inj same
  obtain ⟨event',produced⟩ := Option.isSome_iff_exists.mp taken
  obtain ⟨rfl,-⟩ := Signal.eq_of_produced produced
  refine ⟨event',found,?_,produced⟩
  have names : event'.kind.name = event.kind.name := kind
  cases first : event'.kind <;> cases second : event.kind <;> simp [first,second,Kind.name] at names ⊢

theorem Turn.Chained.rest {start final : Hub τ} {earlier later : List (Turn τ)} {turn : Turn τ}
    (chained : Turn.Chained start (earlier ++ turn :: later) final) :
    Turn.Chained turn.before (turn :: later) final := by
  induction earlier generalizing start with
  | nil => exact ⟨rfl,chained.2⟩
  | cons first earlier ih => exact ih chained.2

/-- What was seen until some moment was seen by any later one. -/
theorem mem_since {start hub between later : Hub τ} {ledger ledger' : Ledger} (first : Traced start ledger hub between)
    (second : Traced between ledger' between later) {sighting : Sighting τ} (seen : sighting ∈ hub.since between) :
    sighting ∈ hub.since later := by
  obtain ⟨fresh,same,-⟩ := first.told
  obtain ⟨more,same',-⟩ := second.told
  unfold since at seen ⊢
  rw [same']
  rw [same] at seen ⊢
  rw [Array.size,List.drop_left] at seen
  rw [Array.size,List.append_assoc,List.drop_left]
  exact List.mem_append_left more seen

theorem mem_calledIn {turns : List (Turn τ)} {listener : Listener} :
    listener ∈ calledIn turns ↔ ∃ turn ∈ turns, turn.listener = listener ∧ turn.outcome.isSome = true := by
  unfold calledIn
  simp only [List.mem_map,List.mem_filter]
  constructor
  · rintro ⟨turn,⟨member,called⟩,same⟩
    exact ⟨turn,member,same,called⟩
  · rintro ⟨turn,member,same,called⟩
    exact ⟨turn,⟨member,called⟩,same⟩

/-- A listener that is called whenever its turn comes is called once, or else the fault of somebody before it ended the
    delivery. -/
theorem EndsAs.once_or_interrupted [Clock τ] {cast : Cast τ} {kind : String} {snapshot : List Listener}
    {turns : List (Turn τ)} {outcome : Except Fault (List Failure)} (ends : EndsAs cast kind snapshot turns outcome)
    (once : (calledIn turns).Nodup) {listener : Listener} (there : listener ∈ snapshot)
    (calls : ∀ turn ∈ turns, turn.listener = listener → turn.outcome.isSome = true) :
    (calledIn turns).count listener = 1 ∨
      listener ∉ calledIn turns ∧ ∃ last fault, turns.getLast? = some last ∧ last.listener ≠ listener ∧
        last.interrupt? = some fault ∧ outcome = .error fault := by
  by_cases reached : listener ∈ turns.map Turn.listener
  · obtain ⟨turn,member,same⟩ := List.mem_map.mp reached
    have called := mem_calledIn.mpr ⟨turn,member,same,calls turn member same⟩
    exact .inl (List.count_eq_one_of_mem once called)
  · refine .inr ⟨fun called => ?_,?_⟩
    · obtain ⟨turn,member,same,-⟩ := mem_calledIn.mp called
      exact reached (List.mem_map.mpr ⟨turn,member,same⟩)
    · cases outcome with
      | ok failures => exact absurd (ends.1.symm ▸ there) reached
      | error fault =>
        obtain ⟨earlier,last,rfl,interrupted,-⟩ := ends
        refine ⟨last,fault,by simp,fun same => reached ?_,interrupted,rfl⟩
        exact List.mem_map.mpr ⟨last,by simp,same⟩

section

variable [Clock τ] (cast : Cast τ) (depth : Nat) {hub : Hub τ} {place router : Nat} {event : Event}

/-- A call of the recorder with a producer's event applies the event, however the request for a refresh ends. -/
theorem call_recorder_applies (found : hub.signals[place]? = some (.event event))
    (produced : (Signal.event event).produced? = some event) {recorder : Recorder}
    (present : hub.recorder = some recorder) :
    ((call cast (perform cast depth) place .recorder).exec hub).2.shots = hub.shots.apply event := by
  have present' : ({ hub } : Account τ).hub.recorder = some recorder := present
  obtain ⟨log,fresh,-,called⟩ := exec_call_asked produced present' cast (perform cast depth) found
  have same : (call cast (perform cast depth) place .recorder).exec hub = _ :=
    agrees_call (agrees_perform cast depth) place .recorder ⟨hub,[]⟩
  rw [same,called]
  simp [shots,present]

variable {cast depth} in
/-- A turn in which the recorder is called applies the event, with the state that the event has by then. -/
theorem Turn.Fits.applies {attachedTo : Option Nat} (attached : hub.AttachedAt attachedTo)
    (found : hub.signals[place]? = some (.event event)) (producer : event.kind ∈ Kind.producers) {turn : Turn τ}
    (fits : turn.Fits cast (perform cast depth) router event.kind.name place)
    (traced : Traced hub hub.ledger hub turn.before) (isRecorder : turn.listener = .recorder)
    (called : turn.outcome.isSome = true) :
    ∃ event', turn.before.signals[place]? = some (.event event') ∧ event'.kind = event.kind ∧
      turn.after.shots = turn.before.shots.apply event' := by
  have nature : hub.natureAt place = some (event.kind.name,true) := by
    simp [natureAt,found,Signal.nature,Signal.produced_event producer,Signal.kind]
  obtain ⟨event',found',kind,produced⟩ := event_of_nature (traced.natures place _ nature)
  have placed : turn.before.recorder.map Recorder.router = _ := congrArg (·.2.2) traced.since.1
  obtain ⟨first,present,-⟩ := Option.map_eq_some_iff.mp attached.present
  simp only [Ledger.wiring,present,Option.map_some] at placed
  obtain ⟨recorder,present',-⟩ := Option.map_eq_some_iff.mp placed
  obtain ⟨outcome,ended⟩ := Option.isSome_iff_exists.mp called
  obtain ⟨left,log,ran,after⟩ := fits.ran outcome ended
  have applied := call_recorder_applies cast depth found' produced present'
  rw [← isRecorder,ran] at applied
  exact ⟨event',found',kind,after ▸ applied⟩

omit depth in
/-- Whatever event of a producer is published, and however deep observers may call each other then, it is brought to the
    recorder as it should be where the recorder is attached. -/
def BringsOnce (hub : Hub τ) (attachedTo : Option Nat) : Prop :=
  ∀ router place event depth, router < hub.routers.length → hub.signals[place]? = some (.event event) →
    event.kind ∈ Kind.producers →
    let snapshot := (hub.registry router).listeners event.kind.name
    let run := (publishAt cast (perform cast depth) router place).exec hub
    ∃ turns : List (Turn τ), ∃ log,
      turns.map Turn.listener <+: snapshot ∧
      (∀ turn ∈ turns, turn.Fits cast (perform cast depth) router event.kind.name place) ∧
      Turn.Chained { hub with log } turns run.2 ∧ EndsAs cast event.kind.name snapshot turns run.1 ∧
      hub.Applies router place event attachedTo turns run

omit depth in
theorem AttachedAt.bringsOnce {attachedTo : Option Nat} (attached : hub.AttachedAt attachedTo) :
    hub.BringsOnce cast attachedTo := by
  intro router place event depth inside found producer snapshot run
  obtain ⟨turns,log,among,fits,chained,ends⟩ := publishAt_turns cast (perform cast depth) router place found
  refine ⟨turns,log,among,fits,chained,ends,?_⟩
  have began : Traced hub hub.ledger hub { hub with log } :=
    (attentive_traced hub hub.ledger hub).unmoved (.of_log hub log) (.refl (wiring_ledger hub).symm)
  have kept : ∀ start ledger (base : Hub τ), ∀ turn ∈ turns, Traced start ledger base turn.before →
      Traced start ledger base turn.after := fun start ledger base turn member =>
    (fits turn member).keeps (attentive_traced start ledger base) (perform_traced start ledger base cast depth)
  have before := (chained.keeps (kept hub hub.ledger hub) began).1
  have once := ((hub.registry router).nodup_listeners event.kind.name).sublist (calledIn_sublist among)
  have named : event.kind.name ∈ Kind.producers.map Kind.name := List.mem_map_of_mem producer
  refine ⟨fun turn member isRecorder called => ?_,List.nodup_iff_count_le_one.mp once _,fun elsewhere called => ?_,
    fun here quiet => ?_⟩
  · exact (fits turn member).applies attached found producer (before turn member) isRecorder called
  · have registered := mem_listeners.mp ((calledIn_sublist among).subset called)
    rw [attached.has inside] at registered
    exact elsewhere (of_decide_eq_true registered).1
  · have listed : ∀ {later : Hub τ}, later.AttachedAt attachedTo → router < later.routers.length →
        (later.registry router).has event.kind.name .recorder = true := by
      intro later there within
      rw [there.has within]
      exact decide_eq_true ⟨here,named⟩
    refine ends.once_or_interrupted once (mem_listeners.mpr (listed attached inside)) fun turn member isRecorder => ?_
    -- What was seen before the turn was seen by the end of the delivery, so that nobody has moved the recorder yet.
    obtain ⟨earlier,later,split⟩ := List.append_of_mem member
    have rest : Turn.Chained turn.before (turn :: later) run.2 := Turn.Chained.rest (split ▸ chained)
    have onwards : Traced turn.before turn.before.ledger turn.before run.2 := by
      refine (rest.keeps (fun other among => kept _ _ _ other ?_) (.refl (wiring_ledger _).symm)).2
      exact split ▸ List.mem_append_right earlier among
    have told := (before turn member).since.1
    have there := attached.still told fun sighting seen => quiet sighting (mem_since (before turn member) onwards seen)
    rw [(fits turn member).called,isRecorder]
    exact listed there (length_of_told told ▸ inside)

/-- Whatever is done with a hub in which the recorder is attached somewhere or nowhere: as long as all that was done
    spared the recorder's subscriptions, it is registered where it was attached last, once for each kind and nowhere
    else, and whatever event is published then is brought to it at most once, and just there. So it is after a run, and
    at every moment of one, as where a signal is published that makes observers attach and detach the recorder. -/
theorem events_are_applied_once {place : Option Nat} (attached : hub.AttachedAt place) (actions : List (Action τ)) :
    let done := doings cast depth actions hub
    ((∀ sighting ∈ done, sighting.spares = true) →
      (afterAll cast depth actions hub).AttachedAt (hub.ledger.readAll done).attachedTo ∧
        (afterAll cast depth actions hub).BringsOnce cast (hub.ledger.readAll done).attachedTo) ∧
    ∀ before action after, actions = before ++ action :: after →
      let between := afterAll cast depth before hub
      ∀ moment ∈ ((act cast (perform cast depth) none action).exec (⟨between,[]⟩ : Account τ)).2.past,
        let done := doings cast depth before hub ++ between.since moment.hub
        (∀ sighting ∈ done, sighting.spares = true) →
          moment.hub.AttachedAt (hub.ledger.readAll done).attachedTo ∧
            moment.hub.BringsOnce cast (hub.ledger.readAll done).attachedTo := by
  have began := (wiring_ledger hub).symm
  intro done
  refine ⟨fun spared => ?_,?_⟩
  · have there := attached.later (afterAll_told cast depth actions began).1 spared
    exact ⟨there,there.bringsOnce cast⟩
  · intro before action after _ between moment member done spared
    have told := moment_told cast depth action (afterAll_told cast depth before began).1 member
    rw [← readAll_append] at told
    have there := attached.later told spared
    exact ⟨there,there.bringsOnce cast⟩

end

/-- An observer that takes the recorder along to another router. -/
private def mover : Observer Rat where
  title := "mover"
  script _ := [.attach 1,.publish (.kept 0) 1]

/-- A hub with two routers and a message, whose recorder is not attached. -/
private def idleHub : Hub Rat where
  whole := false
  routers := [.empty,.empty]
  recorder := some {}
  scheduler := { delay := 1 }
  timer := .byHand
  signals := #[.event (.message "m")]

theorem events_are_applied_once_despite_mover :
    let cast := [("mover",mover)]
    let actions : List (Action Rat) :=
      [.subscribe "Message" (.observer "mover") 0 none,.attach 0,.attach 0,.publish (.kept 0) 0]
    let last := afterAll cast maxCalls actions idleHub
    idleHub.AttachedAt none ∧ last.shots.entries.length = 1 ∧ last.AttachedAt (some 1) ∧
      last.BringsOnce cast (some 1) := by
  intro cast actions last
  have attached : idleHub.AttachedAt none := by
    refine ⟨rfl,fun router inside kind => ?_,by simp [idleHub]⟩
    have empty : idleHub.registry router = .empty :=
      match router with
      | 0 => rfl
      | 1 => rfl
      | _ + 2 => rfl
    simp [empty]
  have spared : ∀ sighting ∈ doings cast maxCalls actions idleHub, sighting.spares = true :=
    List.all_eq_true.mp (by decide +kernel)
  have there : (idleHub.ledger.readAll (doings cast maxCalls actions idleHub)).attachedTo = some 1 := by decide +kernel
  have once := (events_are_applied_once cast maxCalls attached actions).1 spared
  rw [there] at once
  exact ⟨attached,by decide +kernel,once⟩

/-- An observer that interrupts the delivery. -/
private def stopper : Observer Rat where
  title := "stopper"
  script _ := [.raise (.thrown "KeyboardInterrupt" .interrupt [])]

/-- An event is not applied although the recorder is attached to its router and stays so, if somebody before it
    interrupts the delivery. -/
theorem interrupted_event_is_not_applied :
    let cast := [("stopper",stopper)]
    let actions : List (Action Rat) := [.subscribe "Message" (.observer "stopper") 0 none,.attach 0]
    let hub := afterAll cast maxCalls actions idleHub
    let run := (act cast (perform cast maxCalls) none (.publish (.kept 0) 0)).exec hub
    hub.recorder.bind Recorder.router = some 0 ∧
    (∀ sighting ∈ hub.since run.2, sighting.spares = true ∧ sighting.moves = false) ∧
    (hub.shots.apply (.message "m")).count = 1 ∧ run.2.shots.count = 0 := by
  intro cast actions hub run
  have quiet : (hub.since run.2).all (fun sighting => sighting.spares && !sighting.moves) = true := by decide +kernel
  refine ⟨by decide +kernel,fun sighting seen => ?_,by decide +kernel,by decide +kernel⟩
  simpa using List.all_eq_true.mp quiet sighting seen

end Hub

end ShotRecorder
