import ShotRecorder.Proofs.Upheld

/-!
What a listener may count on when signals are published. The listeners that are called may subscribe,
unsubscribe and publish themselves, so that the registry changes while it is gone through. A delivery is told
as the turns of the listeners that were registered when it began (`Turn`): each starts from the hub that the
one before it left, and the listener is called just if it is registered at that moment. Nothing is assumed of
what the listeners do when they are called, so that the same holds of what they publish themselves.
-/
namespace ShotRecorder.Hub
open Run

variable {τ : Type} [Clock τ]

/-- The turn of a listener. -/
structure Turn (τ : Type) where
  listener : Listener
  /-- The hub when the turn comes. -/
  before : Hub τ
  /-- How the call ended, if the listener was called. -/
  outcome : Option (Except Fault Unit)
  /-- The hub when the turn is over. -/
  after : Hub τ

namespace Turn

/-- The failure that is reported of a listener. -/
def failure? (cast : Cast τ) (kind : String) (turn : Turn τ) : Option Failure :=
  match turn.outcome with
  | some (.error fault) =>
    if fault.isOrdinary then some { kind, listener := title cast turn.listener, fault } else none
  | _ => none

/-- The fault that ends the whole delivery. -/
def interrupt? (turn : Turn τ) : Option Fault :=
  match turn.outcome with
  | some (.error fault) => if fault.isOrdinary then none else some fault
  | _ => none

/-- Each turn starts from the hub that the one before it left. -/
def Chained (start : Hub τ) : List (Turn τ) → Hub τ → Prop
  | [],final => final = start
  | turn :: rest,final => turn.before = start ∧ Chained turn.after rest final

/-- The turn is that of its listener in the delivery of the signal at a place. -/
structure Fits (cast : Cast τ) (performer : Performer (Hub τ) τ) (router : Nat) (kind : String) (place : Nat)
    (turn : Turn τ) : Prop where
  /-- The listener is called just if it is registered when its turn comes. -/
  called : turn.outcome.isSome = (turn.before.registry router).has kind turn.listener
  passed : turn.outcome = none → turn.after = turn.before
  /-- Only its call makes a difference, apart from what is logged about its fault. -/
  ran : ∀ outcome ∈ turn.outcome, ∃ left log,
    (call cast performer place turn.listener).exec turn.before = (outcome,left) ∧ turn.after = { left with log }

end Turn

/-- How a delivery to listeners ends, as told by turns: after the turns of all of them with the failures in the
    order of the calls, or with the first fault that nobody holds up. -/
def EndsAs (cast : Cast τ) (kind : String) (listeners : List Listener) (turns : List (Turn τ)) :
    Except Fault (List Failure) → Prop
  | .ok failures =>
    turns.map Turn.listener = listeners ∧ (∀ turn ∈ turns, turn.interrupt? = none) ∧
      failures = turns.filterMap (Turn.failure? cast kind)
  | .error fault =>
    ∃ earlier last, turns = earlier ++ [last] ∧ last.interrupt? = some fault ∧ ∀ turn ∈ earlier, turn.interrupt? = none

section

variable (cast : Cast τ) (performer : Performer (Hub τ) τ) (router : Nat) (kind : String) (place : Nat)

/-- The turn of one listener, and what it makes of the delivery. -/
theorem turn_fits (listener : Listener) (hub : Hub τ) :
    ∃ turn : Turn τ, turn.listener = listener ∧ turn.before = hub ∧ turn.Fits cast performer router kind place ∧
      ((dispatch cast performer router kind place).turn listener).exec hub =
        (match turn.interrupt? with
          | some fault => .error fault
          | none => .ok (turn.failure? cast kind),turn.after) := by
  unfold Dispatch.turn
  have asked : ((dispatch cast performer router kind place).registered listener).exec hub =
      (.ok ((hub.registry router).has kind listener),hub) := rfl
  have calling : ((dispatch cast performer router kind place).call listener).exec hub =
      (call cast performer place listener).exec hub := rfl
  rw [exec_bind,asked]
  cases registered : (hub.registry router).has kind listener with
  | false =>
    refine ⟨{ listener, before := hub, outcome := none, after := hub },rfl,rfl,?_,rfl⟩
    exact ⟨by simp [registered],by simp,by simp⟩
  | true =>
    simp only [↓reduceIte]
    rw [exec_bind,exec_attempt,calling]
    rcases ran : (call cast performer place listener).exec hub with ⟨outcome,left⟩
    cases outcome with
    | ok =>
      refine ⟨{ listener, before := hub, outcome := some (.ok ()), after := left },rfl,rfl,?_,rfl⟩
      refine ⟨by simp [registered],by simp,?_⟩
      simpa using ⟨left,ran,left.log,rfl⟩
    | error fault =>
      by_cases ordinary : fault.isOrdinary
      · let told := left.logged
          { level := .error
            text := "Handler " ++ title cast listener ++ " failed on " ++ kind ++ " event"
            fault := some fault }
        have same : ∃ log, told = { left with log } := logged_frame left _
        refine ⟨{ listener, before := hub, outcome := some (.error fault), after := told },rfl,rfl,
          ⟨by simp [registered],by simp,?_⟩,?_⟩
        · simpa using ⟨left,ran,same⟩
        · simp only [ordinary,↓reduceIte,Turn.interrupt?,Turn.failure?]
          rfl
      · refine ⟨{ listener, before := hub, outcome := some (.error fault), after := left },rfl,rfl,
          ⟨by simp [registered],by simp,?_⟩,?_⟩
        · simpa using ⟨left,ran,left.log,rfl⟩
        · simp [ordinary,Turn.interrupt?]

/-- The turns of a delivery. -/
theorem deliver_turns (listeners : List Listener) (hub : Hub τ) :
    ∃ turns : List (Turn τ), turns.map Turn.listener <+: listeners ∧
      (∀ turn ∈ turns, turn.Fits cast performer router kind place) ∧
      Turn.Chained hub turns (((dispatch cast performer router kind place).deliver listeners).exec hub).2 ∧
      EndsAs cast kind listeners turns
        (((dispatch cast performer router kind place).deliver listeners).exec hub).1 := by
  induction listeners generalizing hub with
  | nil => exact ⟨[],List.nil_prefix,by simp,rfl,rfl,by simp,rfl⟩
  | cons listener rest ih =>
    obtain ⟨turn,rfl,rfl,fits,ran⟩ := turn_fits cast performer router kind place listener hub
    unfold Dispatch.deliver
    rw [exec_bind,ran]
    cases interrupted : turn.interrupt? with
    | some fault =>
      refine ⟨[turn],by simp,by simpa using fits,⟨rfl,rfl⟩,[],turn,rfl,interrupted,by simp⟩
    | none =>
      obtain ⟨turns,among,each,chained,ends⟩ := ih turn.after
      dsimp only
      rw [exec_bind]
      rcases delivered : ((dispatch cast performer router kind place).deliver rest).exec turn.after with ⟨outcome,left⟩
      rw [delivered] at chained ends
      have fitting : ∀ other ∈ turn :: turns, other.Fits cast performer router kind place := by
        intro other member
        rcases List.mem_cons.mp member with rfl | later
        · exact fits
        · exact each other later
      refine ⟨turn :: turns,?_,fitting,⟨rfl,?_⟩,?_⟩
      · simpa using among
      · cases outcome <;> exact chained
      · cases outcome with
        | ok failures =>
          obtain ⟨all,quiet,found⟩ := ends
          refine ⟨by simp [all],by simpa [interrupted] using quiet,?_⟩
          rw [found]
          cases failed : turn.failure? cast kind <;> simp [failed]
        | error fault =>
          obtain ⟨earlier,last,rfl,ended,quiet⟩ := ends
          exact ⟨turn :: earlier,last,rfl,ended,by simpa [interrupted] using quiet⟩

/-- The listeners that were called in turns, in order. -/
def calledIn (turns : List (Turn τ)) : List Listener :=
  (turns.filter fun turn => turn.outcome.isSome).map Turn.listener

/-- Publishing logs a line and gives the listeners that are registered their turns. -/
theorem publishAt_turns {hub : Hub τ} {signal : Signal} (found : hub.signals[place]? = some signal) :
    let snapshot := (hub.registry router).listeners signal.kind
    let run := (publishAt cast performer router place).exec hub
    ∃ turns : List (Turn τ), ∃ log,
      turns.map Turn.listener <+: snapshot ∧
      (∀ turn ∈ turns, turn.Fits cast performer router signal.kind place) ∧
      Turn.Chained { hub with log } turns run.2 ∧
      EndsAs cast signal.kind snapshot turns run.1 := by
  intro snapshot run
  let line : LogRecord := { level := .debug, text := "Dispatching event: " ++ signal.shown }
  obtain ⟨log,told⟩ := logged_frame hub line
  have ran : run = ((dispatch cast performer router signal.kind place).deliver snapshot).exec { hub with log } := by
    have at_place : (signalAt place : Run (Hub τ) Signal).exec hub = (.ok signal,hub) := by
      unfold signalAt
      rw [exec_bind,exec_look]
      simp only [Host.hub,id,found]
      rfl
    have same : snapshot = ((hub.logged line).registry router).listeners signal.kind := by
      rw [told]
      rfl
    unfold run publishAt
    rw [exec_bind,at_place,same,← told]
    rfl
  obtain ⟨turns,among,fits,chained,ends⟩ :=
    deliver_turns cast performer router signal.kind place snapshot { hub with log }
  rw [← ran] at chained ends
  exact ⟨turns,log,among,fits,chained,ends⟩

omit [Clock τ] in
theorem calledIn_sublist {snapshot : List Listener} {turns : List (Turn τ)}
    (among : turns.map Turn.listener <+: snapshot) : (calledIn turns).Sublist snapshot :=
  (List.filter_sublist.map Turn.listener).trans among.sublist

/-- Publishing a signal gives the listeners that were registered when it began their turns, in the order in
    which they subscribed. A listener is called just if it is registered when its turn comes, hence at most once,
    and nothing but the calls changes the registry. Every ordinary fault of a call is reported, in order; any
    other fault ends the delivery and goes on to whoever published. -/
theorem publish_takes_turns {hub : Hub τ} {signal : Signal} (found : hub.signals[place]? = some signal) :
    let snapshot := (hub.registry router).listeners signal.kind
    let run := (publishAt cast performer router place).exec hub
    ∃ turns : List (Turn τ), ∃ log,
      turns.map Turn.listener <+: snapshot ∧
      (calledIn turns).Sublist snapshot ∧ (calledIn turns).Nodup ∧
      (∀ turn ∈ turns, turn.Fits cast performer router signal.kind place) ∧
      Turn.Chained { hub with log } turns run.2 ∧
      EndsAs cast signal.kind snapshot turns run.1 := by
  intro snapshot run
  obtain ⟨turns,log,among,fits,chained,ends⟩ := publishAt_turns cast performer router place found
  have called := calledIn_sublist among
  have once : (calledIn turns).Nodup := ((hub.registry router).nodup_listeners signal.kind).sublist called
  exact ⟨turns,log,among,called,once,fits,chained,ends⟩

end

/-- An observer that takes another one off the router, brings a third one, publishes the signal again when it is
    called first, and fails. -/
private def unruly : Observer Rat where
  title := "unruly"
  script
    | 0 =>
      [.unsubscribe "Message" (.observer "next") 0,.subscribe "Message" (.observer "late") 0 none,.publish (.kept 0) 0,
        .raise .missingPart]
    | _ => [.raise .missingPart]

theorem publish_takes_turns_of_unruly :
    let hub : Hub Rat :=
      { routers := [{ subscriptions := [("Message",.observer "first"),("Message",.observer "next")] }]
        recorder := none, scheduler := { delay := 1 }, timer := .byHand, signals := #[.event (.message "m")] }
    let cast := [("first",unruly)]
    let snapshot := [Listener.observer "first",.observer "next"]
    let run := (publishAt cast (perform cast maxCalls) 0 0).exec hub
    ∃ turns : List (Turn Rat), ∃ log,
      turns.map Turn.listener <+: snapshot ∧
      (calledIn turns).Sublist snapshot ∧ (calledIn turns).Nodup ∧
      (∀ turn ∈ turns, turn.Fits cast (perform cast maxCalls) 0 "Message" 0) ∧
      Turn.Chained { hub with log } turns run.2 ∧ EndsAs cast "Message" snapshot turns run.1 := by
  intro hub cast snapshot run
  have found : hub.signals[0]? = some (.event (.message "m")) := rfl
  exact publish_takes_turns cast (perform cast maxCalls) 0 0 found

end ShotRecorder.Hub
