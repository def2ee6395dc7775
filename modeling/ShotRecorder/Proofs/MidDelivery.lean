import ShotRecorder.Proofs.Deliveries
import ShotRecorder.Proofs.Ledger

/-!
Changes that are made while a signal is delivered. Whoever is called may subscribe and unsubscribe listeners whose turn
is still to come, so that whether these are called depends on what was done until their turn (`changesSince`): a
listener is called unless it left at last. One that left and came back before its turn is called, although it came back
during the delivery (`returning_listener_is_called`); one that was not there when the delivery began is not called
before the next one.
-/
namespace ShotRecorder.Hub
open Run Registry

variable {τ : Type}

theorem Turn.Chained.keeps {P : Hub τ → Prop} {start final : Hub τ} {turns : List (Turn τ)}
    (chained : Turn.Chained start turns final) (each : ∀ turn ∈ turns, P turn.before → P turn.after) (held : P start) :
    (∀ turn ∈ turns, P turn.before) ∧ P final := by
  induction turns generalizing start with
  | nil =>
    obtain rfl := chained
    exact ⟨by simp,held⟩
  | cons turn rest ih =>
    obtain ⟨rfl,chained⟩ := chained
    obtain ⟨all,last⟩ := ih chained (fun other member => each other (by simp [member])) (each turn (by simp) held)
    exact ⟨List.forall_mem_cons.mpr ⟨held,all⟩,last⟩

section

variable [Clock τ] {cast : Cast τ} {performer : Performer (Account τ) τ} {alone : Performer (Hub τ) τ}
  (performed : ∀ context actions, Agrees (performer context actions) (alone context actions))
include performed

theorem agrees_call (place : Nat) (listener : Listener) :
    Agrees (call cast performer place listener) (call cast alone place listener) := by
  refine agrees_iff.mpr (beside_whole.call (fun _ _ => id) ?_ place listener)
  intro name place count
  cases cast.lookup name with
  | none => exact matches_pure rfl
  | some observer => exact agrees_iff.mp (performed _ _)

theorem agrees_publishAt (router place : Nat) :
    Agrees (publishAt cast performer router place) (publishAt cast alone router place) := by
  refine agrees_iff.mpr (((partners_whole performed).published router place).mono fun _ _ tallies => ?_)
  exact tallies.imp fun _ _ same => Reply.failures.inj same

end

/-- A turn keeps what the call of its listener keeps. -/
theorem Turn.Fits.keeps [Clock τ] {P : Hub τ → Prop} (attentive : Attentive P) {cast : Cast τ}
    {depth router place : Nat} {kind : String}
    (performed : ∀ context actions, Keeps (Throughout P) (perform cast depth context actions)) {turn : Turn τ}
    (fits : turn.Fits cast (perform cast depth) router kind place) (held : P turn.before) : P turn.after := by
  cases called : turn.outcome with
  | none => rwa [fits.passed called]
  | some outcome =>
    obtain ⟨left,log,ran,after⟩ := fits.ran outcome called
    have alone : Keeps P (call cast (perform cast depth) place turn.listener) :=
      keeps_of_throughout (agrees_call (agrees_perform cast depth) place turn.listener)
        (attentive.call cast performed place turn.listener)
    have kept := alone turn.before held
    rw [ran] at kept
    rw [after]
    exact attentive.unmoved (.of_log left log) kept

/-! ### Changes since the delivery began -/

/-- What a hub would be noted with if nothing had been noted before. -/
def ledger (hub : Hub τ) : Ledger := { kept := hub.subscriptions, attachedTo := hub.recorder.bind Recorder.router }

theorem wiring_ledger (hub : Hub τ) : hub.ledger.wiring hub = hub.wiring := by
  unfold ledger Ledger.wiring wiring
  cases hub.recorder <;> rfl

/-- The changes that were made to the registry of a router since. -/
def changesSince (hub later : Hub τ) (router : Nat) : List (Change Listener) :=
  (hub.ledger.readAll (hub.since later)).on router

/-- The changes since say who is registered: who joined at last, and who was there and did not leave at last. -/
def Explains (hub later : Hub τ) (router : Nat) : Prop :=
  ∀ kind listener, (later.registry router).has kind listener =
    (last? (hub.changesSince later router) kind listener).getD ((hub.registry router).has kind listener)

theorem explains_of_traced {hub later : Hub τ} {router : Nat} (inside : router < hub.routers.length)
    (traced : Traced hub hub.ledger hub later) : hub.Explains later router := by
  intro kind listener
  rw [Ledger.registry_of_told traced.since.1 inside,has_applyAll]
  rfl

variable [Clock τ]

/-- What a delivery keeps at the beginning of every turn, at every moment and in the end. -/
theorem publishAt_keeps {P : Hub τ → Prop} (attentive : Attentive P) {cast : Cast τ} {depth : Nat}
    (performed : ∀ context actions, Keeps (Throughout P) (perform cast depth context actions)) (router place : Nat)
    {hub : Hub τ} (held : P hub) :
    P ((publishAt cast (perform cast depth) router place).exec hub).2 ∧
      ∀ moment ∈ ((publishAt cast (perform cast depth) router place).exec (⟨hub,[]⟩ : Account τ)).2.past,
        P moment.hub := by
  have kept := attentive.publishAt cast performed router place ⟨hub,[]⟩ ⟨held,by simp⟩
  have same : (publishAt cast (perform cast depth) router place).exec hub = _ :=
    agrees_publishAt (agrees_perform cast depth) router place ⟨hub,[]⟩
  rw [same]
  exact kept

/-- A signal is brought to those of the listeners that are registered when their turn comes, and what was done during
    the delivery says who these are: a listener is called unless it left at last, so that it is called if it left and
    came back. Nobody is called who was not there when the delivery began. At every later moment, and whenever another
    signal is published, those are registered who joined at last, or were there and did not leave at last. -/
theorem delivery_follows_changes {hub : Hub τ} {place router : Nat} {signal : Signal}
    (found : hub.signals[place]? = some signal) (inside : router < hub.routers.length) (cast : Cast τ) (depth : Nat) :
    let snapshot := (hub.registry router).listeners signal.kind
    let run := (publishAt cast (perform cast depth) router place).exec hub
    (∃ turns : List (Turn τ), ∃ log,
      turns.map Turn.listener <+: snapshot ∧
      (∀ turn ∈ turns, turn.Fits cast (perform cast depth) router signal.kind place) ∧
      Turn.Chained { hub with log } turns run.2 ∧ EndsAs cast signal.kind snapshot turns run.1 ∧
      (∀ turn ∈ turns, turn.outcome.isSome = true ↔
        last? (hub.changesSince turn.before router) signal.kind turn.listener ≠ some false) ∧
      ∀ listener ∉ snapshot, listener ∉ calledIn turns) ∧
    hub.Explains run.2 router ∧
    ∀ moment ∈ ((publishAt cast (perform cast depth) router place).exec (⟨hub,[]⟩ : Account τ)).2.past,
      hub.Explains moment.hub router := by
  intro snapshot run
  have attentive := attentive_traced hub hub.ledger hub
  have performed := perform_traced hub hub.ledger hub cast depth
  have began : Traced hub hub.ledger hub hub := .refl (wiring_ledger hub).symm
  obtain ⟨last,moments⟩ := publishAt_keeps attentive performed router place began
  refine ⟨?_,explains_of_traced inside last,fun moment member => explains_of_traced inside (moments moment member)⟩
  obtain ⟨turns,log,among,fits,chained,ends⟩ := publishAt_turns cast (perform cast depth) router place found
  refine ⟨turns,log,among,fits,chained,ends,fun turn member => ?_,fun listener absent called => ?_⟩
  · -- What is called at a turn is known from the changes until then, since the turns before it keep to the ledger.
    have each := fun other member => (fits other member).keeps attentive performed
    have traced := (chained.keeps each (attentive.unmoved (.of_log hub log) began)).1 turn member
    have there : (hub.registry router).has signal.kind turn.listener = true :=
      mem_listeners.mp (among.subset (List.mem_map_of_mem member))
    rw [(fits turn member).called,explains_of_traced inside traced,there]
    rcases last? (hub.changesSince turn.before router) signal.kind turn.listener with _ | _ | _ <;> simp
  · exact absent ((calledIn_sublist among).subset called)

/-- An observer that takes another one off the router and brings it back. -/
private def fickle : Observer Rat where
  title := "fickle"
  script _ := [.unsubscribe "Message" (.observer "late") 0,.subscribe "Message" (.observer "late") 0 none]

/-- A hub with a message, for which such an observer is registered, and after it the one that it takes off. -/
private def fickleHub : Hub Rat where
  routers := [{ subscriptions := [("Message",.observer "fickle"),("Message",.observer "late")] }]
  recorder := none
  scheduler := { delay := 1 }
  timer := .byHand
  signals := #[.event (.message "m")]

theorem delivery_follows_changes_of_fickle :
    let run := (publishAt [("fickle",fickle)] (perform [("fickle",fickle)] maxCalls) 0 0).exec fickleHub
    fickleHub.signals[0]? = some (.event (.message "m")) ∧ 0 < fickleHub.routers.length ∧
    (fickleHub.registry 0).listeners "Message" = [.observer "fickle",.observer "late"] ∧
    fickleHub.changesSince run.2 0 = [⟨"Message",.observer "late",false⟩,⟨"Message",.observer "late",true⟩] ∧
    fickleHub.Explains run.2 0 := by
  intro run
  have found : fickleHub.signals[0]? = some (.event (.message "m")) := rfl
  have inside : 0 < fickleHub.routers.length := by decide
  obtain ⟨-,explains,-⟩ := delivery_follows_changes found inside [("fickle",fickle)] maxCalls
  exact ⟨found,inside,by decide +kernel,by decide +kernel,explains⟩

private def isCallOf (name : String) : Sighting Rat → Bool
  | .call other _ _ => other = name
  | _ => false

/-- A listener that left during a delivery is called by it nevertheless, if it comes back before its turn. -/
theorem returning_listener_is_called :
    let run := (publishAt [("fickle",fickle)] (perform [("fickle",fickle)] maxCalls) 0 0).exec fickleHub
    ¬ ∀ earlier name signal view later, fickleHub.since run.2 = earlier ++ .call name signal view :: later →
      (⟨"Message",.observer name,false⟩ : Change Listener) ∉ (fickleHub.ledger.readAll earlier).on 0 := by
  intro run skipped
  have called : (fickleHub.since run.2)[3]?.any (isCallOf "late") = true := by decide +kernel
  have left : (⟨"Message",.observer "late",false⟩ : Change Listener) ∈
      (fickleHub.ledger.readAll ((fickleHub.since run.2).take 3)).on 0 := by decide +kernel
  obtain ⟨sighting,there,isCall⟩ := (Option.any_eq_true _ _).mp called
  obtain ⟨inside,rfl⟩ := List.getElem?_eq_some_iff.mp there
  rcases kind : (fickleHub.since run.2)[3] with ⟨name,signal,view⟩ | _ | _
  · rw [kind] at isCall
    obtain rfl := of_decide_eq_true isCall
    refine skipped _ "late" signal view ((fickleHub.since run.2).drop 4) ?_ left
    rw [← kind,List.getElem_cons_drop,List.take_append_drop]
  · simp [kind,isCallOf] at isCall
  · simp [kind,isCallOf] at isCall

end ShotRecorder.Hub
