import ShotRecorder.Proofs.Ledger

/-!
Who is registered, told by what was done. Listeners may be subscribed and unsubscribed by whoever handles the hub and by
observers while signals are delivered, and subscriptions that were kept may be cancelled long after they ended. Whatever
is done, each registry is what its own history says (`Registry.Reflects`): at every moment of a run, after it, and
whenever somebody asks (`registries_reflect_history`).
-/
namespace ShotRecorder

/-- The registry of every router of a hub is what a ledger says was done to it. -/
def Ledger.Reflected {τ : Type} (ledger : Ledger) (hub : Hub τ) : Prop :=
  ∀ router < hub.routers.length, Registry.Reflects (ledger.on router) (hub.registry router)

namespace Hub

variable {τ : Type}

theorem reflected_of_told {start hub : Hub τ} {ledger : Ledger} (empty : ∀ router, start.registry router = .empty)
    (told : hub.wiring = ledger.wiring start) : ledger.Reflected hub ∧ hub.routers.length = start.routers.length := by
  have length := Ledger.length_of_told told
  refine ⟨fun router inside => ?_,length⟩
  rw [Ledger.registry_of_told told (length ▸ inside),empty router]
  exact Registry.reflects _

/-- An answer among what was done was right for a hub that reflects what was done before. -/
theorem answered_of_honest {start : Hub τ} {ledger : Ledger} {earlier later : List (Sighting τ)} {action : Action τ}
    {reply : Reply τ} (honest : Honest start ledger (earlier ++ .did action reply :: later)) :
    ∃ hub : Hub τ, hub.wiring = (ledger.readAll earlier).wiring start ∧ hub.Answers action reply :=
  (honest_append.mp honest).2.1

variable [Clock τ]

/-- In a hub where nobody was registered, and whatever is done with it, the registries are at every moment what was done
    to them until then says, and every answer about them was right when it was given. -/
theorem registries_reflect_history {hub : Hub τ} (empty : ∀ router, hub.registry router = .empty)
    (unkept : hub.subscriptions = []) (unattached : ∀ recorder ∈ hub.recorder, recorder.router = none) (cast : Cast τ)
    (depth : Nat) (actions : List (Action τ)) :
    let done := doings cast depth actions hub
    (Ledger.readAll {} done).Reflected (afterAll cast depth actions hub) ∧
    (∀ earlier action reply later, done = earlier ++ .did action reply :: later →
      ∃ asked : Hub τ, asked.routers.length = hub.routers.length ∧ (Ledger.readAll {} earlier).Reflected asked ∧
        asked.subscriptions = (Ledger.readAll {} earlier).kept ∧ asked.Answers action reply) ∧
    ∀ before action after, actions = before ++ action :: after →
      let between := afterAll cast depth before hub
      ∀ moment ∈ ((act cast (perform cast depth) none action).exec (⟨between,[]⟩ : Account τ)).2.past,
        (Ledger.readAll {} (doings cast depth before hub ++ between.since moment.hub)).Reflected moment.hub := by
  intro done
  have began : hub.wiring = ({} : Ledger).wiring hub := by
    have free : hub.recorder.map Recorder.router = hub.recorder.map fun _ => none := by
      cases present : hub.recorder with
      | none => rfl
      | some recorder => simp [unattached recorder present]
    simp [wiring,Ledger.wiring,unkept,free]
  obtain ⟨last,honest⟩ := afterAll_told cast depth actions began
  refine ⟨(reflected_of_told empty last).1,?_,?_⟩
  · intro earlier action reply later split
    have right : Honest hub {} (earlier ++ .did action reply :: later) := split ▸ (honest : Honest hub {} done)
    obtain ⟨asked,told,answers⟩ := answered_of_honest right
    obtain ⟨reflected,length⟩ := reflected_of_told empty told
    exact ⟨asked,length,reflected,congrArg (fun parts => parts.2.1) told,answers⟩
  · intro before action after _ between moment member
    have told := moment_told cast depth action (afterAll_told cast depth before began).1 member
    rw [Ledger.readAll_append]
    exact (reflected_of_told empty told).1

/-- An observer that cancels the subscription of another one, brings it back, and asks who is there. -/
private def usher : Observer Rat where
  title := "usher"
  script _ :=
    [.cancel "seat",.subscribe "Message" (.observer "guest") 0 (some "seat"),.countListeners (some "Message") 0,
      .countListeners none 0,.listKinds 0]

theorem registries_reflect_history_of_returning_guest :
    let hub : Hub Rat :=
      { routers := [.empty,.empty], recorder := some {}, scheduler := { delay := 1 }, timer := .byHand
        signals := #[.event (.message "m")] }
    let cast := [("usher",usher)]
    let actions : List (Action Rat) :=
      [.subscribe "Message" (.observer "usher") 0 none,.subscribe "Message" (.observer "guest") 0 (some "seat"),
        .attach 0,.publish (.kept 0) 0,.cancel "seat",.cancel "seat",.unsubscribe "Result" .recorder 0,.detach]
    (∀ router, hub.registry router = .empty) ∧ hub.subscriptions = [] ∧
    (∀ recorder ∈ hub.recorder, recorder.router = none) ∧
    (Ledger.readAll {} (doings cast maxCalls actions hub)).Reflected (afterAll cast maxCalls actions hub) := by
  intro hub cast actions
  have empty : ∀ router, hub.registry router = .empty
    | 0 => rfl
    | 1 => rfl
    | _ + 2 => rfl
  have unattached : ∀ recorder ∈ hub.recorder, recorder.router = none := by
    rintro _ ⟨⟩
    rfl
  exact ⟨empty,rfl,unattached,(registries_reflect_history empty rfl unattached cast maxCalls actions).1⟩

end Hub

end ShotRecorder
