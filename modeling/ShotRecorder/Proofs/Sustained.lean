import ShotRecorder.Proofs.Operations

/-!
Runs of a hub. Observers act inside a dispatch, their actions dispatch again, and a timer calls back at any
depth, so that what all runs keep is shown once for each action: `Sustained` says that every action that is
permitted keeps a property of accounts, given that the observers it calls do, and `Sustained.perform` and
`Sustained.afterAll` derive that whole runs keep it.
-/
namespace ShotRecorder.Hub
open Run

variable {τ : Type} [Clock τ] {I : Account τ → Prop}

/-- The state after actions from outside, one after the other, whatever becomes of each. -/
def afterAll {σ : Type} [Host σ τ] (cast : Cast τ) (depth : Nat) (actions : List (Action τ)) (s : σ) : σ :=
  actions.foldl (fun s action => ((act cast (perform cast depth) none action).exec s).2) s

/-- Observers that call each other no deeper than a given depth keep a property, as long as what they do is
    permitted. -/
def Performed (cast : Cast τ) (Permitted : Action τ → Prop) (I : Account τ → Prop) (depth : Nat) : Prop :=
  ∀ context actions, (∀ action ∈ actions, Permitted action) → Keeps I (perform cast depth context actions)

/-- Every action that is permitted keeps a property of accounts, if the observers that it calls keep it. -/
structure Sustained (cast : Cast τ) (Permitted : Action τ → Prop) (I : Account τ → Prop) : Prop where
  plain : Plain I
  placed : ∀ {account : Account τ} (signal : Signal), I account →
    I { account with hub := { account.hub with signals := account.hub.signals.push signal } }
  amended : ∀ {account : Account τ} {place state rendered} (state' : Members),
    account.hub.signals[place]? = some (.event (.snapshot state rendered)) → I account →
    I { account with
        hub := { account.hub with
          signals := account.hub.signals.setIfInBounds place (.event (.snapshot state' rendered)) } }
  published : ∀ {source router}, Permitted (.publish source router) → ∀ depth, Performed cast Permitted I depth →
    ∀ place, Keeps I (publishAt cast (perform cast depth) router place)
  handled : ∀ {source}, Permitted (.handle source) → ∀ signal, Keeps I (record signal)
  subscribed : ∀ {kind listener router token}, Permitted (.subscribe kind listener router token) →
    ∀ {account : Account τ}, I account →
      I { account with
          hub := (account.hub.onRouter router (·.subscribe kind listener)).keeping token { kind, listener, router } }
  unsubscribed : ∀ {kind listener router}, Permitted (.unsubscribe kind listener router) →
    ∀ {account : Account τ}, I account →
      I { account with hub := account.hub.onRouter router (·.unsubscribe kind listener) }
  cancelled : ∀ {token}, Permitted (.cancel token) →
    ∀ {account : Account τ} {s}, account.hub.subscriptions.lookup token = some s → I account →
      I { account with hub := account.hub.onRouter s.router (·.unsubscribe s.kind s.listener) }
  notified : Permitted .notify → Keeps I notify
  flushed : Permitted .flush → ∀ depth, Performed cast Permitted I depth → Keeps I (flush cast (perform cast depth))
  advanced : ∀ {seconds}, Permitted (.advance seconds) → ∀ depth, Performed cast Permitted I depth →
    Keeps I (advance cast (perform cast depth) seconds)
  fired : Permitted .fire → ∀ depth, Performed cast Permitted I depth → Keeps I (fire cast (perform cast depth))
  disarmed : Permitted .disarm → ∀ {account : Account τ}, I account →
    I { account with hub := { account.hub with timer := account.hub.timer.disarm } }
  armed : ∀ {delay label actions}, Permitted (.arm delay label actions) → ∀ {account : Account τ}, I account →
    I { account with
        hub := { account.hub with timer := (account.hub.timer.schedule delay (.custom label actions)).2 } }
  slept : ∀ {seconds}, Permitted (.sleep seconds) → ∀ depth, Performed cast Permitted I depth →
    Keeps I (sleep cast (perform cast depth) seconds)
  cleared : Permitted .clear → Keeps I clearShots
  attached : ∀ {router}, Permitted (.attach router) → ∀ {account : Account τ}, I account →
    I { account with hub := account.hub.attached router }
  detached : Permitted .detach → ∀ {account : Account τ}, I account →
    I { account with hub := account.hub.detached }

namespace Sustained

variable {cast : Cast τ} {Permitted : Action τ → Prop} (sustained : Sustained cast Permitted I)
include sustained

theorem place (source : Source) : Keeps I (place source) := by
  cases source with
  | kept place => exact keeps_pure _
  | fresh made =>
    refine (keeps_ofExcept made).bind fun signal => keeps_look.bind fun hub => ?_
    exact (keeps_change fun _ held => sustained.placed signal held).bind fun _ => keeps_pure _

theorem amendState (place : Option Nat) (amendment : Amendment) : Keeps I (amendState place amendment) := by
  cases place with
  | none => exact keeps_throw _
  | some place =>
    intro account held
    unfold Hub.amendState
    rw [exec_bind,exec_signalAt]
    cases found : account.hub.signals[place]? with
    | none => exact held
    | some signal =>
      dsimp only
      split
      · rw [exec_bind,exec_ofExcept]
        split
        · rename_i amended
          obtain ⟨-,rfl⟩ := Prod.mk.inj amended
          exact sustained.amended _ found held
        · rename_i refused
          obtain ⟨-,rfl⟩ := Prod.mk.inj refused
          exact held
      · exact held

section

variable {depth : Nat} (performed : Performed cast Permitted I depth)
include performed

/-- An action that is permitted keeps the property, if the observers that it calls keep it. -/
theorem act (context : Option Nat) (action : Action τ) (permitted : Permitted action) :
    Keeps I (act cast (perform cast depth) context action) := by
  cases action with
  | raise fault => exact keeps_throw _
  | amend amendment => exact (sustained.amendState context amendment).bind fun _ => keeps_pure _
  | append key item => exact (sustained.amendState context _).bind fun _ => keeps_pure _
  | publish source router =>
    exact (sustained.place source).bind fun place => (sustained.published permitted depth performed place).map _
  | handle source =>
    refine (sustained.place source).bind fun place => (keeps_signalAt place).bind fun signal => ?_
    exact (sustained.handled permitted signal).bind fun _ => keeps_pure _
  | subscribe kind listener router token =>
    refine keeps_look.bind fun hub => ?_
    exact (keeps_change fun _ held => sustained.subscribed permitted held).bind fun _ => keeps_pure _
  | unsubscribe kind listener router =>
    refine keeps_look.bind fun hub => ?_
    exact (keeps_change fun _ held => sustained.unsubscribed permitted held).bind fun _ => keeps_pure _
  | cancel token =>
    refine keeps_look_bind fun account held => ?_
    dsimp only
    cases found : account.hub.subscriptions.lookup token with
    | none => exact held
    | some s => exact sustained.cancelled permitted found held
  | countListeners kind router => exact keeps_look.bind fun _ => keeps_pure _
  | listKinds router => exact keeps_look.bind fun _ => keeps_pure _
  | notify => exact (sustained.notified permitted).map _
  | flush => exact (sustained.flushed permitted depth performed).map _
  | readDelay => exact keeps_look.bind fun _ => keeps_pure _
  | advance seconds => exact (sustained.advanced permitted depth performed).map _
  | fire => exact (sustained.fired permitted depth performed).map _
  | disarm =>
    refine keeps_look.bind fun hub => ?_
    exact (keeps_change fun _ held => sustained.disarmed permitted held).bind fun _ => keeps_pure _
  | arm delay label actions =>
    refine keeps_look_bind fun account held => ?_
    have left := sustained.armed permitted held
    rw [exec_bind,exec_change]
    simpa using left
  | sleep seconds => exact (sustained.slept permitted depth performed).bind fun _ => keeps_pure _
  | readShots => exact keeps_look.bind fun _ => keeps_pure _
  | scribble =>
    refine keeps_look.bind fun hub => ?_
    split
    · exact keeps_pure _
    · exact keeps_throw _
  | summarize =>
    refine keeps_look.bind fun hub => ?_
    dsimp only
    split
    · exact keeps_throw _
    · exact keeps_pure _
  | clear => exact (sustained.cleared permitted).bind fun _ => keeps_pure _
  | attach router =>
    refine keeps_look.bind fun hub => ?_
    split
    · exact (keeps_change fun _ held => sustained.attached permitted held).bind fun _ => keeps_pure _
    · exact keeps_throw _
  | detach =>
    refine keeps_look.bind fun hub => ?_
    split
    · exact (keeps_change fun _ held => sustained.detached permitted held).bind fun _ => keeps_pure _
    · exact keeps_throw _

theorem actSeen (context : Option Nat) (action : Action τ) (permitted : Permitted action) :
    Keeps I (actSeen cast (perform cast depth) context action) := by
  refine (sustained.act performed context action permitted).bind fun reply => ?_
  split
  · exact keeps_saw sustained.plain fun _ => .did action reply
  · exact keeps_pure _

end

/-- Performing permitted actions keeps the property, however deep observers call each other. -/
theorem perform (depth : Nat) (context : Option Nat) (actions : List (Action τ))
    (permitted : ∀ action ∈ actions, Permitted action) : Keeps I (perform cast depth context actions) := by
  induction depth generalizing context actions with
  | zero =>
    cases actions with
    | nil => exact keeps_pure _
    | cons action rest => exact keeps_throw _
  | succ depth ih =>
    cases actions with
    | nil => exact keeps_pure _
    | cons action rest =>
      have each : ∀ actions : List (Action τ), (∀ action ∈ actions, Permitted action) →
          Keeps I (actions.forM (Hub.actSeen cast (Hub.perform cast depth) context)) := by
        intro actions
        induction actions with
        | nil => exact fun _ => keeps_pure _
        | cons action rest next =>
          intro permitted
          refine (sustained.actSeen ih context action (permitted action (by simp))).bind fun _ => ?_
          exact next fun other member => permitted other (by simp [member])
      exact each (action :: rest) permitted

/-- Whole runs keep the property. -/
theorem afterAll (depth : Nat) (actions : List (Action τ)) (permitted : ∀ action ∈ actions, Permitted action)
    (account : Account τ) (held : I account) : I (afterAll cast depth actions account) := by
  induction actions generalizing account with
  | nil => exact held
  | cons action rest ih =>
    refine ih (fun other member => permitted other (by simp [member])) _ ?_
    exact sustained.act (sustained.perform depth) none action (permitted action (by simp)) account held

end Sustained

end ShotRecorder.Hub
