import ShotRecorder.Proofs.Sustained

/-!
What every moment of a run keeps. Most properties do not depend on which action changes an account, but on how
it changes: `Upheld` says what a property has to survive, one requirement for each way in which an account
changes, and `Upheld.perform` and `Upheld.afterAll` derive that whole runs keep it.
-/
namespace ShotRecorder.Hub
open Run

variable {τ : Type} [Clock τ] {I : Account τ → Prop}

/-- What a property of an account has to survive to be kept by runs in which every action is permitted:
    one requirement for each way in which an account changes. -/
structure Upheld (cast : Cast τ) (Permitted : Action τ → Prop) (I : Account τ → Prop) : Prop where
  plain : Plain I
  placed : ∀ {account : Account τ} (signal : Signal), I account →
    I { account with hub := { account.hub with signals := account.hub.signals.push signal } }
  amended : ∀ {account : Account τ} {place state rendered} (state' : Members),
    account.hub.signals[place]? = some (.event (.snapshot state rendered)) → I account →
    I { account with
        hub := { account.hub with
          signals := account.hub.signals.setIfInBounds place (.event (.snapshot state' rendered)) } }
  callbacks : ∀ {account}, I account → ∀ callback ∈ account.hub.timer.device.callbacks,
    ∀ action ∈ actionsOf callback, Permitted action
  calmed : ∀ {account : Account τ} {device}, device.Within account.hub.timer.device → I account →
    I { account with hub := account.hub.withDevice device }
  notified : Keeps I notify
  fired : ∀ depth,
    (∀ context actions, (∀ action ∈ actions, Permitted action) → Keeps I (perform cast depth context actions)) →
    ∀ account : Account τ, account.hub.timer.isArmed = false → I account →
      I ((fireRefresh cast (perform cast depth)).exec account).2
  cleared : Keeps I clearShots
  published : ∀ depth,
    (∀ context actions, (∀ action ∈ actions, Permitted action) → Keeps I (perform cast depth context actions)) →
    ∀ router place, Keeps I (publishAt cast (perform cast depth) router place)
  handled : ∀ {source}, Permitted (.handle source) → ∀ signal, Keeps I (record signal)
  subscribed : ∀ {kind listener router token}, Permitted (.subscribe kind listener router token) →
    ∀ {account : Account τ}, I account →
      I { account with
          hub := (account.hub.onRouter router (·.subscribe kind listener)).keeping token { kind, listener, router } }
  unsubscribed : ∀ {kind listener router}, Permitted (.unsubscribe kind listener router) →
    ∀ {account : Account τ}, I account →
      I { account with hub := account.hub.onRouter router (·.unsubscribe kind listener) }
  cancelled : ∀ {token}, Permitted (.cancel token) →
    ∀ {account : Account τ} {s}, account.hub.subscriptions.lookup token = some s → I account →
      I { account with hub := account.hub.onRouter s.router (·.unsubscribe s.kind s.listener) }
  armed : ∀ {delay label actions}, Permitted (.arm delay label actions) → ∀ {account : Account τ}, I account →
    I { account with
        hub := { account.hub with timer := (account.hub.timer.schedule delay (.custom label actions)).2 } }
  attached : ∀ {router}, Permitted (.attach router) → ∀ {account : Account τ}, I account →
    I { account with hub := account.hub.attached router }
  detached : Permitted .detach → ∀ {account : Account τ}, I account →
    I { account with hub := account.hub.detached }

namespace Upheld

variable {cast : Cast τ} {Permitted : Action τ → Prop} (upheld : Upheld cast Permitted I)
include upheld

/-- A timer that calls back is idle and holds no more than before, and what it calls back for is permitted. -/
theorem called {depth : Nat} (performed : Performed cast Permitted I depth) {account : Account τ}
    {callback : Callback τ} {later : TimerDevice τ (Callback τ)}
    (calls : account.hub.timer.device.Calls callback later) (held : I account) :
    I ((fireCallback cast (Hub.perform cast depth) callback).exec
      { account with hub := account.hub.withDevice later }).2 := by
  obtain ⟨within,member,idle⟩ := calls.within
  have calmed := upheld.calmed within held
  cases callback with
  | refresh => exact upheld.fired depth performed _ idle calmed
  | custom label actions =>
    have permitted := upheld.callbacks held _ member
    have seen := keeps_saw upheld.plain fun hub => .timer label hub.view
    exact seen.bind (fun _ => performed none actions permitted) _ calmed

theorem flush {depth : Nat} (performed : Performed cast Permitted I depth) :
    Keeps I (flush cast (Hub.perform cast depth)) := by
  refine keeps_look_bind fun account held => ?_
  split
  · rw [exec_bind,exec_change]
    refine leads_bind ?_ fun _ => keeps_pure _
    have calmed := upheld.calmed (TimerDevice.disarm_within _) held
    exact upheld.fired depth performed _ (TimerDevice.isArmed_disarm _) calmed
  · exact held

theorem sustained : Sustained cast Permitted I where
  plain := upheld.plain
  placed := upheld.placed
  amended := upheld.amended
  published _ depth performed := upheld.published depth performed _
  handled := upheld.handled
  subscribed := upheld.subscribed
  unsubscribed := upheld.unsubscribed
  cancelled := upheld.cancelled
  notified _ := upheld.notified
  flushed _ _ performed := upheld.flush performed
  advanced _ _ performed := keeps_advance (fun passes => upheld.calmed passes.within) (upheld.called performed) _
  fired _ _ performed := keeps_fire (upheld.called performed)
  disarmed _ _ held := upheld.calmed (TimerDevice.disarm_within _) held
  armed := upheld.armed
  slept _ _ performed := keeps_sleep (fun passes => upheld.calmed passes.within) (upheld.called performed) _
  cleared _ := upheld.cleared
  attached := upheld.attached
  detached := upheld.detached

/-- Performing permitted actions keeps the property, however deep observers call each other. -/
theorem perform (depth : Nat) : Performed cast Permitted I depth := upheld.sustained.perform depth

/-- Whole runs keep the property. -/
theorem afterAll (depth : Nat) (actions : List (Action τ)) (permitted : ∀ action ∈ actions, Permitted action)
    (account : Account τ) (held : I account) : I (afterAll cast depth actions account) :=
  upheld.sustained.afterAll depth actions permitted account held

end Upheld

/-! ### What every run keeps -/

section

variable {P : List (Moment τ) → Prop} (more : ∀ moment past, P past → P (moment :: past))
include more

omit [Clock τ] in
private theorem note_past (occurrence : Occurrence) :
    Keeps (fun account : Account τ => P account.past) (note occurrence) :=
  fun _ held => more _ _ held

private theorem notify_past : Keeps (fun account : Account τ => P account.past) notify :=
  keeps_notify (fun _ held => held) (note_past more _) (fun _ held => held) fun _ held => held

private theorem record_past (signal : Signal) : Keeps (fun account : Account τ => P account.past) (record signal) :=
  keeps_record (fun _ held => held) (fun _ => note_past more _) (fun _ _ _ held => held) (notify_past more) signal

private theorem publishAt_past {cast : Cast τ} {performer : Performer (Account τ) τ}
    (performed : ∀ context actions, Keeps (fun account : Account τ => P account.past) (performer context actions))
    (router place : Nat) : Keeps (fun account : Account τ => P account.past) (publishAt cast performer router place) :=
  keeps_publishAt (fun _ held => held) router place (note_past more _) (fun _ => note_past more _) (record_past more)
    fun _ _ _ => performed _ _

/-- What holds of the moments of an account however many come, is kept by every run. -/
theorem upheld_past (cast : Cast τ) : Upheld cast (fun _ => True) fun account => P account.past where
  plain _ held := held
  placed _ held := held
  amended _ _ held := held
  callbacks _ _ _ _ _ := trivial
  calmed _ held := held
  notified := notify_past more
  fired depth performed account _ := by
    have kept : Keeps (fun account : Account τ => P account.past) (fireRefresh cast (perform cast depth)) :=
      keeps_fireRefresh (fun _ held => held) (fun _ held => more _ _ held) (fun _ held => held)
        (publishAt_past more (fun _ _ => performed _ _ fun _ _ => trivial) 0)
    exact kept account
  cleared _ held := more _ _ held
  published depth performed := publishAt_past more fun _ _ => performed _ _ fun _ _ => trivial
  handled _ signal := record_past more signal
  subscribed _ _ held := held
  unsubscribed _ _ held := held
  cancelled _ _ _ _ held := held
  armed _ _ held := held
  attached _ _ held := held
  detached _ _ held := held

end

/-- Moments are never forgotten. -/
theorem upheld_remembered (cast : Cast τ) (past : List (Moment τ)) :
    Upheld cast (fun _ => True) fun account : Account τ => past <:+ account.past :=
  upheld_past (fun _ _ kept => kept.trans (List.suffix_cons _ _)) cast

theorem perform_remembers (cast : Cast τ) (depth : Nat) (past : List (Moment τ)) (context : Option Nat)
    (actions : List (Action τ)) :
    Keeps (fun account : Account τ => past <:+ account.past) (perform cast depth context actions) :=
  (upheld_remembered cast past).perform depth context actions fun _ _ => trivial

/-- A signal that the recorder passes over is at a place. -/
def PassedAt (place : Nat) (hub : Hub τ) : Prop :=
  ∃ signal, hub.signals[place]? = some signal ∧ signal.produced? = none

omit [Clock τ] in
theorem plain_passed (place : Nat) : Plain fun account : Account τ => PassedAt place account.hub := by
  apply plain_of_parts
  exact fun _ => Iff.rfl

private theorem notify_passed (place : Nat) : Keeps (fun account : Account τ => PassedAt place account.hub) notify :=
  keeps_notify (plain_passed place) (fun _ held => held) (fun _ held => held) fun _ held => held

private theorem record_passed (place : Nat) (signal : Signal) :
    Keeps (fun account : Account τ => PassedAt place account.hub) (record signal) :=
  keeps_record (plain_passed place) (fun _ _ held => held) (fun _ _ _ held => held) (notify_passed place) signal

omit [Clock τ] in
private theorem placed_passed (place : Nat) {account : Account τ} (signal : Signal)
    (held : PassedAt place account.hub) :
    PassedAt place { account.hub with signals := account.hub.signals.push signal } := by
  obtain ⟨old,found,passed⟩ := held
  refine ⟨old,?_,passed⟩
  have inside := (Array.getElem?_eq_some_iff.mp found).1
  simpa [Array.getElem?_push,Nat.ne_of_lt inside] using found

private theorem publishAt_passed (place : Nat) {cast : Cast τ} {performer : Performer (Account τ) τ}
    (performed : ∀ context actions,
      Keeps (fun account : Account τ => PassedAt place account.hub) (performer context actions))
    (router other : Nat) :
    Keeps (fun account : Account τ => PassedAt place account.hub) (publishAt cast performer router other) :=
  keeps_publishAt (plain_passed place) router other (fun _ held => held) (fun _ _ held => held) (record_passed place)
    fun _ _ _ => performed _ _

/-- Where a signal is that the recorder passes over, there will never be one that it does not. -/
theorem upheld_passed (cast : Cast τ) (place : Nat) :
    Upheld cast (fun _ => True) fun account : Account τ => PassedAt place account.hub where
  plain := plain_passed place
  placed signal held := placed_passed place signal held
  amended state' found held := by
    obtain ⟨old,stays,passed⟩ := held
    refine ⟨old,?_,passed⟩
    rename_i place' state rendered
    have other : place' ≠ place := by
      rintro rfl
      rw [found] at stays
      obtain rfl := Option.some.inj stays
      simp [Signal.produced?] at passed
    simpa [Array.getElem?_setIfInBounds_ne other] using stays
  callbacks _ _ _ _ _ := trivial
  calmed _ held := held
  notified := notify_passed place
  fired depth performed account _ :=
    keeps_fireRefresh (plain_passed place) (fun _ held => held) (placed_passed place)
      (publishAt_passed place (fun _ _ => performed _ _ fun _ _ => trivial) 0) account
  cleared _ held := held
  published depth performed := publishAt_passed place fun _ _ => performed _ _ fun _ _ => trivial
  handled _ signal := record_passed place signal
  subscribed _ _ held := by
    rename_i token _ _
    cases token <;> exact held
  unsubscribed _ _ held := held
  cancelled _ _ _ _ held := held
  armed _ _ held := held
  attached := by
    intro router _ account held
    obtain ⟨routers,same⟩ := attached_frame account.hub router
    simpa only [PassedAt,same] using held
  detached := by
    intro _ account held
    obtain ⟨routers,same⟩ := detached_frame account.hub
    simpa only [PassedAt,same] using held

end ShotRecorder.Hub
