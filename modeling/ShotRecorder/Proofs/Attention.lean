import ShotRecorder.Proofs.Accounts
import ShotRecorder.Proofs.Operations

/-!
Properties of hubs that heed what was seen. Only a few actions change who listens to what (`Action.rewires`), and all
else that is done with a hub leaves its wiring alone, adds signals, and shows what observers are called with. A property
that survives this (`Attentive`) is kept by every other action at every moment (`Attentive.act`), wherever it is kept by
what the observers do that are called.
-/
namespace ShotRecorder

/-- What is never amended of a signal: its kind, and whether the recorder takes it. -/
def Signal.nature (signal : Signal) : String × Bool := (signal.kind,signal.produced?.isSome)

/-- Changes who listens to what, or where the recorder is attached. -/
def Action.rewires {τ : Type} : Action τ → Bool
  | .subscribe _ _ _ _ | .unsubscribe _ _ _ | .cancel _ | .attach _ | .detach => true
  | _ => false

namespace Hub
open Run

variable {τ α : Type}

/-- Who listens to what on each router, which subscriptions are kept, and where the recorder is attached, if there is
    one. -/
abbrev Wiring := List (Registry Listener) × List (String × Subscription) × Option (Option Nat)

def wiring (hub : Hub τ) : Wiring :=
  (hub.routers,hub.subscriptions,hub.recorder.map Recorder.router)

def natureAt (hub : Hub τ) (place : Nat) : Option (String × Bool) := hub.signals[place]?.map Signal.nature

/-- Nothing was rewired or seen, and the signals that were there have kept their nature. -/
structure Unmoved (hub later : Hub τ) : Prop where
  wiring : later.wiring = hub.wiring
  seen : later.seen = hub.seen
  natures : ∀ place nature, hub.natureAt place = some nature → later.natureAt place = some nature

theorem Unmoved.of_signals {hub later : Hub τ} (wiring : later.wiring = hub.wiring) (seen : later.seen = hub.seen)
    (signals : later.signals = hub.signals) : hub.Unmoved later :=
  ⟨wiring,seen,fun place nature found => by rwa [natureAt,signals]⟩

theorem Unmoved.of_log (hub : Hub τ) (log : Array LogRecord) : hub.Unmoved { hub with log } := .of_signals rfl rfl rfl

theorem Unmoved.of_placed (hub : Hub τ) (signal : Signal) :
    hub.Unmoved { hub with signals := hub.signals.push signal } := by
  refine ⟨rfl,rfl,fun place nature found => ?_⟩
  obtain ⟨old,there,rfl⟩ := Option.map_eq_some_iff.mp found
  have inside := (Array.getElem?_eq_some_iff.mp there).1
  simpa [natureAt,Array.getElem?_push,Nat.ne_of_lt inside] using found

theorem Unmoved.of_amended {hub : Hub τ} {place : Nat} {state : Members} {rendered : Option String}
    (found : hub.signals[place]? = some (.event (.snapshot state rendered))) (state' : Members) :
    hub.Unmoved { hub with signals := hub.signals.setIfInBounds place (.event (.snapshot state' rendered)) } := by
  refine ⟨rfl,rfl,fun other nature there => ?_⟩
  unfold natureAt at there ⊢
  by_cases same : place = other
  · subst same
    have inside := (Array.getElem?_eq_some_iff.mp found).1
    rw [found] at there
    rw [Array.getElem?_setIfInBounds_self_of_lt inside]
    exact there
  · rwa [Array.getElem?_setIfInBounds_ne same]

/-- What survives all but rewiring and the replies that observers get. -/
structure Attentive (P : Hub τ → Prop) : Prop where
  unmoved : ∀ {hub later}, hub.Unmoved later → P hub → P later
  called : ∀ {hub} name signal view, P hub → P (hub.saw (.call name signal view))
  timed : ∀ {hub} label view, P hub → P (hub.saw (.timer label view))

/-- A property holds of the hub of an account, and held at every moment of it. -/
def Throughout (P : Hub τ → Prop) (account : Account τ) : Prop := P account.hub ∧ ∀ moment ∈ account.past, P moment.hub

/-- What is kept at every moment of an account is kept without one. -/
theorem keeps_of_throughout {P : Hub τ → Prop} {x : Run (Account τ) α} {y : Run (Hub τ) α} (same : Agrees x y)
    (kept : Keeps (Throughout P) x) : Keeps P y := by
  intro hub held
  have both := kept ⟨hub,[]⟩ ⟨held,by simp⟩
  rw [show y.exec hub = _ from same ⟨hub,[]⟩]
  exact both.1

namespace Attentive

variable {P : Hub τ → Prop}

theorem note (occurrence : Occurrence) : Keeps (Throughout P) (note occurrence) :=
  fun _ held => ⟨held.1,List.forall_mem_cons.mpr held⟩

variable (attentive : Attentive P)
include attentive

theorem moved {account : Account τ} {hub : Hub τ} (unmoved : account.hub.Unmoved hub)
    (held : Throughout P account) : Throughout P { account with hub } :=
  ⟨attentive.unmoved unmoved held.1,held.2⟩

theorem change {f : Hub τ → Hub τ} (unmoved : ∀ hub : Hub τ, hub.Unmoved (f hub)) : Keeps (Throughout P) (change f) :=
  fun _ held => attentive.moved (unmoved _) held

theorem tell (level : Level) (text : String) (fault : Option Fault) : Keeps (Throughout P) (tell level text fault) := by
  refine attentive.change fun hub => ?_
  obtain ⟨log,same⟩ := logged_frame hub { level, text, fault }
  exact same ▸ .of_log hub log

theorem place (source : Source) : Keeps (Throughout P) (place source) := by
  cases source with
  | kept place => exact keeps_pure _
  | fresh made =>
    refine (keeps_ofExcept made).bind fun signal => keeps_look.bind fun hub => ?_
    exact (attentive.change fun hub => .of_placed hub signal).bind fun _ => keeps_pure _

theorem amendState (place : Option Nat) (amendment : Amendment) :
    Keeps (Throughout P) (amendState place amendment) := by
  cases place with
  | none => exact keeps_throw _
  | some place =>
    intro account held
    unfold Hub.amendState
    rw [exec_bind,exec_signalAt]
    cases found : account.hub.signals[place]? with
    | none => exact held
    | some signal =>
      dsimp only
      split
      · rename_i state rendered
        rw [exec_bind,exec_ofExcept]
        cases amendment.change state with
        | error fault => exact held
        | ok state' => exact attentive.moved (.of_amended found state') held
      · exact held

theorem clearShots : Keeps (Throughout P) clearShots := by
  refine (note _).bind fun _ => attentive.change fun hub => .of_signals ?_ rfl rfl
  cases recorder : hub.recorder <;> simp [wiring,recorder]

variable [Clock τ]

theorem notify : Keeps (Throughout P) notify := by
  refine keeps_look.bind fun hub => ?_
  split
  · exact keeps_pure _
  · refine (note _).bind fun _ => Keeps.bind ?_ fun _ => (keeps_ofExcept _).bind fun armed => ?_
    · exact attentive.change fun _ => .of_signals rfl rfl rfl
    · cases armed with
      | true =>
        refine Keeps.bind ?_ fun _ => (attentive.tell _ _ _).bind fun _ => keeps_pure _
        exact attentive.change fun _ => .of_signals rfl rfl rfl
      | false => exact (attentive.tell _ _ _).bind fun _ => keeps_pure _

theorem record (signal : Signal) : Keeps (Throughout P) (record signal) := by
  intro account held
  cases produced : signal.produced? with
  | none => rwa [record_passes produced]
  | some event =>
    cases present : account.hub.recorder with
    | none =>
      unfold Hub.record
      rw [exec_bind,exec_look]
      dsimp only [hub_account]
      rw [present]
      exact held
    | some recorder =>
      obtain ⟨before,after,ran⟩ := exec_record produced present
      have recorded : account.hub.Unmoved { account.hub with
          recorder := some { recorder with shots := recorder.shots.apply event }, log := after } :=
        .of_signals (by simp [wiring,present]) rfl rfl
      have asks : Keeps (Throughout P) (if recorder.notifies then discard Hub.notify else pure ()) := by
        split
        · exact attentive.notify.discard
        · exact keeps_pure _
      rw [ran]
      refine asks _ ⟨attentive.unmoved recorded held.1,List.forall_mem_cons.mpr ⟨?_,held.2⟩⟩
      exact attentive.unmoved (.of_log _ before) held.1

section

variable (cast : Cast τ) {performer : Performer (Account τ) τ}
  (performed : ∀ context actions, Keeps (Throughout P) (performer context actions))
include performed

theorem call (place : Nat) (listener : Listener) : Keeps (Throughout P) (call cast performer place listener) := by
  cases listener with
  | recorder => exact (keeps_signalAt place).bind fun signal => attentive.record signal
  | observer name =>
    refine (keeps_signalAt place).bind fun signal => keeps_look.bind fun hub => Keeps.bind ?_ fun _ => ?_
    · intro account held
      have counted : account.hub.Unmoved (account.hub.counted name) := .of_signals rfl rfl rfl
      exact ⟨attentive.called name signal account.hub.view (attentive.unmoved counted held.1),held.2⟩
    · split
      · exact performed _ _
      · exact keeps_pure _

theorem turn (router : Nat) (kind : String) (place : Nat) (listener : Listener) :
    Keeps (Throughout P) ((dispatch cast performer router kind place).turn listener) := by
  refine Dispatch.turn_keeps _ listener ?_ ?_ fun fault => ?_
  · exact keeps_look.bind fun _ => keeps_pure _
  · exact (note _).bind fun _ => attentive.call cast performed place listener
  · exact (attentive.tell _ _ _).bind fun _ => keeps_pure _

theorem publishAt (router place : Nat) : Keeps (Throughout P) (publishAt cast performer router place) := by
  refine (keeps_signalAt place).bind fun signal => (note _).bind fun _ => (attentive.tell _ _ _).bind fun _ => ?_
  refine keeps_look.bind fun hub => Dispatch.deliver_keeps _ _ fun listener _ => ?_
  exact attentive.turn cast performed router signal.kind place listener

theorem fireRefresh : Keeps (Throughout P) (fireRefresh cast performer) := by
  refine Keeps.bind ((note _).bind fun _ => ?_) fun _ => keeps_look.bind fun hub => ?_
  · exact attentive.change fun _ => .of_signals rfl rfl rfl
  · refine (attentive.tell _ _ _).bind fun _ => (attentive.place _).bind fun place => ?_
    exact (attentive.publishAt cast performed 0 place).discard

theorem fireCallback (callback : Callback τ) : Keeps (Throughout P) (fireCallback cast performer callback) := by
  cases callback with
  | refresh => exact attentive.fireRefresh cast performed
  | custom label actions =>
    refine Keeps.bind (fun account held => ?_) fun _ => performed none actions
    exact ⟨attentive.timed label account.hub.view held.1,held.2⟩

theorem flush : Keeps (Throughout P) (flush cast performer) := by
  refine keeps_look.bind fun hub => ?_
  split
  · refine Keeps.bind ?_ fun _ => (attentive.fireRefresh cast performed).bind fun _ => keeps_pure _
    exact attentive.change fun _ => .of_signals rfl rfl rfl
  · exact keeps_pure _

omit performed [Clock τ] in
private theorem timed_on {account : Account τ} (device : TimerDevice τ (Callback τ)) (held : Throughout P account) :
    Throughout P { account with hub := account.hub.withDevice device } :=
  attentive.moved (.of_signals rfl rfl rfl) held

/-- An action that rewires nothing keeps the property at every moment. -/
theorem act (context : Option Nat) (action : Action τ) (plain : action.rewires = false) :
    Keeps (Throughout P) (act cast performer context action) := by
  have called : ∀ {account : Account τ} {callback later}, account.hub.timer.device.Calls callback later →
      Throughout P account →
      Throughout P ((Hub.fireCallback cast performer callback).exec
        { account with hub := account.hub.withDevice later }).2 :=
    fun _ held => attentive.fireCallback cast performed _ _ (attentive.timed_on _ held)
  have passed : ∀ {account : Account τ} {later}, account.hub.timer.device.Passes later → Throughout P account →
      Throughout P { account with hub := account.hub.withDevice later } := fun _ held => attentive.timed_on _ held
  cases action with
  | raise fault => exact keeps_throw _
  | amend amendment => exact (attentive.amendState context amendment).bind fun _ => keeps_pure _
  | append key item => exact (attentive.amendState context _).bind fun _ => keeps_pure _
  | publish source router =>
    exact (attentive.place source).bind fun place => (attentive.publishAt cast performed router place).map _
  | handle source =>
    refine (attentive.place source).bind fun place => (keeps_signalAt place).bind fun signal => ?_
    exact (attentive.record signal).bind fun _ => keeps_pure _
  | countListeners kind router => exact keeps_look.bind fun _ => keeps_pure _
  | listKinds router => exact keeps_look.bind fun _ => keeps_pure _
  | notify => exact attentive.notify.map _
  | flush => exact (attentive.flush cast performed).map _
  | readDelay => exact keeps_look.bind fun _ => keeps_pure _
  | advance seconds => exact (keeps_advance passed called seconds).map _
  | fire => exact (keeps_fire called).map _
  | disarm =>
    refine keeps_look.bind fun hub => Keeps.bind ?_ fun _ => keeps_pure _
    exact attentive.change fun _ => .of_signals rfl rfl rfl
  | arm delay label actions =>
    refine keeps_look.bind fun hub => Keeps.bind ?_ fun _ => (keeps_ofExcept _).map _
    exact attentive.change fun _ => .of_signals rfl rfl rfl
  | sleep seconds => exact (keeps_sleep passed called seconds).bind fun _ => keeps_pure _
  | readShots => exact keeps_look.bind fun _ => keeps_pure _
  | scribble =>
    refine keeps_look.bind fun hub => ?_
    split
    · exact keeps_pure _
    · exact keeps_throw _
  | summarize =>
    refine keeps_look.bind fun hub => ?_
    dsimp only
    split
    · exact keeps_throw _
    · exact keeps_pure _
  | clear => exact attentive.clearShots.bind fun _ => keeps_pure _
  | subscribe _ _ _ _ => simp [Action.rewires] at plain
  | unsubscribe _ _ _ => simp [Action.rewires] at plain
  | cancel _ => simp [Action.rewires] at plain
  | attach _ => simp [Action.rewires] at plain
  | detach => simp [Action.rewires] at plain

end

end Attentive

end Hub

end ShotRecorder
