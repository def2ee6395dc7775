import ShotRecorder.Proofs.Matching
import ShotRecorder.Hub.Perform

/-!
Hubs side by side. Two hosts do the same if their hubs are the same in some aspect (`Aspect.Beside`): what is done
with a hub depends on neither the log nor what was seen, so that these may differ. For each thing that is done
there is one lemma, and from them what actions do, wherever performing and publishing match
(`Partners.act`). Runs with and without an account are compared so, and runs with observers that fail or do not.
-/
namespace ShotRecorder

open Run

/-- What counts of a hub and of replies: all but the log and what was seen, and of these what is picked. Lines that
    tell of no fault count, and so does whatever was seen but a reply. -/
structure Aspect (τ : Type) where
  log : Array LogRecord → Array LogRecord
  seen : Array (Sighting τ) → Array (Sighting τ)
  reply : Reply τ → Reply τ
  told : ∀ lines level text, log (lines.push { level, text }) = (log lines).push { level, text }
  called : ∀ sightings name signal view,
    seen (sightings.push (.call name signal view)) = (seen sightings).push (.call name signal view)
  timed : ∀ sightings label view,
    seen (sightings.push (.timer label view)) = (seen sightings).push (.timer label view)
  did : ∀ sightings action answer,
    seen (sightings.push (.did action answer)) = (seen sightings).push (.did action (reply answer))

namespace Aspect

variable {σ σ' τ α β : Type} [Host σ τ] [Host σ' τ] {aspect : Aspect τ} {E : σ → σ' → Prop} {W : Fault → Prop}

/-- The aspect of a hub. -/
def hub (aspect : Aspect τ) (hub : Hub τ) : Hub τ := { hub with log := aspect.log hub.log, seen := aspect.seen hub.seen }

theorem hub_logged (aspect : Aspect τ) (hub : Hub τ) (level : Level) (text : String) :
    aspect.hub (hub.logged { level, text }) = (aspect.hub hub).logged { level, text } := by
  unfold Hub.logged
  by_cases heard : hub.threshold ≤ level.number
  · simp [Aspect.hub,heard,aspect.told]
  · simp [Aspect.hub,heard]

theorem hub_detached (aspect : Aspect τ) (hub : Hub τ) : aspect.hub hub.detached = (aspect.hub hub).detached := by
  rcases hub with ⟨whole,routers,recorder⟩
  cases recorder with
  | none => rfl
  | some recorder =>
    rcases recorder with ⟨shots,router,notifies⟩
    cases router with
    | none => rfl
    | some router => rfl

theorem hub_attached (aspect : Aspect τ) (hub : Hub τ) (router : Nat) :
    aspect.hub (hub.attached router) = (aspect.hub hub).attached router := by
  unfold Hub.attached
  rw [← hub_detached]
  rfl

/-- Hosts that stay related as long as the same is done with hubs that are the same in an aspect. -/
structure Beside (aspect : Aspect τ) (E : σ → σ' → Prop) : Prop where
  hubs : ∀ {s t}, E s t → aspect.hub (Host.hub s) = aspect.hub (Host.hub t)
  put : ∀ {s t hub hub'}, E s t → aspect.hub hub = aspect.hub hub' → E (Host.put s hub) (Host.put t hub')
  noted : ∀ {s t} occurrence, E s t → E (Host.note s occurrence) (Host.note t occurrence)

namespace Beside

variable (beside : aspect.Beside E)
include beside

/-- What comes after a look at the hub, where the log and what was seen are not looked at. -/
theorem look {O : Except Fault α → Except Fault β → Prop} {f : Hub τ → Run σ α} {g : Hub τ → Run σ' β}
    (blind : ∀ hub, f (aspect.hub hub) = f hub) (blind' : ∀ hub, g (aspect.hub hub) = g hub)
    (next : ∀ hub, Matches E W O (f hub) (g hub)) : Matches E W O (Hub.look >>= f) (Hub.look >>= g) := by
  intro s t alike
  rw [exec_bind,exec_bind,Hub.exec_look,Hub.exec_look]
  dsimp only
  rw [← blind,← blind' (Host.hub t),← beside.hubs alike]
  exact next _ alike

theorem change {f g : Hub τ → Hub τ}
    (same : ∀ hub hub', aspect.hub hub = aspect.hub hub' → aspect.hub (f hub) = aspect.hub (g hub')) :
    Matches E W (Tallies Eq) (Hub.change f) (Hub.change g) :=
  fun _ _ alike _ => ⟨.value rfl,beside.put alike (same _ _ (beside.hubs alike))⟩

/-- A change that does the same in the aspect. -/
theorem blind {f : Hub τ → Hub τ} (blind : ∀ hub, aspect.hub (f hub) = f (aspect.hub hub)) :
    Matches E W (Tallies Eq) (Hub.change f) (Hub.change f) :=
  beside.change fun hub hub' same => by rw [blind,blind,same]

/-- What comes after such a change. -/
theorem changed {O : Except Fault α → Except Fault β → Prop} {f : Hub τ → Hub τ} {x : Unit → Run σ α}
    {y : Unit → Run σ' β} (blind : ∀ hub, aspect.hub (f hub) = f (aspect.hub hub))
    (next : Matches E W O (x ()) (y ())) : Matches E W O (Hub.change f >>= x) (Hub.change f >>= y) := by
  intro s t alike
  rw [exec_bind,exec_bind,Hub.exec_change,Hub.exec_change]
  exact next (beside.put alike (by rw [blind,blind,beside.hubs alike]))

theorem note (occurrence : Occurrence) : Matches E W (Tallies Eq) (Hub.note occurrence) (Hub.note occurrence) :=
  fun _ _ alike _ => ⟨.value rfl,beside.noted occurrence alike⟩

theorem tell (level : Level) (text : String) : Matches E W (Tallies Eq) (Hub.tell level text) (Hub.tell level text) :=
  beside.blind fun hub => aspect.hub_logged hub level text

theorem place (source : Source) : Matches E W (Tallies Eq) (Hub.place source) (Hub.place source) := by
  cases source with
  | kept place => exact matches_pure rfl
  | fresh made =>
    refine (matches_ofExcept made).next fun signal => ?_
    refine beside.look (fun _ => rfl) (fun _ => rfl) fun hub => ?_
    exact beside.changed (fun _ => rfl) (matches_pure rfl)

theorem signalAt (place : Nat) : Matches E W (Tallies Eq) (Hub.signalAt place) (Hub.signalAt place) := by
  refine beside.look (fun _ => rfl) (fun _ => rfl) fun hub => ?_
  split
  · exact matches_pure rfl
  · exact matches_throw _

theorem amendState (place : Option Nat) (amendment : Amendment) :
    Matches E W (Tallies Eq) (Hub.amendState place amendment) (Hub.amendState place amendment) := by
  cases place with
  | none => exact matches_throw _
  | some place =>
    refine (beside.signalAt place).next fun signal => ?_
    split
    · exact (matches_ofExcept _).next fun state => beside.blind fun _ => rfl
    · exact matches_throw _

theorem beginRefresh : Matches E W (Tallies Eq) Hub.beginRefresh Hub.beginRefresh := by
  refine (beside.note _).next fun _ => beside.blind ?_
  exact fun _ => rfl

theorem clearShots : Matches E W (Tallies Eq) Hub.clearShots Hub.clearShots := by
  refine (beside.note _).next fun _ => beside.blind ?_
  exact fun _ => rfl

theorem setDevice (device : TimerDevice τ (Callback τ)) :
    Matches E W (Tallies Eq) (Hub.setDevice device) (Hub.setDevice device) :=
  beside.blind fun _ => rfl

theorem wakeUp (wake : τ) : Matches E W (Tallies Eq) (Hub.wakeUp wake) (Hub.wakeUp wake) := by
  refine beside.look (fun _ => rfl) (fun _ => rfl) fun hub => ?_
  split
  · exact matches_pure rfl
  · exact beside.setDevice _

variable [Clock τ]

theorem notify : Matches E W (Tallies Eq) Hub.notify Hub.notify := by
  refine beside.look (fun _ => rfl) (fun _ => rfl) fun hub => ?_
  split
  · exact matches_pure rfl
  · refine (beside.note _).next fun _ => beside.changed (fun _ => rfl) ?_
    refine (matches_ofExcept _).next fun answer => ?_
    cases answer with
    | true => exact beside.changed (fun _ => rfl) ((beside.tell _ _).next fun _ => matches_pure rfl)
    | false => exact (beside.tell _ _).next fun _ => matches_pure rfl

theorem record (signal : Signal) : Matches E W (Tallies Eq) (Hub.record signal) (Hub.record signal) := by
  refine beside.look (fun _ => rfl) (fun _ => rfl) fun hub => ?_
  split
  · exact matches_throw _
  · exact matches_pure rfl
  · exact matches_pure rfl
  · refine Matches.next ?_ fun _ => (beside.note _).next fun _ => beside.changed (fun _ => rfl) ?_
    · unfold Hub.opening
      split
      · exact matches_pure rfl
      · exact beside.tell _ _
    refine Matches.next ?_ fun _ => ?_
    · unfold Hub.closing
      split
      · exact beside.tell _ _
      · exact matches_pure rfl
    · split
      · exact beside.notify.discard
      · exact matches_pure rfl

variable {cast cast' : Cast τ} {performer : Hub.Performer σ τ} {performer' : Hub.Performer σ' τ}

/-- Calls match in the way in which what observers do matches. -/
theorem call {O : Except Fault Unit → Except Fault Unit → Prop}
    (same : ∀ outcome outcome', Tallies Eq outcome outcome' → O outcome outcome')
    (observed : ∀ name place count, Matches E W O
      (match cast.lookup name with
        | some observer => performer (some place) (observer.script count)
        | none => pure ())
      (match cast'.lookup name with
        | some observer => performer' (some place) (observer.script count)
        | none => pure ()))
    (place : Nat) (listener : Listener) :
    Matches E W O (Hub.call cast performer place listener) (Hub.call cast' performer' place listener) := by
  cases listener with
  | recorder => exact ((beside.signalAt place).next beside.record).mono same
  | observer name =>
    refine (beside.signalAt place).before ?_ fun fault => same _ _ (.fault fault)
    rintro signal _ rfl
    refine beside.look (fun _ => rfl) (fun _ => rfl) fun hub => ?_
    refine beside.changed (fun hub => ?_) (observed name place (hub.callCount name))
    simp only [Hub.saw,Aspect.hub,aspect.called]
    rfl

theorem registered (router : Nat) (kind : String) (place : Nat) (listener : Listener) :
    Matches E W (Tallies Eq) ((Hub.dispatch cast performer router kind place).registered listener)
      ((Hub.dispatch cast' performer' router kind place).registered listener) :=
  beside.look (fun _ => rfl) (fun _ => rfl) fun _ => matches_pure rfl

/-- Publishing matches if the turns of listeners do. -/
theorem publishAt {G : Option Failure → Option Failure → Prop} {F : List Failure → List Failure → Prop}
    (none : F [] [])
    (more : ∀ {failure failure' found found'}, G failure failure' → F found found' →
      F (failure.toList ++ found) (failure'.toList ++ found'))
    (turns : ∀ router kind place listener, Matches E W (Tallies G)
      ((Hub.dispatch cast performer router kind place).turn listener)
      ((Hub.dispatch cast' performer' router kind place).turn listener))
    (router place : Nat) :
    Matches E W (Tallies F) (Hub.publishAt cast performer router place) (Hub.publishAt cast' performer' router place) := by
  refine (beside.signalAt place).next fun signal => (beside.note _).next fun _ => (beside.tell _ _).next fun _ => ?_
  refine beside.look (fun _ => rfl) (fun _ => rfl) fun hub => ?_
  exact Dispatch.deliver_matches none more (turns router signal.kind place) _

end Beside

/-- Two hosts in which performing and publishing match, so that all actions do. -/
structure Partners [Clock τ] (aspect : Aspect τ) (E : σ → σ' → Prop) (W : Fault → Prop) (cast cast' : Cast τ)
    (performer : Hub.Performer σ τ) (performer' : Hub.Performer σ' τ) : Prop where
  beside : aspect.Beside E
  waived : ∀ fault, W fault → fault.isOrdinary = false
  performed : ∀ context actions, Matches E W (Tallies Eq) (performer context actions) (performer' context actions)
  published : ∀ router place,
    Matches E W (Tallies fun found found' => aspect.reply (.failures found) = aspect.reply (.failures found'))
      (Hub.publishAt cast performer router place) (Hub.publishAt cast' performer' router place)

namespace Partners

variable [Clock τ] {cast cast' : Cast τ} {performer : Hub.Performer σ τ} {performer' : Hub.Performer σ' τ}
  (partners : aspect.Partners E W cast cast' performer performer')
include partners

theorem fireRefresh : Matches E W (Tallies Eq) (Hub.fireRefresh cast performer) (Hub.fireRefresh cast' performer') := by
  have beside := partners.beside
  refine beside.beginRefresh.next fun _ => ?_
  refine beside.look (fun _ => rfl) (fun _ => rfl) fun hub => (beside.tell _ _).next fun _ => ?_
  exact (beside.place _).next fun place => (partners.published 0 place).discard

theorem fireCallback (callback : Callback τ) :
    Matches E W (Tallies Eq) (Hub.fireCallback cast performer callback) (Hub.fireCallback cast' performer' callback) := by
  cases callback with
  | refresh => exact partners.fireRefresh
  | custom label actions =>
    refine partners.beside.changed (fun hub => ?_) (partners.performed none actions)
    simp only [Hub.saw,Aspect.hub,aspect.timed]
    rfl

theorem flush : Matches E W (Tallies Eq) (Hub.flush cast performer) (Hub.flush cast' performer') := by
  refine partners.beside.look (fun _ => rfl) (fun _ => rfl) fun hub => ?_
  split
  · exact partners.beside.changed (fun _ => rfl) (partners.fireRefresh.next fun _ => matches_pure rfl)
  · exact matches_pure rfl

theorem advance (seconds : τ) :
    Matches E W (Tallies Eq) (Hub.advance cast performer seconds) (Hub.advance cast' performer' seconds) := by
  refine partners.beside.look (fun _ => rfl) (fun _ => rfl) fun hub => ?_
  split
  · exact matches_throw _
  · refine (matches_ofExcept _).next fun result => (partners.beside.setDevice _).next fun _ => ?_
    split
    · exact (partners.fireCallback _).next fun _ => matches_pure rfl
    · exact matches_pure rfl

theorem fire : Matches E W (Tallies Eq) (Hub.fire cast performer) (Hub.fire cast' performer') := by
  refine partners.beside.look (fun _ => rfl) (fun _ => rfl) fun hub => ?_
  split
  · exact matches_throw _
  · split
    · refine (partners.beside.setDevice _).next fun _ => ?_
      exact (partners.fireCallback _).next fun _ => matches_pure rfl
    · exact matches_pure rfl

theorem fireOnLoop (callback : Callback τ) :
    Matches E W (Tallies Eq) (Hub.fireOnLoop cast performer callback) (Hub.fireOnLoop cast' performer' callback) := by
  refine (partners.fireCallback callback).attempted (fun fault waived => ?_) fun outcome outcome' tallies => ?_
  · simp [partners.waived fault waived]
  cases tallies with
  | value related => exact matches_pure rfl
  | fault fault =>
    dsimp only
    split
    · exact matches_pure rfl
    · exact matches_throw fault

theorem sleepUntil (wake : τ) (callbacks : Nat) :
    Matches E W (Tallies Eq) (Hub.sleepUntil cast performer wake callbacks)
      (Hub.sleepUntil cast' performer' wake callbacks) := by
  induction callbacks with
  | zero => exact matches_throw _
  | succ callbacks ih =>
    refine partners.beside.look (fun _ => rfl) (fun _ => rfl) fun hub => ?_
    split
    · exact matches_pure rfl
    · split
      · exact partners.beside.wakeUp wake
      · refine (partners.beside.setDevice _).next fun _ => (partners.fireOnLoop _).next fun _ => ?_
        split
        · exact partners.beside.wakeUp wake
        · exact ih

theorem sleep (seconds : τ) :
    Matches E W (Tallies Eq) (Hub.sleep cast performer seconds) (Hub.sleep cast' performer' seconds) := by
  refine partners.beside.look (fun _ => rfl) (fun _ => rfl) fun hub => ?_
  split
  · exact matches_pure rfl
  · exact (matches_ofExcept _).next fun wake => partners.sleepUntil wake _

/-- An action does the same in both hosts, and answers the same in the aspect. -/
theorem act (context : Option Nat) (action : Action τ) :
    Matches E W (Tallies fun reply reply' => aspect.reply reply = aspect.reply reply')
      (Hub.act cast performer context action) (Hub.act cast' performer' context action) := by
  have beside := partners.beside
  have read : ∀ f : Hub τ → Reply τ, (∀ hub, f (aspect.hub hub) = f hub) →
      Matches E W (Tallies fun reply reply' => aspect.reply reply = aspect.reply reply')
        (Hub.look >>= fun hub => pure (f hub)) (Hub.look >>= fun hub => pure (f hub)) := by
    intro f blind
    refine beside.look ?_ ?_ fun hub => matches_pure rfl
    · exact fun hub => by rw [blind]
    · exact fun hub => by rw [blind]
  have answer : ∀ {γ : Type} (f : γ → Reply τ) (a b : γ), a = b → aspect.reply (f a) = aspect.reply (f b) := by
    rintro γ f a _ rfl
    rfl
  cases action with
  | raise fault => exact matches_throw _
  | amend amendment => exact (beside.amendState context amendment).next fun _ => matches_pure rfl
  | append key item => exact (beside.amendState context _).next fun _ => matches_pure rfl
  | publish source router =>
    exact (beside.place source).next fun place => (partners.published router place).map fun _ _ same => same
  | handle source =>
    refine (beside.place source).next fun place => (beside.signalAt place).next fun signal => ?_
    exact (beside.record signal).next fun _ => matches_pure rfl
  | subscribe kind listener router token =>
    refine beside.look (fun _ => rfl) (fun _ => rfl) fun hub => beside.changed ?_ (matches_pure rfl)
    intro hub
    cases token with
    | none => rfl
    | some name => rfl
  | unsubscribe kind listener router =>
    exact beside.look (fun _ => rfl) (fun _ => rfl) fun hub => beside.changed (fun _ => rfl) (matches_pure rfl)
  | cancel token =>
    refine beside.look (fun _ => rfl) (fun _ => rfl) fun hub => ?_
    split
    · exact beside.look (fun _ => rfl) (fun _ => rfl) fun hub => beside.changed (fun _ => rfl) (matches_pure rfl)
    · exact matches_throw _
  | countListeners kind router => exact read (fun hub => .number ((hub.registry router).count kind)) fun _ => rfl
  | listKinds router => exact read (fun hub => .names (hub.registry router).kinds) fun _ => rfl
  | notify => exact beside.notify.map (answer .truth)
  | flush => exact partners.flush.map (answer .truth)
  | readDelay => exact read (fun hub => .delay hub.scheduler.delay) fun _ => rfl
  | advance seconds => exact (partners.advance seconds).map (answer .truth)
  | fire => exact partners.fire.map (answer .truth)
  | disarm =>
    exact beside.look (fun _ => rfl) (fun _ => rfl) fun hub => beside.changed (fun _ => rfl) (matches_pure rfl)
  | arm delay label actions =>
    refine beside.look (fun _ => rfl) (fun _ => rfl) fun hub => beside.changed (fun _ => rfl) ?_
    exact (matches_ofExcept _).map (answer .truth)
  | sleep seconds => exact (partners.sleep seconds).next fun _ => matches_pure rfl
  | readShots => exact read (fun hub => .shots hub.shots.shots) fun _ => rfl
  | scribble =>
    refine beside.look (fun _ => rfl) (fun _ => rfl) fun hub => ?_
    split
    · exact matches_pure rfl
    · exact matches_throw _
  | summarize =>
    refine beside.look (fun _ => rfl) (fun _ => rfl) fun hub => ?_
    dsimp only
    split
    · exact matches_throw _
    · exact matches_pure rfl
  | clear => exact beside.clearShots.next fun _ => matches_pure rfl
  | attach router =>
    refine beside.look (fun _ => rfl) (fun _ => rfl) fun hub => ?_
    split
    · exact beside.changed (fun hub => aspect.hub_attached hub router) (matches_pure rfl)
    · exact matches_throw _
  | detach =>
    refine beside.look (fun _ => rfl) (fun _ => rfl) fun hub => ?_
    split
    · exact beside.changed aspect.hub_detached (matches_pure rfl)
    · exact matches_throw _

theorem actSeen (context : Option Nat) (action : Action τ) :
    Matches E W (Tallies Eq) (Hub.actSeen cast performer context action)
      (Hub.actSeen cast' performer' context action) := by
  refine (partners.act context action).bind fun reply reply' replied => ?_
  split
  · refine partners.beside.change fun hub hub' same => ?_
    have saw : ∀ (hub : Hub τ) reply, aspect.hub (hub.saw (.did action reply)) =
        (aspect.hub hub).saw (.did action (aspect.reply reply)) := by
      intro hub reply
      simp only [Hub.saw,Aspect.hub,aspect.did]
    rw [saw,saw,same,replied]
  · exact matches_pure rfl

end Partners

end Aspect

/-- Performing actions is doing them in order, where there is some depth left. -/
theorem Hub.perform_succ {σ τ : Type} [Host σ τ] [Clock τ] (cast : Cast τ) (depth : Nat) (context : Option Nat)
    (actions : List (Action τ)) :
    (perform cast (depth + 1) context actions : Run σ Unit) =
      actions.forM (actSeen cast (perform cast depth) context) := by
  cases actions <;> rfl

end ShotRecorder
