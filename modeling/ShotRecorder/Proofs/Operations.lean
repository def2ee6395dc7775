import ShotRecorder.Hub.Perform
import ShotRecorder.Proofs.Callbacks
import ShotRecorder.Proofs.Keeping

/-!
What the operations of a hub do to an account, and what they keep. Each operation has a lemma that says what it
does (`exec_publishAt`, `exec_fireRefresh`) or what it keeps if each of its steps keeps it (`keeps_notify`,
`keeps_publishAt`, `keeps_sleep`). Most properties depend neither on the log nor on what observers saw (`Plain`).
-/
namespace ShotRecorder

/-- The event that a signal brings to the recorder; any other signal it passes over. -/
def Signal.produced? : Signal → Option Event
  | .event .refresh => none
  | .event e => some e
  | .bare _ => none

theorem Signal.produced_event {event : Event} (producer : event.kind ∈ Kind.producers) :
    (Signal.event event).produced? = some event := by
  cases event with
  | refresh => simp [Event.kind,Kind.producers] at producer
  | _ => rfl

theorem Signal.eq_of_produced {signal : Signal} {event : Event} (produced : signal.produced? = some event) :
    signal = .event event ∧ event.kind ∈ Kind.producers := by
  cases signal with
  | bare kind => simp [Signal.produced?] at produced
  | event e =>
    cases e <;> simp only [Signal.produced?,Option.some.injEq,reduceCtorEq] at produced <;> subst produced
    all_goals exact ⟨rfl,by simp [Event.kind,Kind.producers]⟩

namespace Hub
open Run

variable {τ : Type}

/-- What a hub is made of, without what is logged and what observers saw. -/
def parts (hub : Hub τ) : Hub τ := { hub with calls := [], log := #[], seen := #[] }

/-- Logging a line changes nothing but the log. -/
theorem logged_frame (hub : Hub τ) (record : LogRecord) : ∃ log, hub.logged record = { hub with log } := by
  unfold logged
  split
  · exact ⟨_,rfl⟩
  · exact ⟨hub.log,rfl⟩

theorem parts_logged (hub : Hub τ) (record : LogRecord) : (hub.logged record).parts = hub.parts := by
  obtain ⟨log,same⟩ := logged_frame hub record
  rw [same]
  rfl

/-- Taking the recorder off its router changes nothing but routers and where the recorder is attached. -/
theorem detached_frame (hub : Hub τ) : ∃ routers,
    hub.detached = { hub with routers, recorder := hub.recorder.map fun r => { r with router := none } } := by
  unfold detached
  cases present : hub.recorder with
  | none => exact ⟨hub.routers,by cases hub; simp_all⟩
  | some recorder =>
    cases attachedTo : recorder.router with
    | none => exact ⟨hub.routers,by simp [attachedTo]⟩
    | some router => exact ⟨(hub.unsubscribed router).routers,by simp [attachedTo,unsubscribed,onRouter]⟩

/-- So does attaching it. -/
theorem attached_frame (hub : Hub τ) (router : Nat) : ∃ routers,
    hub.attached router =
      { hub with routers, recorder := hub.recorder.map fun r => { r with router := some router } } := by
  obtain ⟨routers,same⟩ := detached_frame hub
  refine ⟨(hub.attached router).routers,?_⟩
  unfold attached
  rw [same]
  simp [subscribed,onRouter,Function.comp_def]

/-- A hub whose timer has another device. -/
def withDevice (hub : Hub τ) (device : TimerDevice τ (Callback τ)) : Hub τ :=
  { hub with timer := { hub.timer with device } }

/-- The actions that a callback performs by itself. -/
def actionsOf : Callback τ → List (Action τ)
  | .refresh => []
  | .custom _ actions => actions

variable {I : Account τ → Prop}

theorem keeps_look : Keeps I look := fun _ held => held

theorem keeps_change {f : Hub τ → Hub τ} (kept : ∀ account, I account → I { account with hub := f account.hub }) :
    Keeps I (change f) := kept

/-- What is done with the hub as it is now may count on what holds of it. -/
theorem keeps_look_bind {α : Type} {f : Hub τ → Run (Account τ) α}
    (next : ∀ account, I account → I ((f account.hub).exec account).2) : Keeps I (look >>= f) := by
  intro account held
  rw [exec_bind,exec_look]
  exact next account held

theorem exec_signalAt (place : Nat) (account : Account τ) :
    (signalAt place).exec account =
      match account.hub.signals[place]? with
      | some signal => (.ok signal,account)
      | none => (.error .missingPart,account) := by
  unfold signalAt
  rw [exec_bind,exec_look,hub_account]
  dsimp only
  cases account.hub.signals[place]? <;> rfl

theorem exec_place (signal : Signal) (account : Account τ) :
    (place (.fresh (.ok signal))).exec account =
      (.ok account.hub.signals.size,
        { account with hub := { account.hub with signals := account.hub.signals.push signal } }) := rfl

theorem keeps_signalAt (place : Nat) : Keeps I (signalAt place) := by
  intro account held
  rw [exec_signalAt]
  split <;> exact held

theorem exec_beginRefresh (account : Account τ) :
    beginRefresh.exec account =
      (.ok (),
        { hub := { account.hub with
            scheduler := { account.hub.scheduler with pending := false, fired := account.hub.scheduler.fired + 1 } }
          past := { occurrence := .refresh, hub := account.hub } :: account.past }) := rfl

theorem exec_clearShots (account : Account τ) :
    clearShots.exec account =
      (.ok (),
        { hub := { account.hub with recorder := account.hub.recorder.map fun r => { r with shots := {} } }
          past := { occurrence := .clear, hub := account.hub } :: account.past }) := rfl

/-- Neither what is logged nor what observers saw matters to the property. -/
def Plain (I : Account τ → Prop) : Prop :=
  ∀ {account : Account τ} {hub : Hub τ}, hub.parts = account.hub.parts → I account → I { account with hub }

/-- A property that is the same of the parts of the hub. -/
theorem plain_of_parts (same : ∀ account : Account τ, I account ↔ I { account with hub := account.hub.parts }) :
    Plain I := by
  intro account hub equal held
  rw [same] at held ⊢
  dsimp only
  rw [equal]
  exact held

theorem opening_logs (shots : ShotLog) (account : Account τ) :
    ∃ log, (opening shots).exec account = (.ok (),{ account with hub := { account.hub with log } }) := by
  unfold opening
  split
  · exact ⟨account.hub.log,rfl⟩
  · obtain ⟨log,same⟩ := logged_frame account.hub
      { level := .trace, text := "Shot " ++ toString (shots.closedCount + 1) ++ " opened", fault := none }
    exact ⟨log,congrArg (fun hub => (Except.ok (),({ account with hub } : Account τ))) same⟩

theorem closing_logs (shots : ShotLog) (event : Event) (account : Account τ) :
    ∃ log, (closing shots event).exec account = (.ok (),{ account with hub := { account.hub with log } }) := by
  unfold closing
  split
  · obtain ⟨log,same⟩ := logged_frame account.hub _
    exact ⟨log,congrArg (fun hub => (Except.ok (),({ account with hub } : Account τ))) same⟩
  · exact ⟨account.hub.log,rfl⟩

section

variable (plain : Plain I)
include plain

theorem keeps_tell (level : Level) (text : String) (fault : Option Fault) : Keeps I (tell level text fault) :=
  keeps_change fun _ held => plain (parts_logged _ _) held

theorem keeps_saw (sighting : Hub τ → Sighting τ) : Keeps I (change fun hub => hub.saw (sighting hub)) :=
  keeps_change fun _ held => plain rfl held

theorem keeps_opening (shots : ShotLog) : Keeps I (opening shots) := by
  intro account held
  obtain ⟨log,ran⟩ := opening_logs shots account
  rw [ran]
  have same : parts { account.hub with log } = account.hub.parts := rfl
  exact plain same held

theorem keeps_closing (shots : ShotLog) (event : Event) : Keeps I (closing shots event) := by
  intro account held
  obtain ⟨log,ran⟩ := closing_logs shots event account
  rw [ran]
  have same : parts { account.hub with log } = account.hub.parts := rfl
  exact plain same held

variable {cast : Cast τ} {performer : Performer (Account τ) τ}

theorem keeps_callObserver (name : String) (place : Nat)
    (performed : ∀ observer, (name,observer) ∈ cast → ∀ n, Keeps I (performer (some place) (observer.script n))) :
    Keeps I (callObserver cast performer name place) := by
  refine (keeps_signalAt place).bind fun signal => keeps_look.bind fun hub => ?_
  refine (keeps_change fun _ held => plain rfl held).bind fun _ => ?_
  cases found : cast.lookup name with
  | none => exact keeps_pure _
  | some observer =>
    obtain ⟨before,after,split,-⟩ := List.lookup_eq_some_iff.mp found
    exact performed observer (by simp [split]) _

variable [Clock τ]

theorem keeps_notify (noted : Keeps I (note .request))
    (scheduled : ∀ account : Account τ, I account →
      I { account with
          hub := { account.hub with
            timer := (account.hub.timer.schedule account.hub.scheduler.delay .refresh).2 } })
    (pended : ∀ account : Account τ, I account →
      I { account with
          hub := { account.hub with scheduler := { account.hub.scheduler with pending := true } } }) :
    Keeps I notify := by
  refine keeps_look_bind fun account held => ?_
  split
  · exact held
  · rw [exec_bind,exec_note]
    dsimp only
    rw [exec_bind,exec_change]
    dsimp only
    refine Keeps.bind (keeps_ofExcept _) (fun armed => ?_) _ (scheduled _ (noted account held))
    cases armed with
    | true =>
      refine (keeps_change pended).bind fun _ => ?_
      exact (keeps_tell plain _ _ _).bind fun _ => keeps_pure _
    | false => exact (keeps_tell plain _ _ _).bind fun _ => keeps_pure _

omit plain in
theorem exec_notify_of_pending {account : Account τ} (pending : account.hub.scheduler.pending = true) :
    notify.exec account = (.ok false,account) := by
  unfold notify
  rw [exec_bind,exec_look]
  dsimp only [hub_account]
  rw [pending]
  rfl

omit plain in
/-- While no refresh is pending, a request asks the timer, and makes one pending if the timer says yes. -/
theorem exec_notify_logs {account : Account τ} (idle : account.hub.scheduler.pending = false)
    {answer : Except Fault Bool} {timer : Timer τ (Callback τ)}
    (scheduled : account.hub.timer.schedule account.hub.scheduler.delay .refresh = (answer,timer)) :
    ∃ log, notify.exec account =
      (answer,
        { hub := { account.hub with timer, log, scheduler := { account.hub.scheduler with pending := isYes answer } }
          past := { occurrence := .request, hub := account.hub } :: account.past }) := by
  have stays : { account.hub.scheduler with pending := false } = account.hub.scheduler := by
    rw [← idle]
  unfold notify
  rw [exec_bind,exec_look]
  dsimp only [hub_account]
  rw [idle]
  simp only [Bool.false_eq_true,↓reduceIte]
  rw [exec_bind,exec_note]
  dsimp only [note_account]
  rw [exec_bind,exec_change]
  dsimp only [hub_account,put_account]
  rw [exec_bind,exec_ofExcept,scheduled]
  have done : ∀ (answer : Except Fault Bool) (hub : Hub τ) (record : LogRecord), ∃ log,
      (answer,({ hub := hub.logged record, past := { occurrence := .request, hub := account.hub } :: account.past } :
        Account τ)) =
      (answer,{ hub := { hub with log }, past := { occurrence := .request, hub := account.hub } :: account.past }) := by
    intro answer hub record
    obtain ⟨log,same⟩ := logged_frame hub record
    exact ⟨log,by rw [same]⟩
  cases answer with
  | error fault => exact ⟨account.hub.log,by simp only [isYes,stays]⟩
  | ok armed =>
    cases armed with
    | true => exact done _ { account.hub with timer, scheduler := { account.hub.scheduler with pending := true } } _
    | false =>
      simp only [isYes,stays]
      exact done _ { account.hub with timer } _

omit plain in
theorem exec_notify {account : Account τ} (idle : account.hub.scheduler.pending = false)
    {answer : Except Fault Bool} {timer : Timer τ (Callback τ)}
    (scheduled : account.hub.timer.schedule account.hub.scheduler.delay .refresh = (answer,timer)) :
    ∃ hub,
      hub.parts =
        parts { account.hub with timer, scheduler := { account.hub.scheduler with pending := isYes answer } } ∧
      notify.exec account = (answer,{ hub, past := { occurrence := .request, hub := account.hub } :: account.past }) := by
  obtain ⟨log,ran⟩ := exec_notify_logs idle scheduled
  let asked : Hub τ :=
    { account.hub with timer, log, scheduler := { account.hub.scheduler with pending := isYes answer } }
  exact ⟨asked,rfl,ran⟩

theorem keeps_record (noted : ∀ event, Keeps I (note (.record event)))
    (applied : ∀ (account : Account τ) (recorder : Recorder) event, I account →
      I { account with
          hub := { account.hub with
            recorder := some { recorder with shots := recorder.shots.apply event } } })
    (notified : Keeps I notify) (signal : Signal) : Keeps I (record signal) := by
  refine keeps_look.bind fun hub => ?_
  split
  · exact keeps_throw _
  · exact keeps_pure _
  · exact keeps_pure _
  · refine (keeps_opening plain _).bind fun _ => (noted _).bind fun _ => ?_
    refine (keeps_change fun account held => applied account _ _ held).bind fun _ => ?_
    refine (keeps_closing plain _ _).bind fun _ => ?_
    split
    · exact notified.discard
    · exact keeps_pure _

omit plain in
/-- An event of a producer is applied to the shots, and a refresh is requested then. -/
theorem exec_record {signal : Signal} {event : Event} (produced : signal.produced? = some event) {account : Account τ}
    {recorder : Recorder} (present : account.hub.recorder = some recorder) :
    ∃ before after, (record signal).exec account =
      (if recorder.notifies then discard notify else pure () : Run (Account τ) Unit).exec
        { hub := { account.hub with
            recorder := some { recorder with shots := recorder.shots.apply event }, log := after }
          past := { occurrence := .record event, hub := { account.hub with log := before } } :: account.past } := by
  obtain ⟨rfl,producer⟩ := Signal.eq_of_produced produced
  obtain ⟨before,ranOpening⟩ := opening_logs recorder.shots account
  let applied : Account τ :=
    { hub := { account.hub with
        recorder := some { recorder with shots := recorder.shots.apply event }, log := before }
      past := { occurrence := .record event, hub := { account.hub with log := before } } :: account.past }
  obtain ⟨after,ranClosing⟩ := closing_logs recorder.shots event applied
  let left : Account τ := { applied with hub := { applied.hub with log := after } }
  have ran : (record (.event event)).exec account =
      (if recorder.notifies then discard notify else pure () : Run (Account τ) Unit).exec left := by
    unfold record
    rw [exec_bind,exec_look]
    dsimp only [hub_account]
    rw [present]
    cases event with
    | refresh => simp [Event.kind,Kind.producers] at producer
    | _ =>
      dsimp only
      rw [exec_bind,ranOpening]
      dsimp only
      rw [exec_bind,exec_note]
      dsimp only [note_account]
      rw [exec_bind,exec_change]
      dsimp only [hub_account,put_account]
      rw [exec_bind,ranClosing]
  exact ⟨before,after,ran⟩

omit plain in
/-- Bringing an event to the recorder first establishes what applying it establishes, and then what the
    request for a refresh makes of it. -/
theorem record_leads (B C : Account τ → Prop) (before : Plain B) (after : Plain C) {signal : Signal} {event : Event}
    (produced : signal.produced? = some event)
    (applied : ∀ (account : Account τ) recorder, account.hub.recorder = some recorder → B account →
      C { hub := { account.hub with recorder := some { recorder with shots := recorder.shots.apply event } }
          past := { occurrence := .record event, hub := account.hub } :: account.past })
    (notified : ∀ (account : Account τ) recorder, account.hub.recorder = some recorder → C account →
      I ((if recorder.notifies then discard notify else pure () : Run (Account τ) Unit).exec account).2)
    {account : Account τ} {recorder : Recorder} (present : account.hub.recorder = some recorder) (held : B account) :
    I ((record signal).exec account).2 := by
  obtain ⟨opened,closed,ran⟩ := exec_record produced present
  let begun : Account τ := { account with hub := { account.hub with log := opened } }
  have first : B begun := before rfl held
  let recorded : Account τ :=
    { hub := { account.hub with
        recorder := some { recorder with shots := recorder.shots.apply event }, log := opened }
      past := { occurrence := .record event, hub := begun.hub } :: account.past }
  have changed : C recorded := applied begun recorder present first
  have last : C { recorded with hub := { recorded.hub with log := closed } } := after rfl changed
  rw [ran]
  exact notified _ { recorder with shots := recorder.shots.apply event } rfl last

omit plain in
/-- A signal that the recorder passes over leaves everything as it was. -/
theorem record_passes {signal : Signal} (passed : signal.produced? = none) (account : Account τ) :
    ((record signal).exec account).2 = account := by
  unfold record
  rw [exec_bind,exec_look]
  dsimp only
  split
  · rfl
  · rfl
  · rfl
  · rename_i event notRefresh _
    cases event with
    | refresh => exact (notRefresh rfl).elim
    | message text => simp [Signal.produced?] at passed
    | snapshot state rendered => simp [Signal.produced?] at passed
    | result success value => simp [Signal.produced?] at passed

omit plain in
/-- Publishing takes notice of the signal, logs a line, and delivers to the listeners that are there. -/
theorem exec_publishAt_logs (cast : Cast τ) (performer : Performer (Account τ) τ) {account : Account τ} {place : Nat}
    {signal : Signal} (found : account.hub.signals[place]? = some signal) (router : Nat) :
    ∃ log, (publishAt cast performer router place).exec account =
      ((dispatch cast performer router signal.kind place).deliver
        ((account.hub.registry router).listeners signal.kind)).exec
          { hub := { account.hub with log }
            past := { occurrence := .publish router place, hub := account.hub } :: account.past } := by
  let line : LogRecord := { level := .debug, text := "Dispatching event: " ++ signal.shown, fault := none }
  obtain ⟨log,same⟩ := logged_frame account.hub line
  refine ⟨log,?_⟩
  unfold publishAt
  rw [exec_bind,exec_signalAt,found]
  dsimp only
  rw [exec_bind,exec_note]
  dsimp only [note_account]
  unfold tell
  rw [exec_bind,exec_change]
  dsimp only [hub_account,put_account]
  rw [exec_bind,exec_look]
  dsimp only [hub_account]
  rw [same]
  rfl

omit plain in
theorem exec_publishAt (cast : Cast τ) (performer : Performer (Account τ) τ) {account : Account τ} {place : Nat}
    {signal : Signal} (found : account.hub.signals[place]? = some signal) (router : Nat) :
    ∃ hub, hub.parts = account.hub.parts ∧ (publishAt cast performer router place).exec account =
      ((dispatch cast performer router signal.kind place).deliver
        ((account.hub.registry router).listeners signal.kind)).exec
          { hub, past := { occurrence := .publish router place, hub := account.hub } :: account.past } := by
  obtain ⟨log,ran⟩ := exec_publishAt_logs cast performer found router
  let told : Hub τ := { account.hub with log }
  exact ⟨told,rfl,ran⟩

/-- A dispatch keeps what the calls of its listeners keep. -/
theorem keeps_deliver (router : Nat) (kind : String) (place : Nat) (listeners : List Listener)
    (called : ∀ listener ∈ listeners,
      Keeps I (do note (.call listener router place); call cast performer place listener)) :
    Keeps I ((dispatch cast performer router kind place).deliver listeners) := by
  refine Dispatch.deliver_keeps _ listeners fun listener member => ?_
  refine Dispatch.turn_keeps _ listener ?_ (called listener member) fun fault => ?_
  · exact keeps_look.bind fun _ => keeps_pure _
  · exact (keeps_tell plain _ _ _).bind fun _ => keeps_pure _

theorem keeps_call (recorded : ∀ signal, Keeps I (record signal)) (place : Nat)
    (performed : ∀ pair ∈ cast, ∀ n, Keeps I (performer (some place) (pair.2.script n))) (listener : Listener) :
    Keeps I (call cast performer place listener) := by
  cases listener with
  | recorder => exact (keeps_signalAt place).bind fun signal => recorded signal
  | observer name => exact keeps_callObserver plain name place fun observer member n => performed _ member n

/-- Publishing keeps what every moment of it, the recorder and the observers keep. -/
theorem keeps_publishAt (router place : Nat) (noted : Keeps I (note (.publish router place)))
    (called : ∀ listener, Keeps I (note (.call listener router place))) (recorded : ∀ signal, Keeps I (record signal))
    (performed : ∀ pair ∈ cast, ∀ n, Keeps I (performer (some place) (pair.2.script n))) :
    Keeps I (publishAt cast performer router place) := by
  refine (keeps_signalAt place).bind fun signal => noted.bind fun _ => ?_
  refine (keeps_tell plain _ _ _).bind fun _ => keeps_look.bind fun hub => ?_
  refine keeps_deliver plain router _ place _ fun listener _ => (called listener).bind fun _ => ?_
  exact keeps_call plain recorded place performed listener

/-- A hub whose refresh has begun to fire, with the signal that tells of it. -/
def refreshing (hub : Hub τ) : Hub τ :=
  { hub with
    scheduler := { hub.scheduler with pending := false, fired := hub.scheduler.fired + 1 }
    signals := hub.signals.push (.event .refresh) }

omit plain in
/-- Firing a refresh takes notice of that and of the signal, which it publishes at a place of its own. -/
theorem exec_fireRefresh_logs (cast : Cast τ) (performer : Performer (Account τ) τ) (account : Account τ) :
    ∃ before after, (fireRefresh cast performer).exec account =
      (discard ((dispatch cast performer 0 Kind.refresh.name account.hub.signals.size).deliver
        ((account.hub.registry 0).listeners Kind.refresh.name))).exec
          { hub := { account.hub.refreshing with log := after }
            past := { occurrence := .publish 0 account.hub.signals.size,
                      hub := { account.hub.refreshing with log := before } } ::
              { occurrence := .refresh, hub := account.hub } :: account.past } := by
  let begun : Hub τ :=
    { account.hub with
      scheduler := { account.hub.scheduler with pending := false, fired := account.hub.scheduler.fired + 1 } }
  let line : LogRecord := { level := .debug, text := "Refresh #" ++ toString begun.scheduler.fired ++ " firing" }
  obtain ⟨before,same⟩ := logged_frame begun line
  let noted : Account τ :=
    { hub := { account.hub.refreshing with log := before }
      past := { occurrence := .refresh, hub := account.hub } :: account.past }
  have found : noted.hub.signals[account.hub.signals.size]? = some (.event .refresh) := by
    simp [noted,refreshing]
  obtain ⟨after,ran⟩ := exec_publishAt_logs cast performer found 0
  refine ⟨before,after,?_⟩
  rw [exec_discard]
  unfold fireRefresh
  rw [exec_bind,exec_beginRefresh]
  dsimp only
  rw [exec_bind,exec_look]
  dsimp only [hub_account]
  unfold tell
  rw [exec_bind,exec_change]
  dsimp only [hub_account,put_account]
  rw [same,exec_bind,exec_place]
  dsimp only
  rw [exec_discard]
  exact congrArg (fun ended : Except Fault (List Failure) × Account τ => (ended.1.map fun _ => (),ended.2)) ran

omit plain in
theorem exec_fireRefresh (cast : Cast τ) (performer : Performer (Account τ) τ) (account : Account τ) :
    ∃ hub published, published.signals[account.hub.signals.size]? = some (.event .refresh) ∧
      hub.parts =
        parts { account.hub with
          scheduler := { account.hub.scheduler with pending := false, fired := account.hub.scheduler.fired + 1 }
          signals := account.hub.signals.push (.event .refresh) } ∧
      ((fireRefresh cast performer).exec account).2 =
        (((dispatch cast performer 0 Kind.refresh.name account.hub.signals.size).deliver
          ((account.hub.registry 0).listeners Kind.refresh.name)).exec
            { hub
              past := { occurrence := .publish 0 account.hub.signals.size, hub := published } ::
                { occurrence := .refresh, hub := account.hub } :: account.past }).2 := by
  obtain ⟨before,after,ran⟩ := exec_fireRefresh_logs cast performer account
  refine ⟨{ account.hub.refreshing with log := after },{ account.hub.refreshing with log := before },?_,rfl,?_⟩
  · simp [refreshing]
  · rw [ran,exec_discard]

/-- Firing a refresh keeps what its beginning, its signal and publishing that keep. -/
theorem keeps_fireRefresh (begun : Keeps I beginRefresh)
    (placed : ∀ {account : Account τ} (signal : Signal), I account →
      I { account with hub := { account.hub with signals := account.hub.signals.push signal } })
    (published : ∀ place, Keeps I (publishAt cast performer 0 place)) : Keeps I (fireRefresh cast performer) := by
  refine begun.bind fun _ => keeps_look.bind fun hub => (keeps_tell plain _ _ _).bind fun _ => ?_
  refine Keeps.bind (fun account held => ?_) fun place => (published place).discard
  rw [exec_place]
  exact placed _ held

end

/-! ### Time -/

theorem exec_setDevice (device : TimerDevice τ (Callback τ)) (account : Account τ) :
    (setDevice device).exec account = (.ok (),{ account with hub := account.hub.withDevice device }) := rfl

section

variable [Clock τ] (cast : Cast τ) (performer : Performer (Account τ) τ) {account : Account τ}
  {timer later : ManualTimer τ (Callback τ)} (kind : account.hub.timer.device = .manual timer) {seconds : τ}
include kind

/-- A timer is moved by hand, and calls nobody back. -/
theorem exec_advance_quiet (moved : timer.advance seconds = .ok (none,later)) :
    (advance cast performer seconds).exec account =
      (.ok false,{ account with hub := account.hub.withDevice (.manual later) }) := by
  unfold advance
  rw [exec_bind,exec_look]
  dsimp only [hub_account]
  rw [kind]
  dsimp only
  rw [exec_bind,exec_ofExcept,moved]
  rfl

/-- A timer is moved by hand, and calls back once it stands at its new time. -/
theorem exec_advance_calling {callback : Callback τ} (moved : timer.advance seconds = .ok (some callback,later))
    {outcome : Except Fault Unit} {left : Account τ}
    (called : (fireCallback cast performer callback).exec
      { account with hub := account.hub.withDevice (.manual later) } = (outcome,left)) :
    (advance cast performer seconds).exec account = (outcome.map fun _ => true,left) := by
  unfold advance
  rw [exec_bind,exec_look]
  dsimp only [hub_account]
  rw [kind]
  dsimp only
  rw [exec_bind,exec_ofExcept,moved]
  dsimp only
  rw [exec_bind,exec_setDevice]
  dsimp only
  rw [exec_bind,called]
  cases outcome <;> rfl

end

section

variable [Clock τ] {cast : Cast τ} {performer : Performer (Account τ) τ}
  (passed : ∀ {account : Account τ} {later}, account.hub.timer.device.Passes later → I account →
    I { account with hub := account.hub.withDevice later })
  (called : ∀ {account : Account τ} {callback later}, account.hub.timer.device.Calls callback later → I account →
    I ((fireCallback cast performer callback).exec { account with hub := account.hub.withDevice later }).2)

include passed in
theorem keeps_wakeUp {wake : τ} (counted : Clock.Counted wake) : Keeps I (wakeUp wake) := by
  refine keeps_look_bind fun account held => ?_
  cases kind : account.hub.timer.device with
  | manual timer => exact held
  | loop timer => exact passed (kind ▸ .loop timer counted) held

include called in
theorem keeps_fire : Keeps I (fire cast performer) := by
  refine keeps_look_bind fun account held => ?_
  cases kind : account.hub.timer.device with
  | loop timer => exact held
  | manual timer =>
    dsimp only
    cases armed : timer.armed with
    | none => exact held
    | some pair =>
      have calls := TimerDevice.Calls.manual (.inl rfl) armed
      rw [← kind] at calls
      rw [exec_bind,exec_setDevice]
      exact leads_bind (called calls held) fun _ => keeps_pure _

include passed called

theorem keeps_advance (seconds : τ) : Keeps I (advance cast performer seconds) := by
  refine keeps_look_bind fun account held => ?_
  cases kind : account.hub.timer.device with
  | loop timer => exact held
  | manual timer =>
    dsimp only
    rw [exec_bind,exec_ofExcept]
    cases advanced : timer.advance seconds with
    | error fault => exact held
    | ok result =>
      obtain ⟨callback,later⟩ := result
      obtain ⟨passes,calls⟩ := TimerDevice.advance_moves advanced
      rw [← kind] at passes calls
      dsimp only
      rw [exec_bind,exec_setDevice]
      cases callback with
      | none => exact passed (passes rfl) held
      | some callback => exact leads_bind (called (calls callback rfl) held) fun _ => keeps_pure _

theorem keeps_sleepUntil {wake : τ} (counted : Clock.Counted wake) (callbacks : Nat) :
    Keeps I (sleepUntil cast performer wake callbacks) := by
  induction callbacks with
  | zero => exact keeps_throw _
  | succ callbacks ih =>
    refine keeps_look_bind fun account held => ?_
    cases kind : account.hub.timer.device with
    | manual timer => exact held
    | loop timer =>
      dsimp only
      cases next : timer.next? wake with
      | none => exact keeps_wakeUp passed counted account held
      | some pair =>
        obtain ⟨callback,later⟩ := pair
        have calls := TimerDevice.Calls.loop counted next
        rw [← kind] at calls
        dsimp only
        rw [exec_bind,exec_setDevice]
        refine leads_bind (x := fireOnLoop cast performer callback) ?_ fun _ => ?_
        · refine leads_bind (called calls held) fun outcome => ?_
          cases outcome with
          | ok => exact keeps_pure _
          | error fault =>
            dsimp only
            split
            · exact keeps_pure _
            · exact keeps_throw _
        · split
          · exact keeps_wakeUp passed counted
          · exact ih

theorem keeps_sleep (seconds : τ) : Keeps I (sleep cast performer seconds) := by
  refine keeps_look_bind fun account held => ?_
  cases kind : account.hub.timer.device with
  | manual timer => exact held
  | loop timer =>
    dsimp only
    rw [exec_bind,exec_ofExcept]
    cases reached : Clock.later timer.loop.now seconds with
    | error fault => exact held
    | ok wake => exact keeps_sleepUntil passed called ⟨_,_,reached⟩ _ account held

end

end Hub

end ShotRecorder
