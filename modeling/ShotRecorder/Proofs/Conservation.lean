import ShotRecorder.Proofs.Accounts
import ShotRecorder.Proofs.Armed

/-!
Every window gives one refresh. The scheduler keeps whether a refresh is pending and the timer keeps what it is
armed with, and neither looks at the other: a flag that stays up would silence all later refreshes, a callback
that stays would fire one twice. As long as nobody but the scheduler disarms the timer, the two agree whenever a
listener is called and after every operation, however it ends (`Conserved`), and the requests that were granted
and the refreshes that fired take turns (`InTurn`).
-/
namespace ShotRecorder

variable {τ : Type}

namespace Moment

/-- A refresh begins to fire. -/
def fires (moment : Moment τ) : Bool :=
  match moment.occurrence with
  | .refresh => true
  | _ => false

/-- The timer is asked for a refresh, and accepts. -/
def granted [Clock τ] (moment : Moment τ) : Bool :=
  match moment.occurrence with
  | .request => isYes (moment.hub.timer.schedule moment.hub.scheduler.delay .refresh).1
  | _ => false

end Moment

namespace Hub
open Run

/-- Actions that leave it to the scheduler to disarm the timer. -/
def LeavesArmed : Action τ → Prop
  | .disarm => False
  | .arm _ _ actions => ∀ action, action ∈ actions → LeavesArmed action
  | _ => True

variable [Clock τ]

/-! ### Windows -/

/-- Windows open and close in turn: a request that is granted opens one while none is open, and a refresh that
    fires closes the one that is. -/
def InTurn : List (Moment τ) → Bool → Prop
  | [],isOpen => isOpen = false
  | moment :: earlier,isOpen =>
    if moment.granted then isOpen = true ∧ InTurn earlier false
    else if moment.fires then isOpen = false ∧ InTurn earlier true
    else InTurn earlier isOpen

/-- Every window that was opened was closed by one refresh, but for the one that is still open. -/
theorem InTurn.count {past : List (Moment τ)} {isOpen : Bool} (turns : InTurn past isOpen) :
    past.countP Moment.granted = past.countP Moment.fires + if isOpen then 1 else 0 := by
  induction past generalizing isOpen with
  | nil =>
    obtain rfl : isOpen = false := turns
    rfl
  | cons moment earlier ih =>
    unfold InTurn at turns
    split at turns
    · rename_i granted
      obtain ⟨rfl,before⟩ := turns
      have silent : moment.fires = false := by
        unfold Moment.granted at granted
        unfold Moment.fires
        split at granted
        · rename_i request
          rw [request]
        · simp at granted
      simp [granted,silent,ih before]
    · rename_i refused
      split at turns
      · rename_i fires
        obtain ⟨rfl,before⟩ := turns
        simp [refused,fires,ih before]
      · rename_i silent
        simp [refused,silent,ih turns]

/-- The scheduler and the timer agree: a refresh is pending just if the timer is armed with it, and it closes the
    window that was opened last. Nothing that the timer may still call back for disarms it. -/
structure Conserved (account : Account τ) : Prop where
  coherent : account.hub.timer.device.Coherent
  armed : account.hub.scheduler.pending = true ↔ account.hub.timer.device.armedWith? = some .refresh
  turns : InTurn account.past account.hub.scheduler.pending
  fired : account.hub.scheduler.fired = account.past.countP Moment.fires
  callbacks : ∀ callback ∈ account.hub.timer.device.callbacks, ∀ action ∈ actionsOf callback, LeavesArmed action

/-- A property that accounts had whenever a listener was called. -/
def AtCalls (P : Account τ → Prop) (past : List (Moment τ)) : Prop :=
  ∀ moment earlier, moment :: earlier <:+ past →
    ∀ listener router place, moment.occurrence = .call listener router place → P { hub := moment.hub, past := earlier }

omit [Clock τ] in
theorem AtCalls.cons {P : Account τ → Prop} {past : List (Moment τ)} (seen : AtCalls P past) {moment : Moment τ}
    (next : ∀ listener router place, moment.occurrence = .call listener router place → P { hub := moment.hub, past }) :
    AtCalls P (moment :: past) := by
  intro found earlier here listener router place called
  rcases List.suffix_cons_iff.mp here with same | inside
  · obtain ⟨rfl,rfl⟩ := List.cons.inj same
    exact next listener router place called
  · exact seen found earlier inside listener router place called

/-! ### Every run conserves refreshes -/

/-- The scheduler and the timer agree, and agreed whenever a listener was called. -/
structure Balanced (account : Account τ) : Prop where
  conserved : Conserved account
  seen : AtCalls Conserved account.past

/-- So they did whenever a listener was called. -/
theorem Balanced.atCalls {account : Account τ} (balanced : Balanced account) : AtCalls Balanced account.past := by
  intro moment earlier here listener router place called
  refine ⟨balanced.seen moment earlier here listener router place called,?_⟩
  intro other before inside
  exact balanced.seen other before (inside.trans ((List.suffix_cons moment earlier).trans here))

/-- An account is as balanced as its timer, its scheduler and its past. -/
theorem Balanced.withHub {account : Account τ} (balanced : Balanced account) {hub : Hub τ}
    (timer : hub.timer = account.hub.timer) (scheduler : hub.scheduler = account.hub.scheduler) :
    Balanced { account with hub } := by
  obtain ⟨⟨coherent,armed,turns,fired,callbacks⟩,seen⟩ := balanced
  rw [← timer] at coherent armed callbacks
  rw [← scheduler] at armed turns fired
  exact ⟨⟨coherent,armed,turns,fired,callbacks⟩,seen⟩

theorem plain_balanced : Plain (Balanced (τ := τ)) := by
  intro account hub same balanced
  exact balanced.withHub (congrArg Hub.timer same :) (congrArg Hub.scheduler same :)

/-- A device that is not armed with a refresh may be replaced by another one that is not, while none is pending. -/
theorem Balanced.withIdle {account : Account τ} (balanced : Balanced account)
    (idle : account.hub.scheduler.pending = false) {timer : Timer τ (Callback τ)} (coherent : timer.device.Coherent)
    (unarmed : timer.device.armedWith? ≠ some .refresh)
    (callbacks : ∀ callback ∈ timer.device.callbacks, ∀ action ∈ actionsOf callback, LeavesArmed action) :
    Balanced { account with hub := { account.hub with timer } } := by
  refine ⟨⟨coherent,?_,balanced.conserved.turns,balanced.conserved.fired,callbacks⟩,balanced.seen⟩
  constructor
  · intro pending
    exact absurd (idle.symm.trans pending) nofun
  · intro armed
    exact absurd armed unarmed

/-- Moments that neither open nor close a window. -/
theorem Balanced.noted {account : Account τ} (balanced : Balanced account) {occurrence : Occurrence}
    (refused : Moment.granted { occurrence, hub := account.hub } = false) (other : occurrence ≠ .refresh) :
    Balanced { account with past := { occurrence, hub := account.hub } :: account.past } := by
  have silent : Moment.fires { occurrence, hub := account.hub } = false := by
    cases occurrence <;> first | rfl | exact absurd rfl other
  refine ⟨⟨balanced.conserved.coherent,balanced.conserved.armed,?_,?_,balanced.conserved.callbacks⟩,?_⟩
  · simpa [InTurn,refused,silent] using balanced.conserved.turns
  · simpa [silent] using balanced.conserved.fired
  · exact balanced.seen.cons fun _ _ _ _ => balanced.conserved

/-- A request opens a window, if none is open and the timer accepts. -/
theorem keeps_notify_balanced : Keeps (Balanced (τ := τ)) notify := by
  intro account balanced
  cases idle : account.hub.scheduler.pending with
  | true =>
    rw [exec_notify_of_pending idle]
    exact balanced
  | false =>
    rcases scheduled : account.hub.timer.schedule account.hub.scheduler.delay .refresh with ⟨answer,timer⟩
    obtain ⟨hub,same,ran⟩ := exec_notify idle scheduled
    rw [ran]
    obtain ⟨coherent,accepted,refused⟩ := Timer.schedule_arms scheduled balanced.conserved.coherent
    have added := account.hub.timer.callbacks_schedule account.hub.scheduler.delay .refresh
    rw [scheduled] at added
    let request : Moment τ := { occurrence := .request, hub := account.hub }
    have asked : request.granted = isYes answer := by
      simp [request,Moment.granted,scheduled]
    have unarmed := balanced.conserved.armed
    have turns := balanced.conserved.turns
    rw [idle] at unarmed turns
    let opened : Account τ :=
      { hub := { account.hub with timer, scheduler := { account.hub.scheduler with pending := isYes answer } }
        past := request :: account.past }
    have kept : Balanced opened := by
      refine ⟨⟨coherent,?_,?_,?_,?_⟩,balanced.seen.cons fun _ _ _ called => by cases called⟩
      · cases yes : isYes answer with
        | false => simpa only [opened,yes,refused yes] using unarmed
        | true => simp [opened,yes,(accepted yes).2]
      · cases yes : isYes answer <;> simpa [opened,InTurn,asked,yes,request,Moment.fires] using turns
      · simpa [opened,request,Moment.fires] using balanced.conserved.fired
      · intro callback member
        rcases added callback member with old | rfl
        · exact balanced.conserved.callbacks callback old
        · simp [actionsOf]
    exact plain_balanced same kept

theorem keeps_record_balanced (signal : Signal) : Keeps (Balanced (τ := τ)) (record signal) := by
  refine keeps_record plain_balanced (fun event account balanced => ?_) (fun account recorder event balanced => ?_)
    keeps_notify_balanced signal
  · exact balanced.noted rfl nofun
  · exact balanced.withHub rfl rfl

section

variable {cast : Cast τ} {performer : Performer (Account τ) τ}
  (performed : ∀ context, ∀ pair ∈ cast, ∀ n, Keeps Balanced (performer context (pair.2.script n)))
include performed

theorem keeps_publishAt_balanced (router place : Nat) : Keeps Balanced (publishAt cast performer router place) := by
  refine keeps_publishAt plain_balanced router place ?_ ?_ keeps_record_balanced (performed _)
  · exact fun account balanced => balanced.noted rfl nofun
  · exact fun listener account balanced => balanced.noted rfl nofun

/-- A refresh that fires closes the window that is open, when the timer is no longer armed. -/
theorem fireRefresh_balanced {account : Account τ} (balanced : Balanced account)
    (pending : account.hub.scheduler.pending = true) {device : TimerDevice τ (Callback τ)}
    (within : device.Within account.hub.timer.device) (coherent : device.Coherent)
    (idle : device.armedWith? = none) :
    Balanced ((fireRefresh cast performer).exec { account with hub := account.hub.withDevice device }).2 := by
  obtain ⟨hub,published,-,same,left⟩ := exec_fireRefresh cast performer
    { account with hub := account.hub.withDevice device }
  rw [left]
  refine keeps_deliver plain_balanced 0 _ _ _ (fun listener _ => ?_) _ ?_
  · refine Keeps.bind (fun account balanced => balanced.noted rfl nofun) fun _ => ?_
    exact keeps_call plain_balanced keeps_record_balanced _ (performed _) listener
  · have turns := balanced.conserved.turns
    rw [pending] at turns
    let fired : Account τ :=
      { hub := { account.hub.withDevice device with
          scheduler := { account.hub.scheduler with pending := false, fired := account.hub.scheduler.fired + 1 }
          signals := account.hub.signals.push (.event .refresh) }
        past := { occurrence := .publish 0 account.hub.signals.size, hub := published } ::
          { occurrence := .refresh, hub := account.hub.withDevice device } :: account.past }
    have closed : Balanced fired := by
      refine ⟨⟨coherent,?_,?_,?_,?_⟩,?_⟩
      · simp [fired,withDevice,idle]
      · simpa [fired,InTurn,Moment.granted,Moment.fires] using turns
      · simpa [fired,withDevice,List.countP_cons,Moment.fires] using balanced.conserved.fired
      · exact fun callback member => balanced.conserved.callbacks callback (within.callbacks callback member)
      · exact (balanced.seen.cons fun _ _ _ called => by cases called).cons fun _ _ _ called => by cases called
    exact plain_balanced same closed

theorem keeps_flush_balanced : Keeps Balanced (flush cast performer) := by
  refine keeps_look_bind fun account balanced => ?_
  split
  · rename_i pending
    rw [exec_bind,exec_change]
    refine leads_bind ?_ fun _ => keeps_pure _
    have coherent := balanced.conserved.coherent.disarm
    have idle := TimerDevice.armedWith_of_idle account.hub.timer.device.isArmed_disarm
    exact fireRefresh_balanced performed balanced pending (TimerDevice.disarm_within _) coherent idle
  · exact balanced

end

theorem Balanced.passed {account : Account τ} {later : TimerDevice τ (Callback τ)}
    (passes : account.hub.timer.device.Passes later) (balanced : Balanced account) :
    Balanced { account with hub := account.hub.withDevice later } := by
  refine ⟨⟨passes.coherent balanced.conserved.coherent,?_,balanced.conserved.turns,balanced.conserved.fired,?_⟩,
    balanced.seen⟩
  · simpa only [withDevice,passes.armedWith] using balanced.conserved.armed
  · exact fun callback member => balanced.conserved.callbacks callback (passes.within.callbacks callback member)

/-- Whatever the timer calls back for, the scheduler agrees. -/
theorem called_balanced {cast : Cast τ} {depth : Nat}
    (leaves : ∀ pair ∈ cast, ∀ n, ∀ action ∈ pair.2.script n, LeavesArmed action)
    (performed : Performed cast LeavesArmed Balanced depth) {account : Account τ} {callback : Callback τ}
    {later : TimerDevice τ (Callback τ)} (calls : account.hub.timer.device.Calls callback later)
    (balanced : Balanced account) :
    Balanced ((fireCallback cast (perform cast depth) callback).exec
      { account with hub := account.hub.withDevice later }).2 := by
  obtain ⟨armed,idle⟩ := calls.armedWith balanced.conserved.coherent
  have coherent := calls.coherent balanced.conserved.coherent
  obtain ⟨within,member,-⟩ := calls.within
  cases callback with
  | refresh =>
    have pending := balanced.conserved.armed.mpr armed
    exact fireRefresh_balanced (fun context pair member n => performed context _ (leaves pair member n)) balanced pending
      within coherent idle
  | custom label actions =>
    -- The timer was armed for somebody else, so it was not armed for a refresh.
    have closed : account.hub.scheduler.pending = false := by
      cases pending : account.hub.scheduler.pending with
      | false => rfl
      | true =>
        have refresh := armed.symm.trans (balanced.conserved.armed.mp pending)
        exact absurd (Option.some.inj refresh) nofun
    let timer : Timer τ (Callback τ) := { account.hub.timer with device := later }
    have unarmed : timer.device.armedWith? ≠ some .refresh := by simp [timer,idle]
    have ready : Balanced { account with hub := { account.hub with timer } } :=
      balanced.withIdle closed coherent unarmed
        fun callback member => balanced.conserved.callbacks callback (within.callbacks callback member)
    have seen : Keeps (Balanced (τ := τ)) (change fun hub => hub.saw (.timer label hub.view)) :=
      keeps_saw plain_balanced fun hub => .timer label hub.view
    exact seen.bind (fun _ => performed none actions (balanced.conserved.callbacks _ member)) _ ready

/-- Every action that leaves it to the scheduler to disarm the timer keeps the balance. -/
theorem sustained_balanced {cast : Cast τ}
    (leaves : ∀ pair ∈ cast, ∀ n, ∀ action ∈ pair.2.script n, LeavesArmed action) :
    Sustained cast LeavesArmed Balanced where
  plain := plain_balanced
  placed _ balanced := balanced.withHub rfl rfl
  amended _ _ balanced := balanced.withHub rfl rfl
  published _ _ performed place :=
    keeps_publishAt_balanced (fun context pair member n => performed context _ (leaves pair member n)) _ place
  handled _ := keeps_record_balanced
  subscribed _ _ balanced := by
    rename_i token _ _
    cases token <;> exact balanced.withHub rfl rfl
  unsubscribed _ _ balanced := balanced.withHub rfl rfl
  cancelled _ _ _ _ balanced := balanced.withHub rfl rfl
  notified _ := keeps_notify_balanced
  flushed _ _ performed :=
    keeps_flush_balanced fun context pair member n => performed context _ (leaves pair member n)
  advanced _ _ performed := keeps_advance Balanced.passed (called_balanced leaves performed) _
  fired _ _ performed := keeps_fire (called_balanced leaves performed)
  disarmed permitted := by simp [LeavesArmed] at permitted
  armed permitted account balanced := by
    rename_i delay label actions
    rcases scheduled : account.hub.timer.schedule delay (.custom label actions) with ⟨answer,timer⟩
    obtain ⟨coherent,accepted,refused⟩ := Timer.schedule_arms scheduled balanced.conserved.coherent
    have added := account.hub.timer.callbacks_schedule delay (.custom label actions)
    rw [scheduled] at added
    have callbacks : ∀ callback ∈ timer.device.callbacks, ∀ action ∈ actionsOf callback, LeavesArmed action := by
      intro callback member
      rcases added callback member with old | rfl
      · exact balanced.conserved.callbacks callback old
      · simpa [LeavesArmed,actionsOf] using permitted
    cases yes : isYes answer with
    | false =>
      refine ⟨⟨coherent,?_,balanced.conserved.turns,balanced.conserved.fired,callbacks⟩,balanced.seen⟩
      simpa only [refused yes] using balanced.conserved.armed
    | true =>
      obtain ⟨unarmed,armed⟩ := accepted yes
      -- Nobody arms a timer that is armed, and with a refresh pending it is.
      have closed : account.hub.scheduler.pending = false := by
        cases pending : account.hub.scheduler.pending with
        | false => rfl
        | true => exact absurd (unarmed.symm.trans (balanced.conserved.armed.mp pending)) nofun
      exact balanced.withIdle closed coherent (by simp [armed]) callbacks
  slept _ _ performed := keeps_sleep Balanced.passed (called_balanced leaves performed) _
  cleared _ account balanced := by
    rw [exec_clearShots]
    have noted : Balanced { account with past := { occurrence := .clear, hub := account.hub } :: account.past } :=
      balanced.noted rfl nofun
    exact noted.withHub rfl rfl
  attached := by
    intro router _ account balanced
    obtain ⟨routers,same⟩ := attached_frame account.hub router
    rw [same]
    exact balanced.withHub rfl rfl
  detached := by
    intro _ account balanced
    obtain ⟨routers,same⟩ := detached_frame account.hub
    rw [same]
    exact balanced.withHub rfl rfl

/-! ### The windows of a run -/

/-- A request that is granted is counted, and none else is. -/
theorem countP_notify (account : Account τ) :
    ((notify.exec account).2.past.countP Moment.granted) =
      account.past.countP Moment.granted + if isYes (notify.exec account).1 then 1 else 0 := by
  cases idle : account.hub.scheduler.pending with
  | true =>
    rw [exec_notify_of_pending idle]
    rfl
  | false =>
    rcases scheduled : account.hub.timer.schedule account.hub.scheduler.delay .refresh with ⟨answer,timer⟩
    obtain ⟨hub,-,ran⟩ := exec_notify idle scheduled
    have asked : Moment.granted { occurrence := .request, hub := account.hub } = isYes answer := by
      simp [Moment.granted,scheduled]
    rw [ran,List.countP_cons,asked]

/-- Whatever the timer answers a request, a refresh is pending afterwards just if it said yes. -/
theorem notify_answers {account : Account τ} (idle : account.hub.scheduler.pending = false) :
    (notify.exec account).1 = (account.hub.timer.schedule account.hub.scheduler.delay .refresh).1 ∧
      (notify.exec account).2.hub.scheduler.pending = isYes (notify.exec account).1 := by
  rcases scheduled : account.hub.timer.schedule account.hub.scheduler.delay .refresh with ⟨answer,timer⟩
  obtain ⟨hub,same,ran⟩ := exec_notify idle scheduled
  rw [ran]
  exact ⟨rfl,congrArg (fun hub => hub.scheduler.pending) same⟩

/-- A hub that has not been used yet, whose timer others may have armed. -/
theorem Balanced.start {hub : Hub τ} (idle : hub.scheduler.pending = false) (unfired : hub.scheduler.fired = 0)
    (coherent : hub.timer.device.Coherent)
    (others : ∀ callback ∈ hub.timer.device.callbacks,
      callback ≠ .refresh ∧ ∀ action ∈ actionsOf callback, LeavesArmed action) :
    Balanced ({ hub } : Account τ) := by
  have unarmed : hub.timer.device.armedWith? ≠ some .refresh :=
    fun armed => (others _ (TimerDevice.armedWith_mem armed)).1 rfl
  refine ⟨⟨coherent,?_,idle,unfired,fun callback member => (others callback member).2⟩,?_⟩
  · exact ⟨fun pending => absurd (idle.symm.trans pending) nofun,fun armed => absurd armed unarmed⟩
  · exact fun moment earlier here => absurd (List.suffix_nil.mp here) nofun

/-- However requests are refused or fail, and whatever observers and others who use the timer do in between, be it
    that they fail or interrupt: as long as nobody but the scheduler disarms the timer, a refresh is pending just
    if the timer is armed with it, whenever a listener is called and after every operation, and every window that
    a request opened was closed by one refresh, but for the one that is open. A request that is not granted leaves
    the scheduler idle, so that the next one is up to the timer again. -/
theorem refreshes_are_conserved {hub : Hub τ} (idle : hub.scheduler.pending = false)
    (unfired : hub.scheduler.fired = 0) (coherent : hub.timer.device.Coherent)
    (others : ∀ callback ∈ hub.timer.device.callbacks,
      callback ≠ .refresh ∧ ∀ action ∈ actionsOf callback, LeavesArmed action)
    {cast : Cast τ} (leaves : ∀ pair ∈ cast, ∀ n, ∀ action ∈ pair.2.script n, LeavesArmed action) (depth : Nat)
    (actions : List (Action τ)) (permitted : ∀ action ∈ actions, LeavesArmed action) :
    let account := afterAll cast depth actions ({ hub } : Account τ)
    account.hub = afterAll cast depth actions hub ∧
      (Conserved account ∧
        account.past.countP Moment.granted =
          account.hub.scheduler.fired + if account.hub.scheduler.pending then 1 else 0) ∧
      Balanced account ∧ AtCalls Balanced account.past ∧
      (∀ earlier : Account τ, Balanced earlier → ∀ context action, LeavesArmed action →
        ∀ depth, Balanced ((act cast (perform cast depth) context action).exec earlier).2) ∧
      ∀ earlier : Account τ,
        (notify.exec earlier).2.past.countP Moment.granted =
            earlier.past.countP Moment.granted + (if isYes (notify.exec earlier).1 then 1 else 0) ∧
          (earlier.hub.scheduler.pending = false →
            (notify.exec earlier).1 = (earlier.hub.timer.schedule earlier.hub.scheduler.delay .refresh).1 ∧
            (notify.exec earlier).2.hub.scheduler.pending = isYes (notify.exec earlier).1) := by
  intro account
  have sustained := sustained_balanced leaves
  have balanced : Balanced account := sustained.afterAll depth actions permitted _ (Balanced.start idle unfired coherent others)
  have counted := balanced.conserved.turns.count
  rw [← balanced.conserved.fired] at counted
  refine ⟨afterAll_hub cast depth actions _,⟨balanced.conserved,counted⟩,balanced,balanced.atCalls,?_,?_⟩
  · exact fun earlier held context action allowed depth =>
      sustained.act (sustained.perform depth) context action allowed earlier held
  · exact fun earlier => ⟨countP_notify earlier,notify_answers⟩

/-- An observer of refreshes that requests the next one, fires it when it is called first, and interrupts. -/
private def hasty : Observer Rat where
  title := "hasty"
  script
    | 0 => [.notify,.flush,.raise (.thrown "KeyboardInterrupt" .interrupt [])]
    | _ => [.notify,.raise (.thrown "KeyboardInterrupt" .interrupt [])]

/-- A hub that it observes, with a timer which others use too, and which fails and refuses before it accepts. -/
private def hastyHub : Hub Rat where
  routers := [{ subscriptions := [(Kind.refresh.name,.observer "hasty")] }]
  recorder := none
  scheduler := { delay := 1 }
  timer := { device := .manual .new, troubles := [.absent,.fails .noLoop,.refuses] }

/-- The window that the callback of somebody else opens is flushed, and so is the one that the observer opens. -/
private def hastyRun : Account Rat :=
  afterAll [("hasty",hasty)] maxCalls [.arm 1 "other" [.notify],.notify,.notify,.advance 1,.flush,.notify]
    { hub := hastyHub }

theorem refreshes_are_conserved_by_hasty :
    (Conserved hastyRun ∧
      hastyRun.past.countP Moment.granted =
        hastyRun.hub.scheduler.fired + if hastyRun.hub.scheduler.pending then 1 else 0) ∧
      AtCalls Balanced hastyRun.past ∧
      hastyRun.past.countP Moment.granted = 3 ∧ hastyRun.hub.scheduler.pending = true := by
  have leaves : ∀ pair ∈ [("hasty",hasty)], ∀ n, ∀ action ∈ pair.2.script n, LeavesArmed action := by
    simp only [List.mem_singleton,forall_eq]
    intro n action member
    cases n with
    | zero =>
      simp only [hasty,List.mem_cons,List.not_mem_nil,or_false] at member
      rcases member with rfl | rfl | rfl <;> simp [LeavesArmed]
    | succ n =>
      simp only [hasty,List.mem_cons,List.not_mem_nil,or_false] at member
      rcases member with rfl | rfl <;> simp [LeavesArmed]
  have others : ∀ callback ∈ hastyHub.timer.device.callbacks,
      callback ≠ .refresh ∧ ∀ action ∈ actionsOf callback, LeavesArmed action := by
    simp [hastyHub,TimerDevice.callbacks,ManualTimer.new]
  have coherent : hastyHub.timer.device.Coherent := trivial
  have permitted : ∀ action ∈ [.arm 1 "other" [.notify],.notify,.notify,.advance 1,.flush,.notify],
      LeavesArmed (action : Action Rat) := by
    intro action member
    simp only [List.mem_cons,List.not_mem_nil,or_false] at member
    rcases member with rfl | rfl | rfl | rfl | rfl | rfl <;> simp [LeavesArmed]
  obtain ⟨-,conserved,-,seen,-⟩ := refreshes_are_conserved rfl rfl coherent others leaves maxCalls _ permitted
  exact ⟨conserved,seen,by decide +kernel,by decide +kernel⟩

end Hub

end ShotRecorder
