import Mathlib.Algebra.Order.Ring.Rat
import Mathlib.Tactic.Linarith
import ShotRecorder.Proofs.Conservation

/-!
The pace of refreshes on a timer that is moved by hand and that nobody but the scheduler uses. A window keeps the
deadline that it had when it was opened, so that requests made in the meantime neither put its refresh off nor add
one (`Paced.waits`), and a refresh does not open the next window at an earlier time than its own, so that any two
refreshes are at least the delay apart (`Spaced`).
-/
namespace ShotRecorder

/-- The time on a device. -/
def TimerDevice.now {τ κ : Type} : TimerDevice τ κ → τ
  | manual timer => timer.now
  | loop timer => timer.loop.now

namespace Hub
open Run

/-- The time that the timer of a hub has. -/
def now {τ : Type} (hub : Hub τ) : τ := hub.timer.device.now

/-- Actions in which no time passes, and which leave the timer to the scheduler. -/
def Timeless {τ : Type} : Action τ → Prop
  | .flush | .advance _ | .fire | .disarm | .arm _ _ _ | .sleep _ => False
  | _ => True

theorem Timeless.leavesArmed {τ : Type} {action : Action τ} (timeless : Timeless action) : LeavesArmed action := by
  cases action <;> simp_all [Timeless,LeavesArmed]

/-! ### Windows and refreshes -/

/-- When the window was opened that is open, if one is. -/
def window? : List (Moment Rat) → Option Rat
  | [] => none
  | moment :: earlier =>
    if moment.granted then some moment.hub.now else if moment.fires then none else window? earlier

/-- No refresh fires. -/
def Silent (fresh : List (Moment Rat)) : Prop := ∀ moment ∈ fresh, moment.fires = false

/-- No window is opened, and none is closed. -/
def Quiet (fresh : List (Moment Rat)) : Prop := ∀ moment ∈ fresh, moment.granted = false ∧ moment.fires = false

/-- Any two refreshes are at least the delay apart. -/
def Spaced (delay : Rat) (past : List (Moment Rat)) : Prop :=
  (past.filter Moment.fires).Pairwise fun later earlier => earlier.hub.now + delay ≤ later.hub.now

theorem window_quiet {fresh : List (Moment Rat)} (quiet : Quiet fresh) (earlier : List (Moment Rat)) :
    window? (fresh ++ earlier) = window? earlier := by
  induction fresh with
  | nil => rfl
  | cons moment fresh ih =>
    obtain ⟨refused,silent⟩ := quiet moment (by simp)
    simpa [window?,refused,silent] using ih fun other member => quiet other (by simp [member])

/-- While a window is open, no other one is opened. -/
theorem InTurn.quiet {fresh older : List (Moment Rat)} {moment : Moment Rat} {isOpen : Bool}
    (turns : InTurn (fresh ++ moment :: older) isOpen) (granted : moment.granted = true) (silent : Silent fresh) :
    Quiet fresh ∧ isOpen = true := by
  induction fresh generalizing isOpen with
  | nil =>
    simp only [List.nil_append,InTurn,granted,↓reduceIte] at turns
    exact ⟨by simp [Quiet],turns.1⟩
  | cons other fresh ih =>
    have calm := silent other (by simp)
    have rest : Silent fresh := fun later member => silent later (by simp [member])
    simp only [List.cons_append,InTurn,calm,Bool.false_eq_true,↓reduceIte] at turns
    split at turns
    · exact absurd (ih turns.2 rest).2 Bool.false_ne_true
    · rename_i refused
      obtain ⟨quiet,stays⟩ := ih turns rest
      refine ⟨?_,stays⟩
      intro later member
      rcases List.mem_cons.mp member with rfl | inside
      · exact ⟨by simpa using refused,calm⟩
      · exact quiet later inside

/-- A window that was opened is the one that is open as long as no refresh fires. -/
theorem window_of_silent {account : Account Rat} (balanced : Balanced account) {moment : Moment Rat}
    {fresh older : List (Moment Rat)} (split : account.past = fresh ++ moment :: older)
    (granted : moment.granted = true) (silent : Silent fresh) :
    Quiet fresh ∧ account.hub.scheduler.pending = true ∧ window? account.past = some moment.hub.now := by
  have turns := balanced.conserved.turns
  rw [split] at turns
  obtain ⟨quiet,pending⟩ := turns.quiet granted silent
  refine ⟨quiet,pending,?_⟩
  rw [split,window_quiet quiet]
  simp [window?,granted]

/-! ### What keeps the pace -/

/-- The timer is armed for the window that is open, and for nothing else. -/
structure Paced (delay : Rat) (account : Account Rat) : Prop where
  kept : account.hub.scheduler.delay = delay
  device : ∃ timer, account.hub.timer.device = .manual timer ∧
    timer.armed = (window? account.past).map fun opened => (opened + delay,.refresh)
  pending : account.hub.scheduler.pending = (window? account.past).isSome
  opened : ∀ opened ∈ window? account.past, opened ≤ account.hub.now
  reached : ∀ moment ∈ account.past, moment.fires = true →
    moment.hub.now ≤ (window? account.past).getD account.hub.now
  spaced : Spaced delay account.past

/-- The pace is kept, and since a point of the past no refresh fired and no time passed. -/
structure Lull (delay : Rat) (base : List (Moment Rat)) (since : Rat) (account : Account Rat) : Prop where
  paced : Paced delay account
  now : account.hub.now = since
  silent : ∃ fresh, account.past = fresh ++ base ∧ Silent fresh

theorem Paced.lull {delay : Rat} {account : Account Rat} (paced : Paced delay account) :
    Lull delay account.past account.hub.now account :=
  ⟨paced,rfl,[],rfl,by simp [Silent]⟩

variable {delay since : Rat} {base : List (Moment Rat)}

theorem Paced.start {hub : Hub Rat} {timer : ManualTimer Rat (Callback Rat)}
    (byHand : hub.timer.device = .manual timer) (unarmed : timer.armed = none)
    (idle : hub.scheduler.pending = false) : Paced hub.scheduler.delay ({ hub } : Account Rat) where
  kept := rfl
  device := ⟨timer,byHand,unarmed⟩
  pending := idle
  opened _ open' := absurd open' nofun
  reached _ member := absurd member List.not_mem_nil
  spaced := List.Pairwise.nil

theorem Paced.withHub {account : Account Rat} (paced : Paced delay account) {hub : Hub Rat}
    (timer : hub.timer.device = account.hub.timer.device) (scheduler : hub.scheduler = account.hub.scheduler) :
    Paced delay { account with hub } := by
  have same : hub.now = account.hub.now := congrArg TimerDevice.now timer
  obtain ⟨delayed,device,pending,opened,reached,spaced⟩ := paced
  rw [← scheduler] at delayed pending
  rw [← timer] at device
  rw [← same] at opened reached
  exact ⟨delayed,device,pending,opened,reached,spaced⟩

theorem Lull.withHub {account : Account Rat} (lull : Lull delay base since account) {hub : Hub Rat}
    (timer : hub.timer.device = account.hub.timer.device) (scheduler : hub.scheduler = account.hub.scheduler) :
    Lull delay base since { account with hub } := by
  refine ⟨lull.paced.withHub timer scheduler,?_,lull.silent⟩
  exact (congrArg TimerDevice.now timer).trans lull.now

theorem plain_lull : Plain (Lull delay base since) := by
  intro account hub same lull
  exact lull.withHub (congrArg (fun hub => hub.timer.device) same :) (congrArg Hub.scheduler same :)

theorem Lull.cons {account : Account Rat} (lull : Lull delay base since account) {moment : Moment Rat}
    (silent : moment.fires = false) {hub : Hub Rat} (now : hub.now = since)
    (paced : Paced delay { hub, past := moment :: account.past }) :
    Lull delay base since { hub, past := moment :: account.past } := by
  obtain ⟨fresh,split,calm⟩ := lull.silent
  refine ⟨paced,now,moment :: fresh,by simp [split],?_⟩
  intro other member
  rcases List.mem_cons.mp member with rfl | inside
  · exact silent
  · exact calm other inside

/-- Moments that neither open nor close a window. -/
theorem Lull.noted {account : Account Rat} (lull : Lull delay base since account) {occurrence : Occurrence}
    (refused : Moment.granted { occurrence, hub := account.hub } = false) (other : occurrence ≠ .refresh) :
    Lull delay base since { account with past := { occurrence, hub := account.hub } :: account.past } := by
  have silent : Moment.fires { occurrence, hub := account.hub } = false := by
    cases occurrence <;> first | rfl | exact absurd rfl other
  refine lull.cons silent lull.now ?_
  obtain ⟨delayed,device,pending,opened,reached,spaced⟩ := lull.paced
  have same : window? ({ occurrence, hub := account.hub } :: account.past) = window? account.past := by
    simp [window?,refused,silent]
  refine ⟨delayed,?_,?_,?_,?_,?_⟩
  · simpa only [same] using device
  · simpa only [same] using pending
  · simpa only [same] using opened
  · simpa [same,silent] using reached
  · simpa [Spaced,silent] using spaced

/-- A request that is granted opens a window at this time. -/
theorem keeps_notify_lull (delayed : 0 ≤ delay) : Keeps (Lull delay base since) notify := by
  intro account lull
  cases idle : account.hub.scheduler.pending with
  | true =>
    rw [exec_notify_of_pending idle]
    exact lull
  | false =>
    rcases scheduled : account.hub.timer.schedule account.hub.scheduler.delay .refresh with ⟨answer,timer⟩
    obtain ⟨hub,same,ran⟩ := exec_notify idle scheduled
    rw [ran]
    obtain ⟨accepted,refused⟩ := Timer.schedule_device scheduled
    let request : Moment Rat := { occurrence := .request, hub := account.hub }
    have asked : request.granted = isYes answer := by
      simp [request,Moment.granted,scheduled]
    have silent : request.fires = false := rfl
    obtain ⟨sameDelay,device,pending,opened,reached,spaced⟩ := lull.paced
    rw [idle] at pending
    have closed : window? account.past = none := by simpa using pending.symm
    let answered : Account Rat :=
      { hub := { account.hub with timer, scheduler := { account.hub.scheduler with pending := isYes answer } }
        past := request :: account.past }
    have kept : Lull delay base since answered := by
      cases yes : isYes answer with
      | false =>
        have still : Lull delay base since { account with past := request :: account.past } :=
          lull.noted (asked.trans yes) (by simp)
        have scheduler : answered.hub.scheduler = account.hub.scheduler := by simp [answered,yes,← idle]
        exact still.withHub (refused yes) scheduler
      | true =>
        obtain ⟨held,kind,-⟩ := device
        have armed := accepted yes
        rw [kind,sameDelay] at armed
        obtain ⟨-,due,sum,later⟩ := TimerDevice.schedule_manual armed
        have deadline : due = held.now + delay := by
          rw [Clock.notNegative_eq delayed] at sum
          exact (Except.ok.inj sum).symm
        have here : account.hub.now = held.now := by simp [Hub.now,TimerDevice.now,kind]
        have now : answered.hub.now = account.hub.now := by
          simp [answered,Hub.now,TimerDevice.now,later,kind]
        have window : window? (request :: account.past) = some account.hub.now := by
          simp [window?,asked,yes,request]
        refine lull.cons silent (now.trans lull.now) ⟨sameDelay,⟨_,later,?_⟩,?_,?_,?_,?_⟩
        · simp only [window,Option.map_some,deadline,here]
        · simp [window,yes]
        · intro opened same
          rw [window] at same
          exact (Option.some.inj same).ge.trans now.ge
        · simp only [window,List.mem_cons,forall_eq_or_imp,silent,Option.getD_some]
          refine ⟨fun fires => absurd fires Bool.false_ne_true,fun moment member fires => ?_⟩
          simpa [closed] using reached moment member fires
        · simpa [Spaced,answered,silent] using spaced
    exact plain_lull same kept

theorem keeps_record_lull (delayed : 0 ≤ delay) (signal : Signal) :
    Keeps (Lull delay base since) (record signal) := by
  refine keeps_record plain_lull (fun event account lull => ?_) (fun account recorder event lull => ?_)
    (keeps_notify_lull delayed) signal
  · exact lull.noted rfl nofun
  · exact lull.withHub rfl rfl

theorem keeps_publishAt_lull (delayed : 0 ≤ delay) {cast : Cast Rat} {performer : Performer (Account Rat) Rat}
    (performed : ∀ context, ∀ pair ∈ cast, ∀ n, Keeps (Lull delay base since) (performer context (pair.2.script n)))
    (router place : Nat) : Keeps (Lull delay base since) (publishAt cast performer router place) := by
  refine keeps_publishAt plain_lull router place ?_ ?_ (keeps_record_lull delayed) (performed _)
  · exact fun account lull => lull.noted rfl nofun
  · exact fun listener account lull => lull.noted rfl nofun

/-- No time passes in actions that leave the timer to the scheduler, and no refresh fires. -/
theorem sustained_lull (base : List (Moment Rat)) (since : Rat) (delayed : 0 ≤ delay) {cast : Cast Rat}
    (timeless : ∀ pair ∈ cast, ∀ n, ∀ action ∈ pair.2.script n, Timeless action) :
    Sustained cast Timeless (Lull delay base since) where
  plain := plain_lull
  placed _ lull := lull.withHub rfl rfl
  amended _ _ lull := lull.withHub rfl rfl
  published _ _ performed place :=
    keeps_publishAt_lull delayed (fun context pair member n => performed context _ (timeless pair member n)) _ place
  handled _ := keeps_record_lull delayed
  subscribed _ _ lull := by
    rename_i token _ _
    cases token <;> exact lull.withHub rfl rfl
  unsubscribed _ _ lull := lull.withHub rfl rfl
  cancelled _ _ _ _ lull := lull.withHub rfl rfl
  notified _ := keeps_notify_lull delayed
  flushed permitted := permitted.elim
  advanced permitted := permitted.elim
  fired permitted := permitted.elim
  disarmed permitted := permitted.elim
  armed permitted := permitted.elim
  slept permitted := permitted.elim
  cleared _ account lull := by
    rw [exec_clearShots]
    have noted : Lull delay base since
        { account with past := { occurrence := .clear, hub := account.hub } :: account.past } := lull.noted rfl nofun
    exact noted.withHub rfl rfl
  attached := by
    intro router _ account lull
    obtain ⟨routers,same⟩ := attached_frame account.hub router
    rw [same]
    exact lull.withHub rfl rfl
  detached := by
    intro _ account lull
    obtain ⟨routers,same⟩ := detached_frame account.hub
    rw [same]
    exact lull.withHub rfl rfl

/-! ### Time passes -/

section

variable (cast : Cast Rat) (performer : Performer (Account Rat) Rat) {account : Account Rat}
  {timer : ManualTimer Rat (Callback Rat)} (kind : account.hub.timer.device = .manual timer) {seconds : Rat}
include kind

/-- Time that does not reach a deadline passes, and nothing else. -/
theorem exec_advance_early (early : ∀ pair ∈ timer.armed, timer.now + seconds < pair.1) :
    (advance cast performer seconds).exec account =
      (.ok false,
        { account with hub := account.hub.withDevice (.manual { timer with now := timer.now + seconds }) }) := by
  have moved : timer.advance seconds = .ok (none,{ timer with now := timer.now + seconds }) := by
    cases armed : timer.armed with
    | none => simp [ManualTimer.advance,Clock.later,Clock.later?,armed,bind,Except.bind,pure,Except.pure]
    | some pair =>
      obtain ⟨due,callback⟩ := pair
      have notYet : Clock.reached (timer.now + seconds) due = false := by
        simpa [Clock.reached] using early (due,callback) armed
      simp [ManualTimer.advance,Clock.later,Clock.later?,armed,notYet,bind,Except.bind,pure,Except.pure]
  exact exec_advance_quiet cast performer kind moved

/-- Time that reaches the deadline makes the timer call back, once it has passed. -/
theorem exec_advance_due {due : Rat} {callback : Callback Rat} (armed : timer.armed = some (due,callback))
    (reached : due ≤ timer.now + seconds) :
    ((advance cast performer seconds).exec account).2 =
      ((fireCallback cast performer callback).exec
        { account with
          hub := account.hub.withDevice (.manual { timer with now := timer.now + seconds, armed := none }) }).2 := by
  have itIsTime : Clock.reached (timer.now + seconds) due = true := by simpa [Clock.reached] using reached
  have moved : timer.advance seconds =
      .ok (some callback,{ timer with now := timer.now + seconds, armed := none }) := by
    simp [ManualTimer.advance,Clock.later,Clock.later?,armed,itIsTime,ManualTimer.disarm,bind,Except.bind,pure,
      Except.pure]
  exact congrArg Prod.snd (exec_advance_calling cast performer kind moved rfl)

end

/-- As long as the deadline of the window that is open is not reached, time passes and nothing else happens. -/
theorem Paced.waits {account : Account Rat} (paced : Paced delay account) {seconds : Rat} (forward : 0 ≤ seconds)
    (early : ∀ opened ∈ window? account.past, account.hub.now + seconds < opened + delay) (cast : Cast Rat)
    (performer : Performer (Account Rat) Rat) :
    ∃ hub, ((advance cast performer seconds).exec account).2 = { account with hub } ∧
      hub.now = account.hub.now + seconds ∧ Paced delay { account with hub } := by
  obtain ⟨kept,⟨timer,kind,armed⟩,pending,opened,reached,spaced⟩ := paced
  have here : account.hub.now = timer.now := by simp [Hub.now,TimerDevice.now,kind]
  have notYet : ∀ pair ∈ timer.armed, timer.now + seconds < pair.1 := by
    intro pair held
    rw [armed] at held
    obtain ⟨start,open',rfl⟩ := Option.mem_map.mp held
    exact here ▸ early start open'
  rw [exec_advance_early cast performer kind notYet]
  refine ⟨_,rfl,by simp [Hub.now,TimerDevice.now,withDevice,kind],kept,⟨_,rfl,armed⟩,pending,?_,?_,spaced⟩
  · intro start open'
    have before := opened start open'
    rw [here] at before
    exact before.trans (le_add_of_nonneg_right forward)
  · intro moment member fires
    have before := reached moment member fires
    cases open' : window? account.past with
    | some start => simpa [open'] using before
    | none =>
      rw [open',Option.getD_none,here] at before
      exact before.trans (le_add_of_nonneg_right forward)

/-- Once it is reached, its refresh fires, and no other one does: a window that an observer opens meanwhile has a
    deadline of its own. -/
theorem Paced.fires {account : Account Rat} (paced : Paced delay account) (delayed : 0 ≤ delay) {seconds opened : Rat}
    (open' : window? account.past = some opened) (due : opened + delay ≤ account.hub.now + seconds) {cast : Cast Rat}
    (timeless : ∀ pair ∈ cast, ∀ n, ∀ action ∈ pair.2.script n, Timeless action) (depth : Nat) :
    ∃ refresh : Moment Rat, refresh.fires = true ∧ refresh.hub.now = account.hub.now + seconds ∧
      Lull delay (refresh :: account.past) (account.hub.now + seconds)
        ((advance cast (perform cast depth) seconds).exec account).2 := by
  obtain ⟨kept,⟨timer,kind,armed⟩,pending,-,reached,spaced⟩ := paced
  have here : account.hub.now = timer.now := by simp [Hub.now,TimerDevice.now,kind]
  rw [open'] at armed reached
  rw [exec_advance_due cast (perform cast depth) kind armed (here ▸ due)]
  let device : TimerDevice Rat (Callback Rat) := .manual { timer with now := timer.now + seconds, armed := none }
  let refresh : Moment Rat := { occurrence := .refresh, hub := account.hub.withDevice device }
  have time : refresh.hub.now = account.hub.now + seconds := by
    simp [refresh,device,Hub.now,TimerDevice.now,withDevice,kind]
  refine ⟨refresh,rfl,time,?_⟩
  obtain ⟨hub,published,-,same,left⟩ := exec_fireRefresh cast (perform cast depth)
    { account with hub := account.hub.withDevice device }
  have sustained := sustained_lull (refresh :: account.past) (account.hub.now + seconds) delayed timeless
  let publish : Moment Rat := { occurrence := .publish 0 account.hub.signals.size, hub := published }
  let fired : Account Rat :=
    { hub := { account.hub.withDevice device with
        scheduler := { account.hub.scheduler with pending := false, fired := account.hub.scheduler.fired + 1 }
        signals := account.hub.signals.push (.event .refresh) }
      past := publish :: refresh :: account.past }
  have closed : window? fired.past = none := by simp [fired,publish,refresh,window?,Moment.granted,Moment.fires]
  have now : fired.hub.now = account.hub.now + seconds := time
  have before : ∀ moment ∈ account.past, moment.fires = true → moment.hub.now + delay ≤ account.hub.now + seconds :=
    fun moment member fires => (add_le_add_left (reached moment member fires) delay).trans due
  have lull : Lull delay (refresh :: account.past) (account.hub.now + seconds) fired := by
    refine ⟨⟨kept,⟨_,rfl,?_⟩,?_,?_,?_,?_⟩,now,[publish],rfl,?_⟩
    · rw [closed]
      rfl
    · rw [closed]
      rfl
    · simp [closed]
    · intro moment member fires
      rw [closed,Option.getD_none,now]
      simp only [fired,List.mem_cons] at member
      rcases member with rfl | rfl | inside
      · exact absurd fires Bool.false_ne_true
      · exact time.le
      · exact (le_add_of_nonneg_right delayed).trans (before moment inside fires)
    · have last : Spaced delay (refresh :: account.past) := by
        refine List.pairwise_cons.mpr ⟨?_,spaced⟩
        intro moment member
        obtain ⟨inside,fires⟩ := List.mem_filter.mp member
        exact time ▸ before moment inside fires
      exact last
    · simp [Silent,publish,Moment.fires]
  rw [fireCallback,left]
  refine keeps_deliver plain_lull 0 _ _ _ (fun listener _ => ?_) _ (plain_lull same lull)
  refine Keeps.bind (fun account lull => lull.noted rfl (by simp)) fun _ => ?_
  refine keeps_call plain_lull (keeps_record_lull delayed) _ (fun pair member n => ?_) listener
  exact sustained.perform depth _ _ (timeless pair member n)

/-! ### Whole runs -/

/-- Actions in which time passes, if at all, by moving it on. -/
def Onward : Action Rat → Prop
  | .advance seconds => 0 ≤ seconds
  | action => Timeless action

theorem Onward.cases {action : Action Rat} (onward : Onward action) :
    (∃ seconds, action = .advance seconds ∧ 0 ≤ seconds) ∨ Timeless action := by
  cases action with
  | advance seconds => exact .inl ⟨seconds,rfl,onward⟩
  | _ => exact .inr onward

theorem Onward.leavesArmed {action : Action Rat} (onward : Onward action) : LeavesArmed action := by
  rcases onward.cases with ⟨seconds,rfl,-⟩ | timeless
  · simp [LeavesArmed]
  · exact timeless.leavesArmed

theorem exec_act_advance (cast : Cast Rat) (performer : Performer (Account Rat) Rat) (context : Option Nat)
    (seconds : Rat) (account : Account Rat) :
    ((act cast performer context (.advance seconds)).exec account).2 =
      ((advance cast performer seconds).exec account).2 := by
  unfold act
  rw [exec_map]

section

variable {cast : Cast Rat} (timeless : ∀ pair ∈ cast, ∀ n, ∀ action ∈ pair.2.script n, Timeless action)
  (delayed : 0 ≤ delay)
include timeless delayed

/-- The deadline of the window that is open is reached, or time passes and nothing else happens. -/
theorem Paced.advanced {account : Account Rat} (paced : Paced delay account) (depth : Nat) {seconds : Rat}
    (forward : 0 ≤ seconds) :
    let later := ((act cast (perform cast depth) none (.advance seconds)).exec account).2
    Paced delay later ∧ later.hub.now = account.hub.now + seconds ∧
      ((∀ opened ∈ window? account.past, account.hub.now + seconds < opened + delay) → later.past = account.past) ∧
      ∀ opened ∈ window? account.past, opened + delay ≤ account.hub.now + seconds →
        ∃ fresh refresh, later.past = fresh ++ refresh :: account.past ∧ Silent fresh ∧
          refresh.fires = true ∧ refresh.hub.now = later.hub.now := by
  intro later
  have left : later = ((advance cast (perform cast depth) seconds).exec account).2 := exec_act_advance _ _ _ _ _
  by_cases due : ∃ opened ∈ window? account.past, opened + delay ≤ account.hub.now + seconds
  · obtain ⟨opened,open',reached⟩ := due
    obtain ⟨refresh,fires,time,lull⟩ := paced.fires delayed open' reached timeless depth
    rw [← left] at lull
    obtain ⟨fresh,split,silent⟩ := lull.silent
    refine ⟨lull.paced,lull.now,fun early => ?_,fun _ _ _ => ⟨fresh,refresh,split,silent,fires,time.trans lull.now.symm⟩⟩
    exact absurd reached (early opened open').not_ge
  · have early : ∀ opened ∈ window? account.past, account.hub.now + seconds < opened + delay :=
      fun opened open' => lt_of_not_ge fun reached => due ⟨opened,open',reached⟩
    obtain ⟨hub,waited,time,kept⟩ := paced.waits forward early cast (perform cast depth)
    rw [left,waited]
    exact ⟨kept,time,fun _ => rfl,fun opened open' reached => absurd reached (early opened open').not_ge⟩

/-- An action keeps the pace. If a refresh fires in it at all, it is the first thing that happens. -/
theorem Paced.act {account : Account Rat} (paced : Paced delay account) (depth : Nat) {action : Action Rat}
    (onward : Onward action) :
    let later := ((Hub.act cast (perform cast depth) none action).exec account).2
    Paced delay later ∧
      ∃ fresh first, later.past = fresh ++ (first ++ account.past) ∧ Silent fresh ∧ first.length ≤ 1 := by
  intro later
  rcases onward.cases with ⟨seconds,rfl,forward⟩ | steady
  · obtain ⟨kept,-,waits,fires⟩ := paced.advanced timeless delayed depth forward
    refine ⟨kept,?_⟩
    by_cases early : ∀ opened ∈ window? account.past, account.hub.now + seconds < opened + delay
    · exact ⟨[],[],waits early,by simp [Silent],by simp⟩
    · push Not at early
      obtain ⟨opened,open',reached⟩ := early
      obtain ⟨fresh,refresh,split,silent,-⟩ := fires opened open' reached
      exact ⟨fresh,[refresh],split,silent,le_rfl⟩
  · have sustained := sustained_lull account.past account.hub.now delayed timeless
    have lull := sustained.act (sustained.perform depth) none action steady account paced.lull
    obtain ⟨fresh,split,silent⟩ := lull.silent
    exact ⟨lull.paced,fresh,[],split,silent,by simp⟩

theorem Paced.afterAll {account : Account Rat} (paced : Paced delay account) (depth : Nat) {actions : List (Action Rat)}
    (onward : ∀ action ∈ actions, Onward action) : Paced delay (afterAll cast depth actions account) := by
  induction actions generalizing account with
  | nil => exact paced
  | cons action rest ih =>
    refine ih (paced.act timeless delayed depth (onward action (by simp))).1 ?_
    exact fun other member => onward other (by simp [member])

/-- Nothing fires in an action after one of its moments. -/
theorem Paced.opens_last {account : Account Rat} (paced : Paced delay account) (depth : Nat) {action : Action Rat}
    (onward : Onward action) {moment : Moment Rat} {newer older : List (Moment Rat)}
    (split : ((Hub.act cast (perform cast depth) none action).exec account).2.past = newer ++ moment :: older)
    (begun : account.past <:+ older) : Silent newer := by
  obtain ⟨-,fresh,first,acted,calm,short⟩ := paced.act timeless delayed depth onward
  obtain ⟨more,rfl⟩ := begun
  have same : (newer ++ moment :: more) ++ account.past = (fresh ++ first) ++ account.past := by
    rw [List.append_assoc,List.append_assoc,← acted,split]
    rfl
  have inside := List.append_cancel_right same
  have length := congrArg List.length inside
  simp only [List.length_append,List.length_cons] at length
  -- At most the first moment of the action fires, and at least one moment of the action comes before the newer ones.
  have among : newer <+: fresh :=
    List.prefix_of_prefix_length_le (inside ▸ List.prefix_append _ _) (List.prefix_append _ _) (by omega)
  exact fun other member => calm other (among.subset member)

/-- While the deadline of a window is not reached, nothing fires, whatever is requested. -/
theorem Paced.stays_open {account : Account Rat} (paced : Paced delay account) (balanced : Balanced account)
    {moment : Moment Rat} {fresh older : List (Moment Rat)} (split : account.past = fresh ++ moment :: older)
    (granted : moment.granted = true) (silent : Silent fresh) (depth : Nat)
    (waiting : List (Action Rat)) (onward : ∀ action ∈ waiting, Onward action)
    (early : ∀ front seconds back, waiting = front ++ .advance seconds :: back →
      (Hub.afterAll cast depth (front ++ [.advance seconds]) account).hub.now < moment.hub.now + delay) :
    ∃ fresh, (Hub.afterAll cast depth waiting account).past = fresh ++ moment :: older ∧ Silent fresh := by
  induction waiting generalizing account fresh with
  | nil => exact ⟨fresh,split,silent⟩
  | cons action rest ih =>
    have permitted := onward action (by simp)
    have leaves : ∀ pair ∈ cast, ∀ n, ∀ action ∈ pair.2.script n, LeavesArmed action :=
      fun pair member n action here => (timeless pair member n action here).leavesArmed
    have sustained := sustained_balanced leaves
    have balanced' := sustained.act (sustained.perform depth) none action permitted.leavesArmed account balanced
    have next : ∃ fresh, ((Hub.act cast (perform cast depth) none action).exec account).2.past =
        fresh ++ moment :: older ∧ Silent fresh := by
      rcases permitted.cases with ⟨seconds,rfl,forward⟩ | steady
      · obtain ⟨-,time,waits,-⟩ := paced.advanced timeless delayed depth forward
        have notYet := early [] seconds rest rfl
        refine ⟨fresh,(waits fun opened open' => ?_).trans split,silent⟩
        rw [(window_of_silent balanced split granted silent).2.2] at open'
        obtain rfl := Option.some.inj open'
        exact time ▸ notYet
      · have sustained := sustained_lull account.past account.hub.now delayed timeless
        have lull := sustained.act (sustained.perform depth) none action steady account paced.lull
        obtain ⟨newer,added,calm⟩ := lull.silent
        refine ⟨newer ++ fresh,by rw [added,split,List.append_assoc],?_⟩
        intro other member
        exact (List.mem_append.mp member).elim (calm other) (silent other)
    obtain ⟨fresh',split',silent'⟩ := next
    exact ih (paced.act timeless delayed depth permitted).1 balanced' split' silent'
      (fun other member => onward other (by simp [member]))
      (fun front seconds back same => early (action :: front) seconds back (by simp [same]))

end

/-- From the start on, the pace and the balance are kept. -/
theorem steady_afterAll {hub : Hub Rat} {timer : ManualTimer Rat (Callback Rat)}
    (byHand : hub.timer.device = .manual timer) (unarmed : timer.armed = none)
    (idle : hub.scheduler.pending = false) (unfired : hub.scheduler.fired = 0) (delayed : 0 ≤ hub.scheduler.delay)
    {cast : Cast Rat} (timeless : ∀ pair ∈ cast, ∀ n, ∀ action ∈ pair.2.script n, Timeless action) (depth : Nat)
    {actions : List (Action Rat)} (onward : ∀ action ∈ actions, Onward action) :
    Paced hub.scheduler.delay (afterAll cast depth actions ({ hub } : Account Rat)) ∧
      Balanced (afterAll cast depth actions ({ hub } : Account Rat)) := by
  have leaves : ∀ pair ∈ cast, ∀ n, ∀ action ∈ pair.2.script n, LeavesArmed action :=
    fun pair member n action here => (timeless pair member n action here).leavesArmed
  have paced : Paced hub.scheduler.delay ({ hub } : Account Rat) := Paced.start byHand unarmed idle
  have balanced : Balanced ({ hub } : Account Rat) := by
    refine Balanced.start idle unfired ?_ ?_
    · rw [byHand]
      trivial
    · simp [byHand,TimerDevice.callbacks,unarmed]
  have kept := (sustained_balanced leaves).afterAll depth actions fun action member => (onward action member).leavesArmed
  exact ⟨paced.afterAll timeless delayed depth onward,kept _ balanced⟩

/-- However requests, events and the time that passes follow each other, and whatever observers request or publish
    when a refresh calls them: any two refreshes are at least the delay apart. A window fires in the first move of
    the time that begins after it was opened and leaves the timer at its deadline or beyond: not before, however
    many more requests are made, and just once. -/
theorem refreshes_keep_pace {hub : Hub Rat} {timer : ManualTimer Rat (Callback Rat)}
    (byHand : hub.timer.device = .manual timer) (unarmed : timer.armed = none)
    (idle : hub.scheduler.pending = false) (unfired : hub.scheduler.fired = 0) (delayed : 0 ≤ hub.scheduler.delay)
    {cast : Cast Rat} (timeless : ∀ pair ∈ cast, ∀ n, ∀ action ∈ pair.2.script n, Timeless action) (depth : Nat)
    (before : List (Action Rat)) (opening : Action Rat) (waiting : List (Action Rat))
    (onward : ∀ action ∈ before ++ opening :: waiting, Onward action) :
    let after : List (Action Rat) → Account Rat := fun actions => Hub.afterAll cast depth actions { hub }
    let awaited := after (before ++ opening :: waiting)
    awaited.hub = Hub.afterAll cast depth (before ++ opening :: waiting) hub ∧
      Spaced hub.scheduler.delay awaited.past ∧
      ∀ moment older, moment :: older <:+ (after (before ++ [opening])).past → (after before).past <:+ older →
        moment.granted = true →
        (∀ front seconds back, waiting = front ++ .advance seconds :: back →
          (after (before ++ opening :: front ++ [.advance seconds])).hub.now <
            moment.hub.now + hub.scheduler.delay) →
        (∃ fresh, awaited.past = fresh ++ moment :: older ∧ Quiet fresh) ∧
          awaited.hub.scheduler.pending = true ∧
          ∀ seconds, 0 ≤ seconds →
            let last := after (before ++ opening :: waiting ++ [.advance seconds])
            last.hub.now = awaited.hub.now + seconds ∧
              (last.hub.now < moment.hub.now + hub.scheduler.delay → last.past = awaited.past) ∧
              (moment.hub.now + hub.scheduler.delay ≤ last.hub.now →
                ∃ fresh refresh, last.past = fresh ++ refresh :: awaited.past ∧ Silent fresh ∧
                  refresh.fires = true ∧ refresh.hub.now = last.hub.now) := by
  intro after awaited
  have steady : ∀ actions, (∀ action ∈ actions, Onward action) →
      Paced hub.scheduler.delay (after actions) ∧ Balanced (after actions) :=
    fun actions onward => steady_afterAll byHand unarmed idle unfired delayed timeless depth onward
  have inOrder : ∀ first second, after (first ++ second) = Hub.afterAll cast depth second (after first) :=
    fun first second => List.foldl_append
  obtain ⟨paced,balanced⟩ := steady _ onward
  refine ⟨afterAll_hub cast depth _ _,paced.spaced,?_⟩
  intro moment older here begun granted early
  have split : before ++ opening :: waiting = before ++ [opening] ++ waiting := by simp
  have opens : ∀ action ∈ before ++ [opening], Onward action :=
    fun action member => onward action (split ▸ List.mem_append_left _ member)
  obtain ⟨newer,opened⟩ := here
  rw [inOrder] at opened
  have silent : Silent newer :=
    (steady before fun action member => onward action (by simp [member])).1.opens_last timeless delayed depth
      (onward opening (by simp)) opened.symm begun
  obtain ⟨pacedThen,balancedThen⟩ := steady _ opens
  obtain ⟨fresh,waited,quiet⟩ := pacedThen.stays_open timeless delayed balancedThen
    ((congrArg Account.past (inOrder _ _)).trans opened.symm) granted silent
    depth waiting (fun action member => onward action (by simp [member])) (by
      intro front seconds back same
      have notYet := early front seconds back same
      rw [← inOrder]
      simpa using notYet)
  rw [← inOrder,← split] at waited
  obtain ⟨undisturbed,pending,window⟩ := window_of_silent balanced waited granted quiet
  refine ⟨⟨fresh,waited,undisturbed⟩,pending,fun seconds forward => ?_⟩
  intro last
  obtain ⟨-,time,waits,fires⟩ := paced.advanced timeless delayed depth forward
  have moved : last = ((Hub.act cast (perform cast depth) none (.advance seconds)).exec awaited).2 :=
    (inOrder (before ++ opening :: waiting) [.advance seconds] :)
  rw [← moved] at time waits fires
  refine ⟨time,fun notYet => waits fun opened open' => ?_,fun due => ?_⟩
  · rw [window] at open'
    obtain rfl := Option.some.inj open'
    exact time ▸ notYet
  · exact fires _ window (time ▸ due)

/-- An observer of refreshes that requests the next one each time it is called. -/
private def eager : Observer Rat := { title := "eager", script := fun _ => [.notify] }

/-- A hub that records, and that it observes. -/
private def eagerHub : Hub Rat :=
  ({ routers := [{ subscriptions := [(Kind.refresh.name,.observer "eager")] }], recorder := some {},
     scheduler := { delay := 2 }, timer := .byHand } : Hub Rat).attached 0

private def eagerRun (actions : List (Action Rat)) : Account Rat :=
  afterAll [("eager",eager)] maxCalls actions { hub := eagerHub }

/-- The move that fires the first refresh, a whole deadline too late, opens the second window. -/
theorem refreshes_keep_pace_of_eager :
    let before : List (Action Rat) := [.publish (.fresh (.ok (.event (.message "one")))) 0]
    let waiting : List (Action Rat) := [.notify,.advance 1,.publish (.kept 0) 0]
    let awaited := eagerRun (before ++ .advance 5 :: waiting)
    Spaced 2 awaited.past ∧
      ∃ moment older, moment.granted = true ∧ moment.hub.now = 5 ∧
        (∃ fresh, awaited.past = fresh ++ moment :: older ∧ Quiet fresh) ∧
        ∃ fresh refresh, (eagerRun (before ++ .advance 5 :: waiting ++ [.advance 1])).past =
          fresh ++ refresh :: awaited.past ∧ refresh.fires = true ∧ refresh.hub.now = 7 := by
  intro before waiting awaited
  have timeless : ∀ pair ∈ [("eager",eager)], ∀ n, ∀ action ∈ pair.2.script n, Timeless action := by
    simp only [List.mem_singleton,forall_eq]
    intro n action member
    obtain rfl := List.mem_singleton.mp member
    trivial
  have onward : ∀ action ∈ before ++ .advance 5 :: waiting, Onward action := by
    intro action member
    simp only [before,waiting,List.cons_append,List.nil_append,List.mem_cons,List.not_mem_nil,or_false] at member
    rcases member with rfl | rfl | rfl | rfl | rfl <;> simp [Onward,Timeless]
  have byHand : eagerHub.timer.device = .manual .new := rfl
  have delayed : (0 : Rat) ≤ eagerHub.scheduler.delay := by decide +kernel
  obtain ⟨-,spaced,windows⟩ :=
    refreshes_keep_pace byHand rfl rfl rfl delayed timeless maxCalls before (.advance 5) waiting onward
  have grown : (eagerRun before).past <:+ (eagerRun (before ++ [.advance 5])).past := by
    have paced : Paced eagerHub.scheduler.delay (eagerRun before) :=
      (Paced.start rfl rfl rfl).afterAll timeless delayed maxCalls fun action member => onward action (by simp [member])
    obtain ⟨-,fresh,first,acted,-⟩ := paced.act timeless delayed maxCalls (onward (.advance 5) (by simp))
    exact ⟨fresh ++ first,(List.append_assoc _ _ _).trans acted.symm⟩
  have lengths : (eagerRun before).past.length = 4 ∧ (eagerRun (before ++ [.advance 5])).past.length = 8 := by
    decide +kernel
  have last : (eagerRun (before ++ [.advance 5])).past.head?.map (fun moment => (moment.granted,moment.hub.now)) =
      some (true,5) := by decide +kernel
  rcases opened : (eagerRun (before ++ [.advance 5])).past with _ | ⟨moment,older⟩
  · simp [opened] at last
  rw [opened] at grown lengths last
  obtain ⟨granted,time⟩ : moment.granted = true ∧ moment.hub.now = 5 := by simpa using last
  have begun : (eagerRun before).past <:+ older := by
    rcases List.suffix_cons_iff.mp grown with same | inside
    · simp [same] at lengths
      omega
    · exact inside
  obtain ⟨quiet,-,moved⟩ := windows moment older (opened ▸ List.suffix_refl _) begun granted (by
    intro front seconds back same
    have reading : (eagerRun (before ++ .advance 5 :: [.notify] ++ [.advance 1])).hub.now = 6 := by decide +kernel
    rcases front with _ | ⟨first,_ | ⟨second,_ | ⟨third,front⟩⟩⟩
    · simp [waiting] at same
    · obtain ⟨rfl,rfl,-⟩ : first = .notify ∧ seconds = 1 ∧ _ := by simpa [waiting,eq_comm] using same
      rw [time]
      refine reading.trans_lt ?_
      decide +kernel
    · simp [waiting] at same
    · simp [waiting] at same)
  obtain ⟨now,-,fires⟩ := moved 1 (by decide +kernel)
  have reading : awaited.hub.now = 6 := by decide +kernel
  rw [now] at fires
  obtain ⟨fresh,refresh,split,-,fired,reached⟩ := fires (by
    rw [time]
    refine le_trans ?_ (add_le_add_left reading.ge 1)
    decide +kernel)
  refine ⟨spaced,moment,older,granted,time,quiet,fresh,refresh,split,fired,reached.trans ?_⟩
  refine (congrArg (· + 1) reading).trans ?_
  decide +kernel

end Hub

end ShotRecorder
