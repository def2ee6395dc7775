import ShotRecorder.Proofs.ArrivalOrder
import ShotRecorder.Proofs.Conservation
import ShotRecorder.Proofs.ForwardClocks
import ShotRecorder.Proofs.Onlookers
import ShotRecorder.Replay

/-!
A replay from its first event to its last refresh. The loop sleeps between the events, and after them as long as
a refresh is pending; whatever the pause between the events and the delay of refreshes, it is left with nothing
pending, and each refresh that was noticed on the way tells of the events that had been published by then.
-/
namespace ShotRecorder

/-- Whether a refresh was noticed. -/
def Notice.isRefresh : Notice → Bool
  | .refresh _ _ _ => true
  | .message _ => false

/-- The text of a message that was noticed. -/
def Notice.text? : Notice → Option String
  | .message text => some text
  | .refresh _ _ _ => none

/-- The text of a message. -/
def Event.text? : Event → Option String
  | .message text => some text
  | _ => none

namespace Replay
open Run Hub

section

variable {τ : Type}

/-! ### The loop of a replay -/

/-- The timer of a replay, which waits for the time of a refresh if one is pending. -/
def awaiting (now : τ) (made : Nat) : Option τ → LoopTimer τ (Callback τ)
  | none => { loop := { now, made } }
  | some due =>
    { loop := { now, queue := [{ id := made, due, callback := .refresh }], made := made + 1 }, appointment := some made }

/-- Whether a loop that sleeps until it wakes up comes to a time. -/
def comes [Clock τ] (wake due : τ) : Bool := Clock.reached (Clock.after wake Clock.grain) due

theorem next_awaiting_due [Clock τ] (now : τ) (made : Nat) {due wake : τ} (come : comes wake due = true) :
    (awaiting now made (some due)).next? wake =
      some (.refresh,awaiting (if Clock.reached wake due then due else wake) (made + 1) none) := by
  have isDue : EventLoop.isDue wake { id := made, due, callback := (.refresh : Callback τ) } = true := by
    simpa [EventLoop.isDue,comes,Clock.after] using come
  simp [LoopTimer.next?,EventLoop.next?,awaiting,isDue,EventLoop.arrive]

theorem next_awaiting_early [Clock τ] (now : τ) (made : Nat) {due? : Option τ} {wake : τ}
    (early : ∀ due ∈ due?, comes wake due = false) : (awaiting now made due?).next? wake = none := by
  cases due? with
  | none => rfl
  | some due =>
    have notDue : EventLoop.isDue wake { id := made, due, callback := (.refresh : Callback τ) } = false := by
      simpa [EventLoop.isDue,comes,Clock.after] using early due rfl
    simp [LoopTimer.next?,EventLoop.next?,awaiting,notDue]

theorem wakeUp_awaiting (now : τ) (made : Nat) (due? : Option τ) (wake : τ) :
    (awaiting now made due?).wakeUp wake = awaiting wake made due? := by
  cases due? <;> rfl

theorem schedule_awaiting [Clock τ] {Time : τ → Prop} (forward : Clock.Forward Time) {now delay : τ} (time : Time now)
    (delayed : Time delay) (made : Nat) :
    ({ device := .loop (awaiting now made none) } : Timer τ (Callback τ)).schedule delay .refresh =
      (.ok true,{ device := .loop (awaiting now made (some (Clock.after now delay))) }) := by
  simp [Timer.schedule,TimerDevice.schedule,LoopTimer.schedule,EventLoop.callLater,awaiting,
    forward.notNegative_eq delayed,forward.later_eq time delayed,bind,Except.bind,pure,Except.pure]

/-! ### What is shown -/

/-- The line of a refresh that fires after a past. -/
def line (earlier : List (Moment τ)) : Notice :=
  let shots := Hub.replay (history earlier)
  .refresh (earlier.countP Moment.fires + 1) shots.count shots.closedCount

/-- The lines of the refreshes of a past, in order. -/
def shown : List (Moment τ) → List Notice
  | [] => []
  | moment :: earlier => if moment.fires then shown earlier ++ [line earlier] else shown earlier

theorem length_shown (past : List (Moment τ)) : (shown past).length = past.countP Moment.fires := by
  induction past with
  | nil => rfl
  | cons moment earlier ih =>
    cases fires : moment.fires <;> simp [shown,fires,ih]

/-- The k-th line is that of a refresh before which there were as many others. -/
theorem shown_getElem {past : List (Moment τ)} {k : Nat} {shownLine : Notice} (here : (shown past)[k]? = some shownLine) :
    ∃ refresh earlier, refresh :: earlier <:+ past ∧ refresh.fires = true ∧ earlier.countP Moment.fires = k ∧
      shownLine = line earlier := by
  induction past with
  | nil => simp [shown] at here
  | cons moment earlier ih =>
    have inside : ∀ refresh before : _, refresh :: before <:+ earlier → refresh :: before <:+ moment :: earlier :=
      fun _ _ suffix => suffix.trans (List.suffix_cons moment earlier)
    cases fires : moment.fires with
    | false =>
      simp only [shown,fires,Bool.false_eq_true,↓reduceIte] at here
      obtain ⟨refresh,before,suffix,rest⟩ := ih here
      exact ⟨refresh,before,inside _ _ suffix,rest⟩
    | true =>
      simp only [shown,fires,↓reduceIte] at here
      by_cases old : k < (shown earlier).length
      · rw [List.getElem?_append_left old] at here
        obtain ⟨refresh,before,suffix,rest⟩ := ih here
        exact ⟨refresh,before,inside _ _ suffix,rest⟩
      · rw [List.getElem?_append_right (by omega)] at here
        obtain ⟨new,same⟩ := List.getElem?_eq_some_iff.mp here
        have last : k = earlier.countP Moment.fires := by
          rw [← length_shown]
          simp at new
          omega
        subst last
        refine ⟨moment,earlier,List.suffix_refl _,fires,rfl,?_⟩
        simpa [length_shown] using same.symm

/-- What was begun before was begun. -/
theorem history_suffix {earlier past : List (Moment τ)} (suffix : earlier <:+ past) :
    history earlier <+: history past := by
  unfold history
  exact List.reverse_prefix.mpr (suffix.filterMap deed?)

/-- What happens aside shows nothing and begins nothing. -/
theorem aside_frame {fresh : List (Moment τ)} (asides : Asides fresh) (past : List (Moment τ)) :
    shown (fresh ++ past) = shown past ∧ history (fresh ++ past) = history past ∧
      (fresh ++ past).countP Moment.fires = past.countP Moment.fires := by
  induction fresh with
  | nil => exact ⟨rfl,rfl,rfl⟩
  | cons moment fresh ih =>
    obtain ⟨aside,rest⟩ := List.forall_mem_cons.mp asides
    obtain ⟨sameShown,sameHistory,sameCount⟩ := ih rest
    have silent : moment.fires = false ∧ deed? moment = none := by
      unfold Moment.isAside at aside
      unfold Moment.fires deed?
      split at aside <;> simp_all
    refine ⟨?_,?_,?_⟩
    · simpa [shown,silent.1] using sameShown
    · rw [List.cons_append,history_cons,silent.2,sameHistory]
      simp
    · simpa [silent.1] using sameCount

/-- An event that is applied shows nothing by itself. -/
theorem applied_frame {fresh : List (Moment τ)} (asides : Asides fresh) {moment : Moment τ} {event : Event}
    (begun : deed? moment = some (.apply event)) (silent : moment.fires = false) (past : List (Moment τ)) :
    shown (fresh ++ moment :: past) = shown past ∧
      history (fresh ++ moment :: past) = history past ++ [.apply event] ∧
      (fresh ++ moment :: past).countP Moment.fires = past.countP Moment.fires := by
  obtain ⟨sameShown,sameHistory,sameCount⟩ := aside_frame asides (moment :: past)
  rw [sameShown,sameHistory,sameCount,history_cons,begun]
  simp [shown,silent]

/-- A refresh that fires shows its line, and begins nothing. -/
theorem fired_frame {fresh : List (Moment τ)} (asides : Asides fresh) {publish refresh : Moment τ}
    (silent : publish.fires = false ∧ deed? publish = none) (fires : refresh.fires = true ∧ deed? refresh = none)
    (past : List (Moment τ)) :
    shown (fresh ++ publish :: refresh :: past) = shown past ++ [line past] ∧
      history (fresh ++ publish :: refresh :: past) = history past ∧
      (fresh ++ publish :: refresh :: past).countP Moment.fires = past.countP Moment.fires + 1 := by
  obtain ⟨sameShown,sameHistory,sameCount⟩ := aside_frame asides (publish :: refresh :: past)
  rw [sameShown,sameHistory,sameCount,history_cons,history_cons,silent.2,fires.2]
  simp [shown,silent.1,fires.1]

/-! ### The hub of a replay -/

variable [Clock τ] {Time : τ → Prop}

/-- The hub before the first event. -/
def opened (delay : τ) (echo : Bool) : Hub τ :=
  let hub : Hub τ :=
    { recorder := some {}, scheduler := { delay }, timer := .onLoop true false, threshold := Level.off.number }
  let hub := (hub.attached 0).onRouter 0 (·.subscribe Kind.refresh.name (.observer refreshes))
  if echo then hub.onRouter 0 (·.subscribe Kind.message.name (.observer messages)) else hub

theorem start_eq (forward : Clock.Forward Time) {delay : τ} (delayed : Time delay) (echo : Bool) :
    start delay echo = .ok (opened delay echo) := by
  have positive : Clock.isNegative delay = false := forward.notNegative delayed
  simp [start,Hub.new,newScheduler,positive,bind,Except.bind,pure,Except.pure,opened]

/-- The observers that an event is shown to. -/
def lookers (echo : Bool) (event : Event) : List String :=
  match event with
  | .message _ => if echo then [messages] else []
  | _ => []

theorem listeners_opened (delay : τ) (echo : Bool) {event : Event} (produced : event.kind ∈ Kind.producers) :
    ((opened delay echo).registry 0).listeners event.kind.name = .recorder :: (lookers echo event).map .observer := by
  cases event with
  | refresh => simp [Event.kind,Kind.producers] at produced
  | message text => cases echo <;> rfl
  | snapshot state rendered => cases echo <;> rfl
  | result success value => cases echo <;> rfl

theorem listeners_opened_refresh (delay : τ) (echo : Bool) :
    ((opened delay echo).registry 0).listeners Kind.refresh.name = [refreshes].map .observer := by
  cases echo <;> rfl

omit [Clock τ] in
theorem onlookers_cast : Onlookers (cast : Cast τ) := by
  simp [Onlookers,cast,Observer.onlooker]

/-- The state of a replay after some of its events: when the next refresh is due, if one is pending, and what was
    noticed so far. -/
structure Replaying (Time : τ → Prop) (delay : τ) (echo : Bool) (events : List Event) (due? : Option τ) (now : τ)
    (account : Account τ) : Prop where
  routers : account.hub.routers = (opened delay echo).routers
  recorder : account.hub.recorder = some { shots := events.foldl ShotLog.apply {}, router := some 0 }
  scheduler : account.hub.scheduler =
    { delay, pending := due?.isSome, fired := account.past.countP Moment.fires }
  timer : ∃ made, account.hub.timer = { device := .loop (awaiting now made due?) }
  time : Time now
  -- The loop comes to the refresh if it sleeps for a whole delay.
  soon : ∀ due ∈ due?, Time due ∧ Clock.reached (Clock.after now delay) due = true
  history : history account.past = events.map .apply
  lines : (notices account.hub).filter Notice.isRefresh = shown account.past
  echoed : (notices account.hub).filterMap Notice.text? = if echo then events.filterMap Event.text? else []
  -- A refresh is pending, or the last one told of all events.
  settled : due? = none → events ≠ [] →
    (shown account.past).getLast? = some (.refresh (account.past.countP Moment.fires)
      (events.foldl ShotLog.apply {}).count (events.foldl ShotLog.apply {}).closedCount)
  few : account.past.countP Moment.fires + due?.toList.length ≤ events.length

theorem replay_apply (events : List Event) : Hub.replay (events.map .apply) = events.foldl ShotLog.apply {} := by
  simp only [Hub.replay,List.foldl_map]
  rfl

theorem Replaying.start (forward : Clock.Forward Time) (delay : τ) (echo : Bool) :
    Replaying Time delay echo [] none Clock.zero { hub := opened delay echo } where
  routers := rfl
  recorder := by cases echo <;> rfl
  scheduler := by cases echo <;> rfl
  timer := ⟨0,by cases echo <;> rfl⟩
  time := forward.zero
  soon _ due := absurd due nofun
  history := rfl
  lines := by cases echo <;> rfl
  echoed := by cases echo <;> rfl
  settled _ some := absurd rfl some
  few := by simp

section

variable {delay : τ} {echo : Bool} {events : List Event} {due? : Option τ} {now : τ} {account : Account τ}

omit [Clock τ] in
/-- What is noticed of an event. -/
theorem notices_sightings (echo : Bool) (event : Event) (view : View) :
    (sightings (lookers echo event) (.event event) view).toList.filterMap (notice? (τ := τ)) =
      if echo then event.text?.toList.map .message else [] := by
  cases event <;> cases echo <;> rfl

omit [Clock τ] in
theorem notices_append {hub other : Hub τ} {seen : Array (Sighting τ)} (same : other.seen = hub.seen ++ seen) :
    notices other = notices hub ++ seen.toList.filterMap notice? := by
  simp [notices,same]

/-- A request during a replay is granted if no refresh is pending. -/
theorem Replaying.request (replaying : Replaying Time delay echo events due? now account)
    (forward : Clock.Forward Time) (delayed : Time delay) :
    ∃ armed made, account.hub.request.1 = .ok armed ∧
      account.hub.request.2.timer = { device := .loop (awaiting now made (some (due?.getD (Clock.after now delay)))) } ∧
      account.hub.request.2.scheduler = { delay, pending := true, fired := account.past.countP Moment.fires } := by
  obtain ⟨made,timer⟩ := replaying.timer
  have scheduler := replaying.scheduler
  cases due? with
  | some due => exact ⟨false,made,by simp [Hub.request,scheduler],by simp [Hub.request,scheduler,timer],
      by simp [Hub.request,scheduler]⟩
  | none =>
    have granted := schedule_awaiting forward replaying.time delayed made
    exact ⟨true,made,by simp [Hub.request,scheduler,timer,granted],by simp [Hub.request,scheduler,timer,granted],
      by simp [Hub.request,scheduler,timer,granted,isYes]⟩

/-- An event that is published is recorded at once, and a refresh is pending then. -/
theorem Replaying.publishes (replaying : Replaying Time delay echo events due? now account)
    (forward : Clock.Forward Time) (delayed : Time delay) {event : Event} (producer : event.kind ∈ Kind.producers) :
    ∃ left, (step cast (.publish (.fresh (.ok (.event event))) 0)).exec account = (.ok (.failures []),left) ∧
      Replaying Time delay echo (events ++ [event]) (some (due?.getD (Clock.after now delay))) now left ∧
      left.past.countP Moment.fires = account.past.countP Moment.fires := by
  have produced := Signal.produced_event producer
  have listeners : (account.hub.registry 0).listeners event.kind.name =
      .recorder :: (lookers echo event).map .observer := by
    unfold registry
    rw [replaying.routers]
    exact listeners_opened delay echo producer
  obtain ⟨armed,made,answered,timer,scheduler⟩ := replaying.request forward delayed
  obtain ⟨calls,log,fresh,asides,ran⟩ :=
    exec_publish_event onlookers_cast maxCalls produced replaying.recorder rfl answered none listeners
  let publish : Moment τ :=
    { occurrence := .publish 0 account.hub.signals.size
      hub := { account.hub with signals := account.hub.signals.push (.event event) } }
  have begun : deed? publish = some (.apply event) := by simp [deed?,publish,produced]
  obtain ⟨sameShown,continued,count⟩ := applied_frame asides begun rfl account.past
  rw [taking_congr account.hub publish.hub rfl rfl] at ran
  refine ⟨_,ran,?_,count⟩
  have noticed := fun view => notices_sightings (τ := τ) echo event view
  refine
    { routers := replaying.routers
      recorder := by simp
      scheduler := scheduler.trans
        (congrArg (fun fired => ({ delay, pending := true, fired } : Scheduler τ)) count.symm)
      timer := ⟨made,timer⟩
      time := replaying.time
      soon := ?_
      history := ?_
      lines := ?_
      echoed := ?_
      settled := by simp
      few := ?_ }
  · intro due awaited
    obtain rfl := Option.some.inj awaited
    cases due? with
    | none => exact ⟨forward.time replaying.time delayed,forward.refl (forward.time replaying.time delayed)⟩
    | some due => exact replaying.soon due rfl
  · rw [continued,replaying.history]
    simp
  · rw [notices_append rfl,noticed,List.filter_append,sameShown]
    have text : (if echo then event.text?.toList.map Notice.message else []).filter Notice.isRefresh = [] := by
      cases echo <;> cases event.text? <;> rfl
    rw [text,List.append_nil]
    exact replaying.lines
  · rw [notices_append rfl,noticed,List.filterMap_append]
    refine (congrArg (· ++ _) replaying.echoed).trans ?_
    cases echo with
    | false => rfl
    | true => cases text : event.text? <;> simp [text,Notice.text?]
  · have few := replaying.few
    refine (congrArg (· + 1) count).trans_le ?_
    simp only [List.length_append,List.length_singleton]
    omega

/-- A refresh that fires tells of all events so far, and none is pending then. -/
theorem Replaying.fires {due : τ} (replaying : Replaying Time delay echo events (some due) now account) {later : τ}
    (time : Time later) (made : Nat) :
    ∃ left, (fireRefresh cast (perform cast maxCalls)).exec
        { account with hub := account.hub.withDevice (.loop (awaiting later made none)) } = (.ok (),left) ∧
      Replaying Time delay echo events none later left ∧
      left.past.countP Moment.fires = account.past.countP Moment.fires + 1 := by
  let woken : Account τ := { account with hub := account.hub.withDevice (.loop (awaiting later made none)) }
  have listeners : (woken.hub.registry 0).listeners Kind.refresh.name = [refreshes].map .observer := by
    have routers : woken.hub.routers = (opened delay echo).routers := replaying.routers
    unfold registry
    rw [routers]
    exact listeners_opened_refresh delay echo
  obtain ⟨calls,log,before,fresh,asides,ran⟩ := exec_fireRefresh_seen onlookers_cast maxCalls listeners
  let publish : Moment τ :=
    { occurrence := .publish 0 woken.hub.signals.size, hub := { woken.hub.refreshing with log := before } }
  let refresh : Moment τ := { occurrence := .refresh, hub := woken.hub }
  have silent : publish.fires = false ∧ deed? publish = none := ⟨rfl,by simp [deed?,publish,refreshing,Signal.produced?]⟩
  have fires : refresh.fires = true ∧ deed? refresh = none := ⟨rfl,rfl⟩
  obtain ⟨lines,sameHistory,count⟩ := fired_frame asides silent fires account.past
  have told : line account.past = .refresh (account.past.countP Moment.fires + 1)
      (events.foldl ShotLog.apply {}).count (events.foldl ShotLog.apply {}).closedCount := by
    simp [line,replaying.history,replay_apply]
  have scheduler : woken.hub.refreshing.scheduler =
      { delay, pending := false, fired := account.past.countP Moment.fires + 1 } := by
    simp [woken,refreshing,withDevice,replaying.scheduler]
  have recorder : woken.hub.refreshing.recorder = some { shots := events.foldl ShotLog.apply {}, router := some 0 } :=
    replaying.recorder
  have noticed :
      (sightings [refreshes] (.event .refresh) woken.hub.refreshing.view).toList.filterMap (notice? (τ := τ)) =
        [line account.past] := by
    rw [told]
    simp [sightings,notice?,view,scheduler,recorder]
  refine ⟨_,ran,?_,count⟩
  refine
    { routers := replaying.routers
      recorder := replaying.recorder
      scheduler := scheduler.trans
        (congrArg (fun fired => ({ delay, pending := false, fired } : Scheduler τ)) count.symm)
      timer := ⟨made,?_⟩
      time
      soon := by simp
      history := ?_
      lines := ?_
      echoed := ?_
      settled := ?_
      few := ?_ }
  · obtain ⟨_,timer⟩ := replaying.timer
    simp [woken,refreshing,withDevice,timer]
  · rw [sameHistory,replaying.history]
  · rw [notices_append rfl,noticed,List.filter_append,lines]
    exact congrArg (· ++ _) replaying.lines
  · rw [notices_append rfl,noticed,List.filterMap_append]
    refine (congrArg (· ++ _) replaying.echoed).trans ?_
    simp [line,Notice.text?]
  · intro _ _
    rw [lines,told]
    exact List.getLast?_concat.trans (congrArg (fun number => some (Notice.refresh number _ _)) count.symm)
  · refine (congrArg (· + 0) count).trans_le ?_
    exact replaying.few

/-- Time passes, and the loop has nothing to do. -/
theorem Replaying.moves (replaying : Replaying Time delay echo events due? now account) {later : τ}
    (time : Time later) (soon : ∀ due ∈ due?, Clock.reached (Clock.after later delay) due = true) (made : Nat) :
    Replaying Time delay echo events due? later
      { account with hub := account.hub.withDevice (.loop (awaiting later made due?)) } where
  routers := replaying.routers
  recorder := replaying.recorder
  scheduler := replaying.scheduler
  timer := by
    obtain ⟨_,timer⟩ := replaying.timer
    exact ⟨made,by simp [withDevice,timer]⟩
  time
  soon due awaited := ⟨(replaying.soon due awaited).1,soon due awaited⟩
  history := replaying.history
  lines := replaying.lines
  echoed := replaying.echoed
  settled := replaying.settled
  few := replaying.few

/-- A loop that has nothing to call until it wakes up. -/
theorem exec_sleepUntil_quiet (performer : Performer (Account τ) τ) {timer : LoopTimer τ (Callback τ)}
    (kind : account.hub.timer.device = .loop timer) {wake : τ} (quiet : timer.next? wake = none) (callbacks : Nat) :
    (sleepUntil cast performer wake (callbacks + 1)).exec account =
      (.ok (),{ account with hub := account.hub.withDevice (.loop (timer.wakeUp wake)) }) := by
  unfold sleepUntil
  rw [exec_bind,exec_look]
  dsimp only [hub_account]
  rw [kind]
  dsimp only
  rw [quiet]
  dsimp only [wakeUp]
  rw [exec_bind,exec_look]
  dsimp only [hub_account]
  rw [kind,exec_setDevice]

/-- A loop that comes to a refresh before it wakes up, and to nothing else. -/
theorem exec_sleepUntil_refresh (performer : Performer (Account τ) τ) {timer later : LoopTimer τ (Callback τ)}
    (kind : account.hub.timer.device = .loop timer) {wake : τ} (next : timer.next? wake = some (.refresh,later))
    {left : Account τ}
    (fired : (fireRefresh cast performer).exec { account with hub := account.hub.withDevice (.loop later) } =
      (.ok (),left))
    {last : LoopTimer τ (Callback τ)} (kept : left.hub.timer.device = .loop last) (quiet : last.next? wake = none)
    (callbacks : Nat) :
    (sleepUntil cast performer wake (callbacks + 2)).exec account =
      (.ok (),{ left with hub := left.hub.withDevice (.loop (last.wakeUp wake)) }) := by
  have called : (fireOnLoop cast performer .refresh).exec
      { account with hub := account.hub.withDevice (.loop later) } = (.ok (),left) := by
    unfold fireOnLoop fireCallback
    rw [exec_bind,exec_attempt,fired]
    rfl
  unfold sleepUntil
  rw [exec_bind,exec_look]
  dsimp only [hub_account]
  rw [kind]
  dsimp only
  rw [next]
  dsimp only
  rw [exec_bind,exec_setDevice]
  dsimp only
  rw [exec_bind,called]
  dsimp only
  split
  · unfold wakeUp
    rw [exec_bind,exec_look]
    dsimp only [hub_account]
    rw [kept,exec_setDevice]
  · exact exec_sleepUntil_quiet performer kept quiet callbacks

theorem exec_sleep (performer : Performer (Account τ) τ) {timer : LoopTimer τ (Callback τ)}
    (kind : account.hub.timer.device = .loop timer) {seconds wake : τ}
    (moved : Clock.later timer.loop.now seconds = .ok wake) :
    (sleep cast performer seconds).exec account = (sleepUntil cast performer wake maxCallbacks).exec account := by
  unfold sleep
  rw [exec_bind,exec_look]
  dsimp only [hub_account]
  rw [kind]
  dsimp only
  rw [exec_bind,exec_ofExcept,moved]

/-- The refresh that is pending fires in a sleep that reaches its time. -/
theorem Replaying.sleeps (replaying : Replaying Time delay echo events due? now account)
    (forward : Clock.Forward Time) (delayed : Time delay) {seconds : τ} (paused : Time seconds) :
    let due' := due?.filter fun due => !comes (Clock.after now seconds) due
    ∃ left, (step cast (.sleep seconds)).exec account = (.ok .nothing,left) ∧
      Replaying Time delay echo events due' (Clock.after now seconds) left ∧
      left.past.countP Moment.fires + due'.toList.length = account.past.countP Moment.fires + due?.toList.length := by
  intro due'
  obtain ⟨made,timer⟩ := replaying.timer
  have kind : account.hub.timer.device = .loop (awaiting now made due?) := by rw [timer]
  have time : (awaiting now made due?).loop.now = now := by cases due? <;> rfl
  have moved : Clock.later (awaiting now made due?).loop.now seconds = .ok (Clock.after now seconds) := by
    rw [time]
    exact forward.later_eq replaying.time paused
  have woken : Time (Clock.after now seconds) := forward.time replaying.time paused
  have fuel : maxCallbacks = 99998 + 2 := rfl
  unfold step act
  rw [exec_bind,exec_sleep (perform cast maxCalls) kind moved,fuel]
  -- A refresh arms nothing anew, so that the loop calls back once before it wakes up, or not at all.
  by_cases reached : ∃ due ∈ due?, comes (Clock.after now seconds) due = true
  · obtain ⟨due,awaited,reached⟩ := reached
    obtain rfl := awaited
    have gone : due' = none := by simpa [due'] using reached
    have arrived : Time (if Clock.reached (Clock.after now seconds) due then due else Clock.after now seconds) := by
      split
      · exact (replaying.soon due rfl).1
      · exact woken
    have called := next_awaiting_due now made reached
    generalize (if Clock.reached (Clock.after now seconds) due then due else Clock.after now seconds) = arrival
      at arrived called
    obtain ⟨left,fired,next,count⟩ := replaying.fires arrived (made + 1)
    obtain ⟨last,timer'⟩ := next.timer
    have kept : left.hub.timer.device = .loop (awaiting arrival last none) := by rw [timer']
    rw [exec_sleepUntil_refresh (perform cast maxCalls) kind called fired kept rfl 99998,wakeUp_awaiting,gone]
    refine ⟨_,rfl,next.moves woken (by simp) last,?_⟩
    simpa using count
  · have early : ∀ due ∈ due?, comes (Clock.after now seconds) due = false := fun due awaited =>
      Bool.eq_false_iff.mpr fun come => reached ⟨due,awaited,come⟩
    have still : due' = due? := by
      cases due? with
      | none => rfl
      | some due => simpa [due'] using early due rfl
    have soon : ∀ due ∈ due?, Clock.reached (Clock.after (Clock.after now seconds) delay) due = true := by
      intro due awaited
      obtain ⟨time',before⟩ := replaying.soon due awaited
      exact forward.trans (forward.time woken delayed) (forward.time replaying.time delayed) time'
        (forward.mono replaying.time woken delayed (forward.reaches replaying.time paused)) before
    rw [exec_sleepUntil_quiet (perform cast maxCalls) kind (next_awaiting_early now made early) 99999,wakeUp_awaiting,
      still]
    exact ⟨_,rfl,replaying.moves woken soon made,rfl⟩

/-- An event is published, and the pause after it ends. -/
theorem Replaying.publishes_pausing (replaying : Replaying Time delay echo events due? now account)
    (forward : Clock.Forward Time) (delayed : Time delay) {interval : τ} (paused : Time interval) {event : Event}
    (producer : event.kind ∈ Kind.producers) :
    ∃ left due' now', (publish interval event).exec account = (.ok (),left) ∧
      Replaying Time delay echo (events ++ [event]) due' now' left ∧
      (Clock.isPositive interval = false → left.past.countP Moment.fires = account.past.countP Moment.fires) := by
  obtain ⟨published,ran,taken,count⟩ := replaying.publishes forward delayed producer
  have first : (discard (step cast (.publish (.fresh (.ok (.event event))) 0)) : Run (Account τ) Unit).exec account =
      (.ok (),published) := by
    rw [exec_discard,ran]
    rfl
  unfold publish
  rw [exec_bind,first]
  dsimp only
  cases positive : Clock.isPositive interval with
  | false => exact ⟨published,_,_,rfl,taken,fun _ => count⟩
  | true =>
    obtain ⟨left,slept,rested,-⟩ := taken.sleeps forward delayed paused
    simp only [↓reduceIte]
    rw [exec_discard,slept]
    exact ⟨left,_,_,rfl,rested,nofun⟩

/-- Publishing events with pauses comes to an end, with all of them recorded. Without pauses no refresh fires. -/
theorem Replaying.plays (replaying : Replaying Time delay echo events due? now account)
    (forward : Clock.Forward Time) (delayed : Time delay) {interval : τ} (paused : Time interval) {rest : List Event}
    (produced : ∀ event ∈ rest, event.kind ∈ Kind.producers) :
    ∃ left due' now', (rest.forM (publish interval)).exec account = (.ok (),left) ∧
      Replaying Time delay echo (events ++ rest) due' now' left ∧
      (Clock.isPositive interval = false → left.past.countP Moment.fires = account.past.countP Moment.fires) := by
  induction rest generalizing events due? now account with
  | nil => exact ⟨account,due?,now,rfl,by simpa using replaying,fun _ => rfl⟩
  | cons event rest ih =>
    obtain ⟨middle,due',now',ran,taken,waits⟩ :=
      replaying.publishes_pausing forward delayed paused (produced event (by simp))
    obtain ⟨left,due'',now'',rested,last,stays⟩ := ih taken fun other member => produced other (by simp [member])
    refine ⟨left,due'',now'',?_,by simpa using last,fun none => (stays none).trans (waits none)⟩
    have unfolded : (event :: rest).forM (publish interval) =
        (do publish interval event; rest.forM (publish interval) : Run (Account τ) Unit) := rfl
    rw [unfolded,exec_bind,ran]
    exact rested

/-- The loop that waits for the last refresh ends: one sleep is enough. -/
theorem Replaying.drains (replaying : Replaying Time delay echo events due? now account)
    (forward : Clock.Forward Time) (delayed : Time delay) {sleeps : Nat} (enough : due?.toList.length < sleeps) :
    ∃ left now', (drain sleeps).exec account = (.ok (),left) ∧ Replaying Time delay echo events none now' left ∧
      left.past.countP Moment.fires = account.past.countP Moment.fires + due?.toList.length := by
  have done : ∀ {account : Account τ} {now sleeps}, Replaying Time delay echo events none now account →
      (drain (sleeps + 1)).exec account = (.ok (),account) := by
    intro account now sleeps replaying
    unfold drain
    rw [exec_bind,exec_look]
    dsimp only [hub_account]
    rw [replaying.scheduler]
    rfl
  cases sleeps with
  | zero => omega
  | succ sleeps =>
    cases due? with
    | none => exact ⟨account,now,done replaying,replaying,rfl⟩
    | some due =>
      obtain ⟨sleeps,rfl⟩ : ∃ more, sleeps = more + 1 := ⟨sleeps - 1,by simp at enough; omega⟩
      obtain ⟨left,slept,last,count⟩ := replaying.sleeps forward delayed delayed
      have come : comes (Clock.after now delay) due = true :=
        have ⟨time',before⟩ := replaying.soon due rfl
        forward.within_grain (forward.time replaying.time delayed) time' before
      have gone : (some due).filter (fun due => !comes (Clock.after now delay) due) = none := by simp [come]
      rw [gone] at last count
      refine ⟨left,Clock.after now delay,?_,last,by simpa using count⟩
      unfold drain
      rw [exec_bind,exec_look]
      dsimp only [hub_account]
      rw [replaying.scheduler]
      simp only [Option.isSome_some,↓reduceIte]
      rw [exec_bind,exec_discard,slept]
      exact done last

/-- Once nothing is pending, there is no line without events, and otherwise at least one, the last of which tells of
    all events; there are never more lines than events. -/
theorem Replaying.told (replaying : Replaying Time delay echo events none now account) :
    (events = [] → shown account.past = []) ∧
      (events ≠ [] → 1 ≤ (shown account.past).length ∧ (shown account.past).length ≤ events.length ∧
        (shown account.past).getLast? = some (.refresh (shown account.past).length
          (events.foldl ShotLog.apply {}).count (events.foldl ShotLog.apply {}).closedCount)) := by
  have few : (shown account.past).length ≤ events.length := by
    rw [length_shown]
    exact replaying.few
  constructor
  · rintro rfl
    exact List.eq_nil_of_length_eq_zero (Nat.le_zero.mp few)
  · intro some
    have settled := replaying.settled rfl some
    rw [← length_shown] at settled
    exact ⟨List.length_pos_of_mem (List.mem_of_getLast? settled),few,settled⟩

/-- Each line has its number, and tells of the events that were published before its refresh. -/
theorem Replaying.told_before (replaying : Replaying Time delay echo events due? now account) {k : Nat} {shownLine : Notice}
    (here : (shown account.past)[k]? = some shownLine) :
    ∃ refresh earlier m, refresh :: earlier <:+ account.past ∧ refresh.fires = true ∧
      earlier.countP Moment.fires = k ∧ Hub.history earlier = (events.take m).map .apply ∧
      let before := (events.take m).foldl ShotLog.apply {}
      shownLine = .refresh (k + 1) before.count before.closedCount := by
  obtain ⟨refresh,earlier,suffix,fires,number,same⟩ := shown_getElem here
  -- What was published before a refresh is a beginning of the events, so its length tells which one.
  have before : Hub.history earlier <+: events.map .apply :=
    replaying.history ▸ history_suffix ((List.suffix_cons refresh earlier).trans suffix)
  have taken : Hub.history earlier = (events.take (Hub.history earlier).length).map .apply := by
    rw [List.map_take]
    exact List.prefix_iff_eq_take.mp before
  refine ⟨refresh,earlier,(Hub.history earlier).length,suffix,fires,number,taken,?_⟩
  have shots : Hub.replay (Hub.history earlier) = (events.take (Hub.history earlier).length).foldl ShotLog.apply {} := by
    rw [← replay_apply,← taken]
  rw [same,line,shots,number]

theorem Replaying.shots (replaying : Replaying Time delay echo events due? now account) :
    account.hub.shots = events.foldl ShotLog.apply {} := by
  simp [Hub.shots,replaying.recorder]

end

/-! ### Replays with and without an account -/

theorem agrees_step (action : Action τ) : Agrees (step cast action : Run (Account τ) (Reply τ)) (step cast action) :=
  agrees_act (agrees_perform cast maxCalls) none action

theorem agrees_publish (interval : τ) (event : Event) :
    Agrees (publish interval event : Run (Account τ) Unit) (publish interval event) := by
  refine (agrees_step _).discard.bind fun _ => ?_
  split
  · exact (agrees_step _).discard
  · exact agrees_pure _

theorem agrees_drain (sleeps : Nat) : Agrees (drain sleeps : Run (Account τ) Unit) (drain sleeps) := by
  induction sleeps with
  | zero => exact agrees_throw _
  | succ sleeps ih =>
    refine agrees_look.bind fun hub => ?_
    dsimp only
    split
    · exact (agrees_step _).discard.bind fun _ => ih
    · exact agrees_pure _

theorem agrees_play (interval : τ) (events : List Event) :
    Agrees (play interval events : Run (Account τ) Unit) (play interval events) := by
  exact (agrees_forM (agrees_publish interval) events).bind fun _ => agrees_drain _

/-! ### Whole replays -/

/-- A replay comes to its end with nothing pending, in an account and without one. If there are no pauses, at most one
    refresh fires. -/
theorem run_ends (forward : Clock.Forward Time) {delay interval : τ} (delayed : Time delay) (paused : Time interval)
    (echo : Bool) {events : List Event} (produced : ∀ event ∈ events, event.kind ∈ Kind.producers) :
    ∃ now left, (play interval events).exec ({ hub := opened delay echo } : Account τ) = (.ok (),left) ∧
      run (opened delay echo) interval events = (.ok (),left.hub) ∧ Replaying Time delay echo events none now left ∧
      (Clock.isPositive interval = false → left.past.countP Moment.fires ≤ 1) := by
  obtain ⟨middle,due?,now,ran,taken,waits⟩ :=
    (Replaying.start forward delay echo).plays forward delayed paused produced
  have enough : due?.toList.length < events.length + 1 := by
    have few := taken.few
    simp only [List.nil_append] at few
    omega
  obtain ⟨last,time,drained,ended,count⟩ := taken.drains forward delayed enough
  rw [List.nil_append] at ended
  have whole : (play interval events).exec ({ hub := opened delay echo } : Account τ) = (.ok (),last) := by
    unfold play
    rw [exec_bind,ran]
    exact drained
  have alone : run (opened delay echo) interval events = (.ok (),last.hub) := by
    have same := agrees_play interval events ({ hub := opened delay echo } : Account τ)
    rw [whole] at same
    exact same
  refine ⟨time,last,whole,alone,ended,fun none => ?_⟩
  have unfired : middle.past.countP Moment.fires = 0 := waits none
  have single : due?.toList.length ≤ 1 := by cases due? <;> simp
  omega

end

/-- Whatever the delay of refreshes and the pause between events, a replay ends, with nothing pending and the events
    recorded in order. Without events no refresh is noticed; otherwise at least one and at most as many as there are
    events, and just one if there are no pauses. The k-th line has the number k and tells of the events that were
    published before it, the last one of all events, and with echo the messages are noticed in order. -/
theorem replay_ends {delay interval : Rat} (delayed : 0 ≤ delay) (paused : 0 ≤ interval) (echo : Bool)
    {events : List Event} (produced : ∀ event ∈ events, event.kind ∈ Kind.producers) :
    ∃ hub, start delay echo = .ok hub ∧
      let left := (run hub interval events).2
      let account := ((play interval events).exec ({ hub } : Account Rat)).2
      let lines := (notices left).filter Notice.isRefresh
      let final := events.foldl ShotLog.apply {}
      (run hub interval events).1 = .ok () ∧ account.hub = left ∧ left.scheduler.pending = false ∧
        left.shots = final ∧
        (events = [] → lines = []) ∧
        (events ≠ [] → 1 ≤ lines.length ∧ lines.length ≤ events.length ∧ (interval = 0 → lines.length = 1) ∧
          lines.getLast? = some (.refresh lines.length final.count final.closedCount)) ∧
        lines.length = account.past.countP Moment.fires ∧
        (∀ k shownLine, lines[k]? = some shownLine →
          ∃ refresh earlier m, refresh :: earlier <:+ account.past ∧ refresh.fires = true ∧
            earlier.countP Moment.fires = k ∧ history earlier = (events.take m).map .apply ∧
            let before := (events.take m).foldl ShotLog.apply {}
            shownLine = .refresh (k + 1) before.count before.closedCount) ∧
        (notices left).filterMap Notice.text? = if echo then events.filterMap Event.text? else [] := by
  have forward := Clock.forward_rational
  have unpaused : interval = 0 → Clock.isPositive interval = false := by
    rintro rfl
    rfl
  refine ⟨opened delay echo,start_eq forward delayed echo,?_⟩
  obtain ⟨now,last,whole,alone,ended,single⟩ := run_ends forward delayed paused echo produced
  rw [alone,whole]
  dsimp only
  rw [ended.lines,ended.echoed]
  obtain ⟨silent,lines⟩ := ended.told
  refine ⟨rfl,rfl,by rw [ended.scheduler]; rfl,ended.shots,silent,fun some => ?_,length_shown _,?_,rfl⟩
  · obtain ⟨any,few,settled⟩ := lines some
    refine ⟨any,few,fun none => ?_,settled⟩
    have one := single (unpaused none)
    rw [length_shown] at any ⊢
    omega
  · exact fun k shownLine here => ended.told_before here

/-- Refreshes come due while the loop sleeps, and at the very moment when it wakes up. -/
theorem replay_ends_at_ties :
    let events : List Event := [.message "one",.result true "two",.message "three",.snapshot [] none]
    ∃ hub, start (2 : Rat) true = .ok hub ∧ (run hub 1 events).1 = .ok () ∧
      (run hub 1 events).2.shots = events.foldl ShotLog.apply {} ∧
      notices (run hub 1 events).2 =
        [.message "one",.refresh 1 1 1,.message "three",.refresh 2 2 1] := by
  intro events
  have produced : ∀ event ∈ events, event.kind ∈ Kind.producers := by
    simp [events,Event.kind,Kind.producers]
  have delayed : (0 : Rat) ≤ 2 := by decide +kernel
  have paused : (0 : Rat) ≤ 1 := by decide +kernel
  obtain ⟨hub,started,ended,-,-,shots,-⟩ := replay_ends delayed paused true produced
  obtain rfl : hub = opened 2 true := Except.ok.inj (started.symm.trans (start_eq Clock.forward_rational delayed true))
  exact ⟨_,started,ended,shots,by decide +kernel⟩

end Replay

end ShotRecorder
