import Mathlib.Algebra.Order.BigOperators.Group.List
import Mathlib.Algebra.Order.Ring.Rat
import Mathlib.Tactic.Linarith
import ShotRecorder.Hub.Perform
import ShotRecorder.Proofs.Armed

/-!
A timer that is moved by hand and a timer on a loop can take each other's place. The one keeps a deadline, the other an
appointment in a queue that also holds appointments which were cancelled, yet they stay in step (`InStep`): whatever is
done with both, they wait equally long for the same callback (`Tandem.handled`). So whoever handles a timer cannot tell
which of the two it is (`timers_interchangeable`), as long as what it calls back for leaves the timer alone.
-/
namespace ShotRecorder

section
variable {κ : Type}

/-- A timer moved by hand and a timer on a loop that wait equally long for the same callback, or for none. -/
structure InStep (byHand : ManualTimer Rat κ) (onLoop : LoopTimer Rat κ) : Prop where
  coherent : onLoop.Coherent
  found : onLoop.bound = true ∨ onLoop.loop.running = true
  idle : byHand.armed = none → onLoop.appointment = none
  waiting : ∀ due callback, byHand.armed = some (due,callback) →
    ∃ a ∈ onLoop.loop.queue, a.cancelled = false ∧ a.callback = callback ∧ a.due - onLoop.loop.now = due - byHand.now

namespace InStep

variable {byHand : ManualTimer Rat κ} {onLoop : LoopTimer Rat κ}

/-- Timers that are armed with nothing are in step, whatever time they have. -/
theorem of_idle (coherent : onLoop.Coherent) (found : onLoop.bound = true ∨ onLoop.loop.running = true)
    (free : onLoop.appointment = none) (idle : byHand.armed = none) : InStep byHand onLoop where
  coherent := coherent
  found := found
  idle _ := free
  waiting due callback armed := by simp [idle] at armed

theorem appointed (step : InStep byHand onLoop) {pair : Rat × κ} (armed : byHand.armed = some pair) :
    onLoop.appointment.isSome = true := by
  obtain ⟨a,queued,live,-⟩ := step.waiting pair.1 pair.2 armed
  rw [step.coherent.own a queued live]
  rfl

theorem isArmed (step : InStep byHand onLoop) :
    (TimerDevice.manual byHand).isArmed = (TimerDevice.loop onLoop).isArmed := by
  cases armed : byHand.armed with
  | none => simp [TimerDevice.isArmed,armed,step.idle armed]
  | some pair => simp [TimerDevice.isArmed,armed,step.appointed armed]

theorem disarmed (step : InStep byHand onLoop) : InStep byHand.disarm onLoop.disarm := by
  have coherent : (TimerDevice.loop onLoop).disarm.Coherent :=
    TimerDevice.Coherent.disarm step.coherent
  have free : (TimerDevice.loop onLoop).disarm.isArmed = false := TimerDevice.isArmed_disarm _
  refine of_idle coherent ?_ (by simpa [TimerDevice.disarm,TimerDevice.isArmed] using free) rfl
  unfold LoopTimer.disarm
  split
  · exact step.found
  · exact step.found

/-- Both accept a request if they are armed with nothing, and are in step then; otherwise both refuse it. -/
theorem scheduled (step : InStep byHand onLoop) (delay : Rat) (callback : κ) :
    (∃ pair, byHand.armed = some pair ∧ (TimerDevice.manual byHand).schedule delay callback = .ok none ∧
      (TimerDevice.loop onLoop).schedule delay callback = .ok none) ∨
    ∃ onLoop', byHand.armed = none ∧
      (TimerDevice.manual byHand).schedule delay callback =
        .ok (some (.manual { byHand with
          armings := byHand.armings + 1, armed := some (byHand.now + Clock.notNegative delay,callback) })) ∧
      (TimerDevice.loop onLoop).schedule delay callback = .ok (some (.loop onLoop')) ∧
      InStep
        { byHand with armings := byHand.armings + 1, armed := some (byHand.now + Clock.notNegative delay,callback) }
        onLoop' := by
  cases armed : byHand.armed with
  | some pair =>
    have appointed := step.appointed armed
    refine .inl ⟨pair,rfl,?_,?_⟩
    · simp [TimerDevice.schedule,ManualTimer.schedule,armed,bind,Except.bind,pure,Except.pure]
    · simp [TimerDevice.schedule,LoopTimer.schedule,appointed,bind,Except.bind,pure,Except.pure]
  | none =>
    have free := step.idle armed
    have present : (!onLoop.bound && !onLoop.loop.running) = false := by
      rcases step.found with bound | running
      · simp [bound]
      · simp [running]
    let due := onLoop.loop.now + Clock.notNegative delay
    let onLoop' : LoopTimer Rat κ :=
      { onLoop with
        loop := { onLoop.loop with
          queue := onLoop.loop.queue ++ [{ id := onLoop.loop.made, due, callback }], made := onLoop.loop.made + 1 }
        appointment := some onLoop.loop.made }
    have accepted : (TimerDevice.loop onLoop).schedule delay callback = .ok (some (.loop onLoop')) := by
      simp [TimerDevice.schedule,LoopTimer.schedule,free,present,EventLoop.callLater,Clock.later,Clock.later?,bind,
        Except.bind,pure,Except.pure,onLoop',due]
    have began : (TimerDevice.loop onLoop).Coherent := step.coherent
    obtain ⟨-,-,coherent⟩ := TimerDevice.schedule_arms began accepted
    refine .inr ⟨onLoop',rfl,?_,accepted,coherent,step.found,by simp,?_⟩
    · simp [TimerDevice.schedule,ManualTimer.schedule,armed,Clock.later,Clock.later?,bind,Except.bind,pure,Except.pure]
    · rintro due' callback' same
      obtain ⟨rfl,rfl⟩ := Prod.mk.inj (Option.some.inj same)
      refine ⟨_,List.mem_append_right _ (List.mem_singleton.mpr rfl),rfl,rfl,?_⟩
      simp only [onLoop',due,add_sub_cancel_left]

/-- An appointment that is still to come is the one that the timer moved by hand is armed for. -/
theorem live (step : InStep byHand onLoop) {a : Appointment Rat κ} (queued : a ∈ onLoop.loop.queue)
    (live : a.cancelled = false) :
    ∃ due, byHand.armed = some (due,a.callback) ∧ a.due - onLoop.loop.now = due - byHand.now := by
  have own := step.coherent.own a queued live
  cases armed : byHand.armed with
  | none => simp [step.idle armed] at own
  | some pair =>
    obtain ⟨b,among,stays,called,equally⟩ := step.waiting pair.1 pair.2 armed
    have number : b.id = a.id := by
      have own' := step.coherent.own b among stays
      rw [own] at own'
      exact (Option.some.inj own').symm
    obtain rfl : b = a := List.inj_on_of_nodup_map step.coherent.distinct among queued number
    exact ⟨pair.1,by rw [called],equally⟩

theorem isDue_iff (wake : Rat) (a : Appointment Rat κ) :
    EventLoop.isDue wake a = true ↔ a.cancelled = false ∧ a.due ≤ wake := by
  simp [EventLoop.isDue,Clock.reached,Clock.later?,Clock.grain]

theorem early (step : InStep byHand onLoop) {seconds : Rat}
    (before : ∀ pair ∈ byHand.armed, byHand.now + seconds < pair.1) :
    onLoop.next? (onLoop.loop.now + seconds) = none := by
  cases next : onLoop.loop.next? (onLoop.loop.now + seconds) with
  | none => simp [LoopTimer.next?,next]
  | some a =>
    obtain ⟨queued,isDue⟩ := TimerDevice.next_due next
    obtain ⟨live,reached⟩ := (isDue_iff _ a).mp isDue
    obtain ⟨due,armed,equally⟩ := step.live queued live
    have later : byHand.now + seconds < due := before (due,a.callback) armed
    linarith

theorem next_of_free (coherent : onLoop.Coherent) (found : onLoop.bound = true ∨ onLoop.loop.running = true)
    (free : onLoop.appointment = none) (wake : Rat) : onLoop.next? wake = none := by
  have step : InStep (.new : ManualTimer Rat κ) onLoop := of_idle coherent found free rfl
  have nothing : onLoop.next? (onLoop.loop.now + (wake - onLoop.loop.now)) = none :=
    step.early (by simp [ManualTimer.new])
  rwa [add_sub_cancel] at nothing

theorem due (step : InStep byHand onLoop) {seconds deadline : Rat} {callback : κ}
    (armed : byHand.armed = some (deadline,callback)) (reached : deadline ≤ byHand.now + seconds) :
    ∃ later, onLoop.next? (onLoop.loop.now + seconds) = some (callback,later) ∧ later.Coherent ∧
      later.appointment = none ∧ (later.bound = true ∨ later.loop.running = true) := by
  obtain ⟨a,queued,live,-,equally⟩ := step.waiting deadline callback armed
  have isDue : EventLoop.isDue (onLoop.loop.now + seconds) a = true := (isDue_iff _ a).mpr ⟨live,by linarith⟩
  have found : (onLoop.loop.next? (onLoop.loop.now + seconds)).isSome = true := by
    unfold EventLoop.next?
    split
    · rename_i nothing
      have member := List.mem_filter.mpr ⟨queued,isDue⟩
      simp [nothing] at member
    · rfl
  obtain ⟨b,next⟩ := Option.isSome_iff_exists.mp found
  obtain ⟨among,stays⟩ := TimerDevice.next_live next
  obtain ⟨deadline',armed',-⟩ := step.live among stays
  obtain rfl : callback = b.callback := (Prod.mk.inj (Option.some.inj (armed.symm.trans armed'))).2
  let later : LoopTimer Rat κ :=
    { onLoop with loop := onLoop.loop.arrive (onLoop.loop.now + seconds) b, appointment := none }
  have called : onLoop.next? (onLoop.loop.now + seconds) = some (b.callback,later) := by
    simp [LoopTimer.next?,next,later]
  have counted : Clock.Counted (onLoop.loop.now + seconds) := ⟨onLoop.loop.now,seconds,rfl⟩
  have coherent := (TimerDevice.Calls.loop counted called).coherent step.coherent
  exact ⟨later,called,coherent,rfl,step.found⟩

end InStep

end

namespace Hub
open Run

/-- A hub with a timer of its own, which has no trouble. -/
def timedBy (hub : Hub Rat) (device : TimerDevice Rat (Callback Rat)) : Hub Rat := { hub with timer := { device } }

/-- Actions that do the same whatever timer the hub has, and leave it as it is. -/
def Aloof (cast : Cast Rat) (depth : Nat) (actions : List (Action Rat)) : Prop :=
  ∀ (hub : Hub Rat) timer, (perform cast depth none actions).exec { hub with timer } =
    (((perform cast depth none actions).exec hub).1,{ ((perform cast depth none actions).exec hub).2 with timer })

/-- What is done with a timer: it is asked to call back, it is disarmed, or time passes. -/
inductive Handling where
  | request (delay : Rat) (label : String) (actions : List (Action Rat))
  | cancel
  | wait (seconds : Rat)

namespace Handling

/-- The action by which it is done: a timer moved by hand is moved, and a loop sleeps. -/
def action (device : TimerDevice Rat (Callback Rat)) : Handling → Action Rat
  | request delay label actions => .arm delay label actions
  | cancel => .disarm
  | wait seconds =>
    match device with
    | .manual _ => .advance seconds
    | .loop _ => .sleep seconds

/-- Callbacks leave the timer alone, and time does not go back. -/
def Permitted (cast : Cast Rat) (depth : Nat) : Handling → Prop
  | request _ _ actions => Aloof cast depth actions
  | cancel => True
  | wait seconds => 0 ≤ seconds

/-- What is answered, unless time only passes. -/
def answer? (outcome : Except Fault (Reply Rat)) : Handling → Option (Except Fault (Reply Rat))
  | wait _ => none
  | _ => some outcome

end Handling

/-- What shows of a hub after its timer was handled: what was answered, whether the timer is armed, and all but the
    timer itself. -/
structure Report where
  answer : Option (Except Fault (Reply Rat))
  armed : Bool
  others : Hub Rat

section

variable (cast : Cast Rat) (depth : Nat)

def handle (handling : Handling) (hub : Hub Rat) : Except Fault (Reply Rat) × Hub Rat :=
  (act cast (perform cast depth) none (handling.action hub.timer.device)).exec hub

/-- The hub after its timer was handled in some ways, one after the other. -/
def handled (handlings : List Handling) (hub : Hub Rat) : Hub Rat :=
  handlings.foldl (fun hub handling => (handle cast depth handling hub).2) hub

def report (handling : Handling) (hub : Hub Rat) : Report where
  answer := handling.answer? (handle cast depth handling hub).1
  armed := (handle cast depth handling hub).2.timer.isArmed
  others := (handle cast depth handling hub).2.timedBy (.manual .new)

/-- What shows after each of the ways in which a timer is handled. -/
def reports : List Handling → Hub Rat → List Report
  | [],_ => []
  | handling :: rest,hub => report cast depth handling hub :: reports rest (handle cast depth handling hub).2

/-- What shows of a hub now, and what will show of it. -/
def outlook (rest : List Handling) (hub : Hub Rat) : Bool × Hub Rat × List Report :=
  (hub.timer.isArmed,hub.timedBy (.manual .new),reports cast depth rest hub)

end

/-! ### One step -/

variable {cast : Cast Rat} {depth : Nat}

theorem Aloof.timer {actions : List (Action Rat)} (leaves : Aloof cast depth actions) (hub : Hub Rat) :
    ((perform cast depth none actions).exec hub).2.timer = hub.timer :=
  congrArg (fun ended : Except Fault Unit × Hub Rat => ended.2.timer) (leaves hub hub.timer)

/-- What such actions make of a hub is the same with any device. -/
theorem Aloof.fireCallback {actions : List (Action Rat)} (leaves : Aloof cast depth actions)
    (label : String) (hub : Hub Rat) : ∃ outcome left, ∀ device,
      (fireCallback cast (perform cast depth) (.custom label actions)).exec (hub.timedBy device) =
        (outcome,timedBy left device) := by
  let called := hub.saw (.timer label hub.view)
  refine ⟨((perform cast depth none actions).exec called).1,((perform cast depth none actions).exec called).2,?_⟩
  exact fun device => leaves called { device }

theorem exec_arm (performer : Performer (Hub Rat) Rat) (hub : Hub Rat) {device : TimerDevice Rat (Callback Rat)}
    {delay : Rat} {label : String} {actions : List (Action Rat)} {later? : Option (TimerDevice Rat (Callback Rat))}
    (scheduled : device.schedule delay (.custom label actions) = .ok later?) :
    (act cast performer none (.arm delay label actions)).exec (hub.timedBy device) =
      (.ok (.truth later?.isSome),hub.timedBy (later?.getD device)) := by
  have asked : (hub.timedBy device).timer.schedule delay (.custom label actions) =
      (.ok later?.isSome,{ device := later?.getD device }) := by
    simp only [Timer.schedule,timedBy,List.headD_nil,List.tail_nil,scheduled]
    cases later? <;> rfl
  unfold act
  rw [exec_bind,exec_look]
  simp only [Host.hub,id,asked]
  rfl

theorem exec_disarm (performer : Performer (Hub Rat) Rat) (hub : Hub Rat) (device : TimerDevice Rat (Callback Rat)) :
    (act cast performer none .disarm).exec (hub.timedBy device) =
      (.ok (.truth device.isArmed),hub.timedBy device.disarm) := rfl

theorem exec_move (performer : Performer (Hub Rat) Rat) (hub : Hub Rat) {timer later : ManualTimer Rat (Callback Rat)}
    {seconds : Rat} (advanced : timer.advance seconds = .ok (none,later)) :
    ((act cast performer none (.advance seconds)).exec (hub.timedBy (.manual timer))).2 =
      hub.timedBy (.manual later) := by
  unfold act
  rw [exec_map]
  unfold advance
  rw [exec_bind,exec_look]
  dsimp only [Host.hub,id,timedBy]
  rw [exec_bind,exec_ofExcept,advanced]
  rfl

theorem exec_move_calling (performer : Performer (Hub Rat) Rat) (hub : Hub Rat)
    {timer later : ManualTimer Rat (Callback Rat)} {seconds : Rat} {callback : Callback Rat}
    (advanced : timer.advance seconds = .ok (some callback,later)) :
    ((act cast performer none (.advance seconds)).exec (hub.timedBy (.manual timer))).2 =
      ((fireCallback cast performer callback).exec (hub.timedBy (.manual later))).2 := by
  unfold act
  rw [exec_map]
  unfold advance
  rw [exec_bind,exec_look]
  dsimp only [Host.hub,id,timedBy]
  rw [exec_bind,exec_ofExcept,advanced]
  dsimp only [setDevice]
  rw [exec_bind,exec_change]
  dsimp only [Host.put,Host.hub,id]
  rw [exec_bind]
  rcases (fireCallback cast performer callback).exec _ with ⟨outcome,left⟩
  cases outcome <;> rfl

theorem exec_wakeUp (hub : Hub Rat) (timer : LoopTimer Rat (Callback Rat)) (wake : Rat) :
    (wakeUp wake).exec (hub.timedBy (.loop timer)) = (.ok (),hub.timedBy (.loop (timer.wakeUp wake))) := rfl

theorem exec_sleepUntil_early (performer : Performer (Hub Rat) Rat) (hub : Hub Rat)
    {timer : LoopTimer Rat (Callback Rat)} {wake : Rat} (next : timer.next? wake = none) (callbacks : Nat) :
    (sleepUntil cast performer wake (callbacks + 1)).exec (hub.timedBy (.loop timer)) =
      (.ok (),hub.timedBy (.loop (timer.wakeUp wake))) := by
  unfold sleepUntil
  rw [exec_bind,exec_look]
  dsimp only [Host.hub,id,timedBy]
  rw [next]
  exact exec_wakeUp hub timer wake

/-- A loop on which a callback is due that leaves the timer alone calls it, and sleeps on unless it is interrupted. -/
theorem exec_sleepUntil_due (performer : Performer (Hub Rat) Rat) {hub left : Hub Rat}
    {timer later : LoopTimer Rat (Callback Rat)} {wake : Rat} {callback : Callback Rat} {outcome : Except Fault Unit}
    (next : timer.next? wake = some (callback,later)) (free : later.next? wake = none)
    (fired : (fireCallback cast performer callback).exec (hub.timedBy (.loop later)) =
      (outcome,left.timedBy (.loop later))) (callbacks : Nat) :
    ∃ now, ((sleepUntil cast performer wake (callbacks + 2)).exec (hub.timedBy (.loop timer))).2 =
      left.timedBy (.loop (later.wakeUp now)) := by
  have sleepsOn : (if later.loop.isAwake wake then wakeUp wake else sleepUntil cast performer wake (callbacks + 1)).exec
      (left.timedBy (.loop later)) = (.ok (),left.timedBy (.loop (later.wakeUp wake))) := by
    split
    · exact exec_wakeUp left later wake
    · exact exec_sleepUntil_early performer left free callbacks
  have ran : (sleepUntil cast performer wake (callbacks + 2)).exec (hub.timedBy (.loop timer)) =
      (fireOnLoop cast performer callback >>= fun _ =>
        if later.loop.isAwake wake then wakeUp wake else sleepUntil cast performer wake (callbacks + 1)).exec
          (hub.timedBy (.loop later)) := by
    rw [sleepUntil]
    rw [exec_bind,exec_look]
    dsimp only [Host.hub,id,timedBy]
    rw [next]
    rfl
  rw [ran,exec_bind]
  unfold fireOnLoop
  rw [exec_bind,exec_attempt,fired]
  cases outcome with
  | ok =>
    dsimp only
    rw [exec_pure]
    exact ⟨wake,congrArg Prod.snd sleepsOn⟩
  | error fault =>
    by_cases ordinary : fault.isOrdinary = true
    · simp only [ordinary,↓reduceIte,exec_pure]
      exact ⟨wake,congrArg Prod.snd sleepsOn⟩
    · simp only [ordinary]
      exact ⟨later.loop.now,rfl⟩

theorem exec_sleep (performer : Performer (Hub Rat) Rat) (hub : Hub Rat) (timer : LoopTimer Rat (Callback Rat))
    (seconds : Rat) :
    ((act cast performer none (.sleep seconds)).exec (hub.timedBy (.loop timer))).2 =
      ((sleepUntil cast performer (timer.loop.now + seconds) maxCallbacks).exec (hub.timedBy (.loop timer))).2 := by
  unfold act
  rw [exec_bind]
  have slept : (sleep cast performer seconds).exec (hub.timedBy (.loop timer)) =
      (sleepUntil cast performer (timer.loop.now + seconds) maxCallbacks).exec (hub.timedBy (.loop timer)) := rfl
  rw [slept]
  rcases (sleepUntil cast performer _ maxCallbacks).exec _ with ⟨outcome,left⟩
  cases outcome <;> rfl

/-! ### Side by side -/

/-- Two hubs that differ in their timers only, which are in step. -/
inductive Tandem (cast : Cast Rat) (depth : Nat) : Hub Rat → Hub Rat → Prop
  | intro (hub : Hub Rat) {byHand : ManualTimer Rat (Callback Rat)} {onLoop : LoopTimer Rat (Callback Rat)}
    (step : InStep byHand onLoop)
    (leaves : ∀ due callback, byHand.armed = some (due,callback) →
      ∃ label actions, callback = .custom label actions ∧ Aloof cast depth actions) :
    Tandem cast depth (hub.timedBy (.manual byHand)) (hub.timedBy (.loop onLoop))

theorem advance_early {timer : ManualTimer Rat (Callback Rat)} {seconds : Rat}
    (before : ∀ pair ∈ timer.armed, timer.now + seconds < pair.1) :
    timer.advance seconds = .ok (none,{ timer with now := timer.now + seconds }) := by
  unfold ManualTimer.advance
  cases armed : timer.armed with
  | none => simp [Clock.later,Clock.later?,bind,Except.bind,pure,Except.pure]
  | some pair =>
    have later : ¬ pair.1 ≤ timer.now + seconds := not_le.mpr (before pair armed)
    simp [Clock.later,Clock.later?,Clock.reached,bind,Except.bind,pure,Except.pure,later]

theorem advance_due {timer : ManualTimer Rat (Callback Rat)} {seconds deadline : Rat} {callback : Callback Rat}
    (armed : timer.armed = some (deadline,callback)) (reached : deadline ≤ timer.now + seconds) :
    timer.advance seconds = .ok (some callback,{ timer with now := timer.now + seconds, armed := none }) := by
  unfold ManualTimer.advance
  simp [armed,Clock.later,Clock.later?,Clock.reached,bind,Except.bind,pure,Except.pure,reached,ManualTimer.disarm]

/-- While time passes, both call back for the same or for nothing. -/
theorem Tandem.waits {hub hub' : Hub Rat} (tandem : Tandem cast depth hub hub') (seconds : Rat) :
    Tandem cast depth (handle cast depth (.wait seconds) hub).2 (handle cast depth (.wait seconds) hub').2 := by
  obtain ⟨hub,step,leaves⟩ := tandem
  rename_i byHand onLoop
  have slept : (handle cast depth (.wait seconds) (hub.timedBy (.loop onLoop))).2 =
      ((sleepUntil cast (perform cast depth) (onLoop.loop.now + seconds) maxCallbacks).exec
        (hub.timedBy (.loop onLoop))).2 := exec_sleep _ hub onLoop seconds
  rw [slept]
  -- Either nothing is due by then on both, or the one callback that both are armed with is.
  by_cases before : ∀ pair ∈ byHand.armed, byHand.now + seconds < pair.1
  · have moved : (handle cast depth (.wait seconds) (hub.timedBy (.manual byHand))).2 =
        hub.timedBy (.manual { byHand with now := byHand.now + seconds }) := exec_move _ hub (advance_early before)
    have quiet : (sleepUntil cast (perform cast depth) (onLoop.loop.now + seconds) maxCallbacks).exec
        (hub.timedBy (.loop onLoop)) = _ :=
      exec_sleepUntil_early (perform cast depth) hub (step.early before) (maxCallbacks - 1)
    have later : InStep { byHand with now := byHand.now + seconds } (onLoop.wakeUp (onLoop.loop.now + seconds)) := by
      refine ⟨?_,step.found,step.idle,fun due callback armed => ?_⟩
      · exact ⟨step.coherent.distinct,step.coherent.made,step.coherent.own,step.coherent.kept⟩
      obtain ⟨a,queued,live,called,equally⟩ := step.waiting due callback armed
      refine ⟨a,queued,live,called,?_⟩
      simp only [LoopTimer.wakeUp]
      linarith
    have both : Tandem cast depth (hub.timedBy (.manual { byHand with now := byHand.now + seconds }))
        (hub.timedBy (.loop (onLoop.wakeUp (onLoop.loop.now + seconds)))) := .intro hub later leaves
    rw [moved]
    exact congrArg Prod.snd quiet ▸ both
  · push Not at before
    obtain ⟨⟨due,callback⟩,armed,reached⟩ := before
    obtain ⟨later,next,coherent,free,found⟩ := step.due armed reached
    obtain ⟨label,actions,rfl,alone⟩ := leaves due callback armed
    obtain ⟨outcome,left,fired⟩ := alone.fireCallback label hub
    have idle := InStep.next_of_free coherent found free (onLoop.loop.now + seconds)
    obtain ⟨now,slept⟩ := exec_sleepUntil_due (perform cast depth) next idle (fired (.loop later)) (maxCallbacks - 2)
    have moved : (handle cast depth (.wait seconds) (hub.timedBy (.manual byHand))).2 =
        left.timedBy (.manual { byHand with now := byHand.now + seconds, armed := none }) := by
      refine (exec_move_calling (perform cast depth) hub (advance_due armed reached)).trans ?_
      rw [fired]
    rw [moved]
    have awake : Tandem cast depth
        (left.timedBy (.manual { byHand with now := byHand.now + seconds, armed := none }))
        (left.timedBy (.loop (later.wakeUp now))) := by
      refine .intro left (InStep.of_idle ?_ found free rfl) nofun
      exact ⟨coherent.distinct,coherent.made,coherent.own,coherent.kept⟩
    exact slept ▸ awake

/-- Whatever is done with both timers, they stay in step, and nothing shows which of them it is. -/
theorem Tandem.handled {hub hub' : Hub Rat} (tandem : Tandem cast depth hub hub') {handling : Handling}
    (permitted : handling.Permitted cast depth) :
    Tandem cast depth (handle cast depth handling hub).2 (handle cast depth handling hub').2 ∧
      handling.answer? (handle cast depth handling hub).1 = handling.answer? (handle cast depth handling hub').1 ∧
      ∀ outcome ∈ handling.answer? (handle cast depth handling hub).1, ∃ truth, outcome = .ok (.truth truth) := by
  cases handling with
  | wait seconds => exact ⟨tandem.waits seconds,rfl,nofun⟩
  | cancel =>
    obtain ⟨hub,step,leaves⟩ := tandem
    rename_i byHand onLoop
    simp only [handle,Handling.action,exec_disarm,Handling.answer?,step.isArmed]
    refine ⟨.intro hub step.disarmed nofun,trivial,?_⟩
    rintro outcome ⟨⟩
    exact ⟨_,rfl⟩
  | request delay label actions =>
    obtain ⟨hub,step,leaves⟩ := tandem
    rename_i byHand onLoop
    simp only [handle,Handling.action]
    rcases step.scheduled delay (.custom label actions) with
      ⟨pair,armed,refused,refused'⟩ | ⟨onLoop',idle,accepted,accepted',step'⟩
    · rw [exec_arm _ hub refused,exec_arm _ hub refused']
      refine ⟨.intro hub step leaves,rfl,?_⟩
      rintro outcome ⟨⟩
      exact ⟨_,rfl⟩
    · rw [exec_arm _ hub accepted,exec_arm _ hub accepted']
      refine ⟨.intro hub step' ?_,rfl,?_⟩
      · rintro due callback same
        obtain ⟨-,rfl⟩ := Prod.mk.inj (Option.some.inj same)
        exact ⟨label,actions,rfl,permitted⟩
      · rintro outcome ⟨⟩
        exact ⟨_,rfl⟩

theorem Tandem.report {hub hub' : Hub Rat} (tandem : Tandem cast depth hub hub') {handling : Handling}
    (permitted : handling.Permitted cast depth) : report cast depth handling hub = report cast depth handling hub' := by
  obtain ⟨both,answers,-⟩ := tandem.handled permitted
  unfold Hub.report
  rw [answers]
  generalize (handle cast depth handling hub).2 = left at both ⊢
  generalize (handle cast depth handling hub').2 = left' at both ⊢
  obtain ⟨rest,step,-⟩ := both
  exact congrArg (fun armed => Report.mk _ armed (rest.timedBy (.manual .new))) step.isArmed

/-! ### Whole runs -/

theorem Tandem.handledAll {hub hub' : Hub Rat} (tandem : Tandem cast depth hub hub') {handlings : List Handling}
    (permitted : ∀ handling ∈ handlings, handling.Permitted cast depth) :
    Tandem cast depth (Hub.handled cast depth handlings hub) (Hub.handled cast depth handlings hub') := by
  induction handlings generalizing hub hub' with
  | nil => exact tandem
  | cons handling rest ih =>
    exact ih (tandem.handled (permitted handling (by simp))).1 fun other member => permitted other (by simp [member])

theorem Tandem.reports {hub hub' : Hub Rat} (tandem : Tandem cast depth hub hub') {handlings : List Handling}
    (permitted : ∀ handling ∈ handlings, handling.Permitted cast depth) :
    reports cast depth handlings hub = reports cast depth handlings hub' := by
  induction handlings generalizing hub hub' with
  | nil => rfl
  | cons handling rest ih =>
    have allowed := permitted handling (by simp)
    have later := ih (tandem.handled allowed).1 fun other member => permitted other (by simp [member])
    unfold Hub.reports
    rw [tandem.report allowed,later]

theorem Tandem.answers {hub hub' : Hub Rat} (tandem : Tandem cast depth hub hub') {handlings : List Handling}
    (permitted : ∀ handling ∈ handlings, handling.Permitted cast depth) :
    ∀ report ∈ Hub.reports cast depth handlings hub, ∀ outcome ∈ report.answer,
      ∃ truth, outcome = .ok (.truth truth) := by
  induction handlings generalizing hub hub' with
  | nil => simp [Hub.reports]
  | cons handling rest ih =>
    obtain ⟨both,-,answers⟩ := tandem.handled (permitted handling (by simp))
    intro report member
    rcases List.mem_cons.mp member with rfl | later
    · exact answers
    · exact ih both (fun other among => permitted other (by simp [among])) report later

theorem handled_append (before after : List Handling) (hub : Hub Rat) :
    handled cast depth (before ++ after) hub = handled cast depth after (handled cast depth before hub) :=
  List.foldl_append

/-- While the deadline of a timer moved by hand is not reached, waiting changes its time and nothing else. -/
theorem handled_waits (hub : Hub Rat) {timer : ManualTimer Rat (Callback Rat)} {waits : List Rat}
    (forward : ∀ seconds ∈ waits, 0 ≤ seconds) (before : ∀ pair ∈ timer.armed, timer.now + waits.sum < pair.1) :
    handled cast depth (waits.map .wait) (hub.timedBy (.manual timer)) =
      hub.timedBy (.manual { timer with now := timer.now + waits.sum }) := by
  induction waits generalizing timer with
  | nil => simp [handled]
  | cons seconds rest ih =>
    have onward : 0 ≤ rest.sum := List.sum_nonneg fun other member => forward other (by simp [member])
    have early : ∀ pair ∈ timer.armed, timer.now + seconds < pair.1 := by
      intro pair armed
      have bound := before pair armed
      rw [List.sum_cons] at bound
      linarith
    have moved : (handle cast depth (.wait seconds) (hub.timedBy (.manual timer))).2 =
        hub.timedBy (.manual { timer with now := timer.now + seconds }) := exec_move _ hub (advance_early early)
    have rested := @ih { timer with now := timer.now + seconds }
      (fun other member => forward other (by simp [member])) fun pair armed => by
        have bound := before pair armed
        rw [List.sum_cons,← add_assoc] at bound
        exact bound
    rw [List.sum_cons,← add_assoc]
    simp only [handled,List.map_cons,List.foldl_cons,moved]
    exact rested

/-- A request that is cancelled before its time leaves a timer moved by hand as if it had never been made, but for how
    often the timer was armed. -/
theorem handled_cancelled (hub : Hub Rat) {timer : ManualTimer Rat (Callback Rat)} (idle : timer.armed = none)
    {delay : Rat} (label : String) (actions : List (Action Rat)) {waits : List Rat}
    (forward : ∀ seconds ∈ waits, 0 ≤ seconds) (early : waits.sum < delay) :
    handled cast depth (.request delay label actions :: waits.map .wait ++ [.cancel]) (hub.timedBy (.manual timer)) =
      hub.timedBy (.manual { timer with now := timer.now + waits.sum, armings := timer.armings + 1 }) := by
  have positive : 0 < delay := lt_of_le_of_lt (List.sum_nonneg forward) early
  have delayed : Clock.notNegative delay = delay := Clock.notNegative_eq positive.le
  have accepted : (TimerDevice.manual timer).schedule delay (.custom label actions) =
      .ok (some (.manual { timer with
        armings := timer.armings + 1, armed := some (timer.now + delay,.custom label actions) })) := by
    simp [TimerDevice.schedule,ManualTimer.schedule,idle,Clock.later,Clock.later?,bind,Except.bind,pure,Except.pure,
      delayed]
  have requested : (handle cast depth (.request delay label actions) (hub.timedBy (.manual timer))).2 =
      hub.timedBy (.manual { timer with
        armings := timer.armings + 1, armed := some (timer.now + delay,.custom label actions) }) :=
    congrArg Prod.snd (exec_arm (perform cast depth) hub accepted)
  have waited : handled cast depth (waits.map .wait) (hub.timedBy (.manual { timer with
      armings := timer.armings + 1, armed := some (timer.now + delay,.custom label actions) })) =
      hub.timedBy (.manual { timer with
        now := timer.now + waits.sum, armings := timer.armings + 1
        armed := some (timer.now + delay,.custom label actions) }) := by
    refine handled_waits hub forward ?_
    rintro pair ⟨⟩
    linarith
  rw [handled_append]
  simp only [handled,List.foldl_cons,List.foldl_nil] at waited ⊢
  rw [requested,waited]
  have cancelled : (act cast (perform cast depth) none .disarm).exec (hub.timedBy (.manual { timer with
      now := timer.now + waits.sum, armings := timer.armings + 1
      armed := some (timer.now + delay,.custom label actions) })) = _ := exec_disarm (perform cast depth) hub _
  refine (congrArg Prod.snd cancelled).trans ?_
  simp [TimerDevice.disarm,ManualTimer.disarm,idle]

theorem Tandem.outlook {hub hub' : Hub Rat} (tandem : Tandem cast depth hub hub') {rest : List Handling}
    (permitted : ∀ handling ∈ rest, handling.Permitted cast depth) :
    outlook cast depth rest hub = outlook cast depth rest hub' := by
  unfold Hub.outlook
  rw [tandem.reports permitted]
  obtain ⟨hub,step,-⟩ := tandem
  exact congrArg (fun armed => (armed,hub.timedBy (.manual .new),_)) step.isArmed

theorem Tandem.rearmed {hub hub' : Hub Rat} (tandem : Tandem cast depth hub hub')
    {timer : ManualTimer Rat (Callback Rat)} (here : hub.timer.device = .manual timer) (armings : Nat) :
    Tandem cast depth (hub.timedBy (.manual { timer with armings })) hub' := by
  obtain ⟨hub,step,leaves⟩ := tandem
  obtain rfl := TimerDevice.manual.inj here
  exact .intro hub ⟨step.coherent,step.found,step.idle,step.waiting⟩ leaves

theorem permitted_waits {waits : List Rat} (forward : ∀ seconds ∈ waits, 0 ≤ seconds) :
    ∀ handling ∈ waits.map Handling.wait, handling.Permitted cast depth := by
  intro handling member
  obtain ⟨seconds,among,rfl⟩ := List.mem_map.mp member
  exact forward seconds among

/-- A request that is cancelled before its time leaves a timer as if it had never been made with the other one. -/
theorem Tandem.cancelled {hub hub' : Hub Rat} (tandem : Tandem cast depth hub hub') (idle : hub.timer.isArmed = false)
    {delay : Rat} (label : String) (actions : List (Action Rat)) {waits : List Rat}
    (forward : ∀ seconds ∈ waits, 0 ≤ seconds) (early : waits.sum < delay) :
    Tandem cast depth
      (Hub.handled cast depth (.request delay label actions :: waits.map .wait ++ [.cancel]) hub)
      (Hub.handled cast depth (waits.map .wait) hub') := by
  have never := tandem.handledAll (permitted_waits forward)
  obtain ⟨hub,step,-⟩ := tandem
  rename_i byHand onLoop
  have nothing : byHand.armed = none := by simpa [timedBy,Timer.isArmed,TimerDevice.isArmed] using idle
  rw [handled_waits hub forward (by simp [nothing])] at never
  rw [handled_cancelled hub nothing label actions forward early]
  exact never.rearmed rfl (byHand.armings + 1)

theorem tandem_new (hub : Hub Rat) {running bound : Bool} (found : bound = true ∨ running = true) :
    Tandem cast depth { hub with timer := .byHand } { hub with timer := .onLoop running bound } := by
  have coherent : LoopTimer.Coherent { loop := (.new running : EventLoop Rat (Callback Rat)), bound } := by
    constructor <;> simp [EventLoop.new]
  exact .intro hub (InStep.of_idle coherent found rfl rfl) nofun

/-- Whoever handles a timer gets the same answers from one moved by hand and from one on a loop, finds both armed at
    the same times, and has the same callbacks called while the same time passes. A request that is cancelled before
    its time leaves no trace: all that follows, such as another request in its place, is as if it had never been
    made. -/
theorem timers_interchangeable (hub : Hub Rat) {running bound : Bool} (found : bound = true ∨ running = true)
    {handlings : List Handling} (permitted : ∀ handling ∈ handlings, handling.Permitted cast depth) :
    let byHand : Hub Rat := { hub with timer := .byHand }
    let onLoop : Hub Rat := { hub with timer := .onLoop running bound }
    reports cast depth handlings byHand = reports cast depth handlings onLoop ∧
      (∀ report ∈ reports cast depth handlings byHand, ∀ outcome ∈ report.answer,
        ∃ truth, outcome = .ok (.truth truth)) ∧
      ∀ (before : List Handling) (delay : Rat) (label : String) (actions : List (Action Rat)) (waits : List Rat)
        (rest : List Handling),
        handlings = before ++ (.request delay label actions :: waits.map .wait ++ .cancel :: rest) →
        (handled cast depth before byHand).timer.isArmed = false → waits.sum < delay →
        ∀ start ∈ [byHand,onLoop],
          let cancelled :=
            handled cast depth (before ++ (.request delay label actions :: waits.map .wait ++ [.cancel])) start
          let never := handled cast depth (before ++ waits.map .wait) start
          outlook cast depth rest cancelled = outlook cast depth rest never := by
  intro byHand onLoop
  have tandem : Tandem cast depth byHand onLoop := tandem_new hub found
  refine ⟨tandem.reports permitted,tandem.answers permitted,?_⟩
  rintro before delay label actions waits rest rfl idle early start either cancelled never
  have allowed : ∀ handling ∈ before, handling.Permitted cast depth := fun handling member =>
    permitted handling (by simp [member])
  have onward : ∀ handling ∈ rest, handling.Permitted cast depth := fun handling member =>
    permitted handling (by simp [member])
  have request : ∀ handling ∈ Handling.request delay label actions :: waits.map .wait ++ [.cancel],
      handling.Permitted cast depth := by
    intro handling member
    refine permitted handling ?_
    simp only [List.cons_append,List.mem_cons,List.mem_append,List.not_mem_nil,or_false] at member ⊢
    grind
  have forward : ∀ seconds ∈ waits, 0 ≤ seconds := fun seconds member => permitted (.wait seconds) (by simp [member])
  have middle := tandem.handledAll allowed
  -- The timer with the request is compared with the other one without it, and that one with the first again.
  have crossed := (middle.cancelled idle label actions forward early).outlook onward
  have both := (middle.handledAll request).outlook onward
  have neither := (middle.handledAll (permitted_waits forward)).outlook onward
  simp only [cancelled,never,handled_append before]
  rcases List.mem_cons.mp either with rfl | last
  · exact crossed.trans neither.symm
  · obtain rfl := List.mem_singleton.mp last
    exact both.symm.trans crossed

/-- A hub whose timer is handled. -/
private def timed (timer : Timer Rat (Callback Rat)) : Hub Rat :=
  { recorder := none, scheduler := { delay := 1 }, timer }

/-- What is done with the timer after a request was cancelled: another one is made with a delay below zero, and time
    passes beyond the deadline of the first. -/
private def replacement : List Handling :=
  [.request (-1) "second" [.subscribe "Message" (.observer "late") 0 none],.request 0 "third" [],.wait 0,.wait 2]

theorem timers_interchangeable_with_stale_request :
    let handlings := Handling.request 2 "first" [.clear] :: .wait 1 :: .cancel :: replacement
    reports [] 1 handlings (timed .byHand) = reports [] 1 handlings (timed (.onLoop true false)) ∧
      (reports [] 1 handlings (timed .byHand)).map Report.armed = [true,true,false,true,true,false,false] ∧
      ∀ start ∈ [timed .byHand,timed (.onLoop true false)],
        outlook [] 1 replacement (handled [] 1 [.request 2 "first" [.clear],.wait 1,.cancel] start) =
          outlook [] 1 replacement (handled [] 1 [.wait 1] start) := by
  intro handlings
  have permitted : ∀ handling ∈ handlings, handling.Permitted [] 1 := by
    simp only [handlings,replacement,List.forall_mem_cons,Handling.Permitted]
    exact ⟨fun _ _ => rfl,by norm_num,trivial,fun _ _ => rfl,fun _ _ => rfl,by norm_num,by norm_num,
      List.forall_mem_nil _⟩
  obtain ⟨same,-,traceless⟩ := timers_interchangeable (timed .byHand) (.inr rfl) permitted
  refine ⟨same,by decide +kernel,?_⟩
  exact traceless [] 2 "first" [.clear] [1] replacement rfl rfl (by norm_num)

end Hub

end ShotRecorder
