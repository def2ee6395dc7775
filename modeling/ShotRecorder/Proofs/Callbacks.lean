import ShotRecorder.Timer.Basic

/-!
What timers call back for. Time passes on a device (`TimerDevice.Passes`), or the device calls back for
something and is no longer armed (`TimerDevice.Calls`). No device comes by a callback by itself: disarming it,
moving its time and calling back leave it with callbacks that it had before (`TimerDevice.Within`), and a
request adds at most the callback that it asks for (`Timer.callbacks_schedule`).
-/
namespace ShotRecorder

/-- A time that a clock comes to when it counts a delay. -/
def Clock.Counted {τ : Type} [Clock τ] (t : τ) : Prop := ∃ start delay : τ, Clock.later start delay = .ok t

namespace TimerDevice

variable {τ κ : Type}

/-- What a device may still call back for. -/
def callbacks : TimerDevice τ κ → List κ
  | manual timer => timer.armed.toList.map Prod.snd
  | loop timer => timer.loop.queue.map Appointment.callback

/-- A device that has no callback which the earlier one has not, and is armed only if that one is. -/
structure Within (later earlier : TimerDevice τ κ) : Prop where
  callbacks : ∀ callback ∈ later.callbacks, callback ∈ earlier.callbacks
  armed : later.isArmed → earlier.isArmed

theorem disarm_within (device : TimerDevice τ κ) : device.disarm.Within device := by
  cases device with
  | manual timer =>
    constructor
    · simp [TimerDevice.callbacks,disarm,ManualTimer.disarm]
    · simp [disarm,isArmed,ManualTimer.disarm]
  | loop timer =>
    cases appointed : timer.appointment with
    | none => simpa [disarm,LoopTimer.disarm,appointed] using ⟨fun _ member => member,id⟩
    | some id =>
      constructor
      · intro callback member
        simp only [disarm,LoopTimer.disarm,appointed,EventLoop.cancel,TimerDevice.callbacks,List.map_map,
          List.mem_map,Function.comp_apply] at member ⊢
        obtain ⟨appointment,queued,same⟩ := member
        refine ⟨appointment,queued,?_⟩
        rw [← same]
        split <;> rfl
      · simp [disarm,LoopTimer.disarm,appointed,isArmed]

theorem isArmed_disarm (device : TimerDevice τ κ) : device.disarm.isArmed = false := by
  cases device with
  | manual timer => rfl
  | loop timer => cases appointed : timer.appointment <;> simp [disarm,LoopTimer.disarm,isArmed,appointed]

variable [Clock τ]

/-- Time passes on a device, which calls back for nothing. -/
inductive Passes : TimerDevice τ κ → TimerDevice τ κ → Prop
  | manual (timer : ManualTimer τ κ) {now : τ} (counted : Clock.Counted now) :
    Passes (manual timer) (manual { timer with now })
  | loop (timer : LoopTimer τ κ) {now : τ} (counted : Clock.Counted now) :
    Passes (loop timer) (loop { timer with loop := { timer.loop with now } })

theorem Passes.within {device later : TimerDevice τ κ} (passes : device.Passes later) : later.Within device := by
  cases passes with
  | manual timer => exact ⟨fun _ member => member,id⟩
  | loop timer => exact ⟨fun _ member => member,id⟩

/-- A device calls back for something, and is no longer armed then. -/
inductive Calls : TimerDevice τ κ → κ → TimerDevice τ κ → Prop
  | manual {timer : ManualTimer τ κ} {due now : τ} {callback : κ} (time : now = timer.now ∨ Clock.Counted now)
    (armed : timer.armed = some (due,callback)) :
    Calls (manual timer) callback (manual { timer with now, armed := none })
  | loop {timer later : LoopTimer τ κ} {wake : τ} {callback : κ} (counted : Clock.Counted wake)
    (next : timer.next? wake = some (callback,later)) : Calls (loop timer) callback (loop later)

/-- Moving the time of a timer lets it pass or makes the timer call back. -/
theorem advance_moves {timer later : ManualTimer τ κ} {seconds : τ} {callback : Option κ}
    (advanced : timer.advance seconds = .ok (callback,later)) :
    (callback = none → Passes (manual timer) (manual later)) ∧
      ∀ called ∈ callback, Calls (manual timer) called (manual later) := by
  unfold ManualTimer.advance at advanced
  cases reached : Clock.later timer.now seconds with
  | error fault => simp [reached,bind,Except.bind] at advanced
  | ok now =>
    have counted : Clock.Counted now := ⟨_,_,reached⟩
    have passes := Passes.manual timer counted
    simp only [reached,bind,Except.bind] at advanced
    cases armed : timer.armed with
    | none =>
      simp only [armed,pure,Except.pure,Except.ok.injEq,Prod.mk.injEq] at advanced
      obtain ⟨rfl,rfl⟩ := advanced
      rw [armed] at passes
      exact ⟨fun _ => passes,by simp⟩
    | some pair =>
      obtain ⟨due,held⟩ := pair
      simp only [armed] at advanced
      split at advanced
      · simp only [pure,Except.pure,Except.ok.injEq,Prod.mk.injEq] at advanced
        obtain ⟨rfl,rfl⟩ := advanced
        refine ⟨by simp,fun called same => ?_⟩
        obtain rfl := Option.some.inj same
        exact Calls.manual (.inr counted) armed
      · simp only [pure,Except.pure,Except.ok.injEq,Prod.mk.injEq] at advanced
        obtain ⟨rfl,rfl⟩ := advanced
        rw [armed] at passes
        exact ⟨fun _ => passes,by simp⟩

/-- The appointment that comes next is one of those in the queue that are due. -/
theorem next_due {loop : EventLoop τ κ} {wake : τ} {appointment : Appointment τ κ}
    (next : loop.next? wake = some appointment) :
    appointment ∈ loop.queue ∧ EventLoop.isDue wake appointment = true := by
  have chosen : ∀ (rest : List (Appointment τ κ)) first, rest.foldl EventLoop.earlier first ∈ first :: rest := by
    intro rest
    induction rest with
    | nil => simp
    | cons second rest ih =>
      intro first
      have found := ih (EventLoop.earlier first second)
      have either : EventLoop.earlier first second = first ∨ EventLoop.earlier first second = second := by
        unfold EventLoop.earlier
        split <;> simp
      simp only [List.foldl_cons,List.mem_cons] at found ⊢
      rcases found with same | later
      · rcases either with early | late
        · exact .inl (same.trans early)
        · exact .inr (.inl (same.trans late))
      · exact .inr (.inr later)
  unfold EventLoop.next? at next
  cases due : loop.queue.filter (EventLoop.isDue wake) with
  | nil => simp [due] at next
  | cons first rest =>
    simp only [due,Option.some.injEq] at next
    have member := chosen rest first
    rw [next,← due] at member
    exact List.mem_filter.mp member

/-- What a device calls back for it held, and it holds nothing else afterwards. -/
theorem Calls.within {device later : TimerDevice τ κ} {callback : κ} (calls : device.Calls callback later) :
    later.Within device ∧ callback ∈ device.callbacks ∧ later.isArmed = false := by
  cases calls with
  | manual time armed =>
    exact ⟨⟨by simp [TimerDevice.callbacks],by simp [isArmed]⟩,by simp [TimerDevice.callbacks,armed],rfl⟩
  | loop counted next =>
    rename_i timer later wake
    obtain ⟨appointment,chosen,pair⟩ := Option.map_eq_some_iff.mp next
    obtain ⟨rfl,rfl⟩ := Prod.mk.inj pair
    refine ⟨⟨?_,by simp [isArmed]⟩,List.mem_map_of_mem (next_due chosen).1,rfl⟩
    intro other member
    simp only [TimerDevice.callbacks,EventLoop.arrive,List.mem_map,List.mem_filter] at member ⊢
    obtain ⟨kept,⟨queued,_⟩,same⟩ := member
    exact ⟨kept,queued,same⟩

/-- A timer moved by hand accepts a request if it is not armed, and keeps the deadline. -/
theorem schedule_manual {timer : ManualTimer τ κ} {later : TimerDevice τ κ} {delay : τ} {callback : κ}
    (scheduled : (manual timer).schedule delay callback = .ok (some later)) :
    timer.armed = none ∧ ∃ due, Clock.later timer.now (Clock.notNegative delay) = .ok due ∧
      later = manual { timer with armings := timer.armings + 1, armed := some (due,callback) } := by
  cases armed : timer.armed with
  | some pair => simp [schedule,ManualTimer.schedule,armed,bind,Except.bind,pure,Except.pure] at scheduled
  | none =>
    cases reached : Clock.later timer.now (Clock.notNegative delay) with
    | error fault => simp [schedule,ManualTimer.schedule,armed,reached,bind,Except.bind] at scheduled
    | ok due =>
      simp only [schedule,ManualTimer.schedule,armed,reached,bind,Except.bind,pure,Except.pure,Except.ok.injEq,
        Option.map_some,Option.some.injEq] at scheduled
      exact ⟨rfl,due,rfl,scheduled.symm⟩

/-- A timer on a loop accepts a request if it has no appointment, and makes one. -/
theorem schedule_loop {timer : LoopTimer τ κ} {later : TimerDevice τ κ} {delay : τ} {callback : κ}
    (scheduled : (loop timer).schedule delay callback = .ok (some later)) :
    timer.appointment = none ∧ ∃ due, Clock.later timer.loop.now (Clock.notNegative delay) = .ok due ∧
      later = loop
        { timer with
          loop := { timer.loop with
            queue := timer.loop.queue ++ [{ id := timer.loop.made, due, callback }], made := timer.loop.made + 1 }
          appointment := some timer.loop.made } := by
  cases appointed : timer.appointment with
  | some id => simp [schedule,LoopTimer.schedule,appointed,bind,Except.bind,pure,Except.pure] at scheduled
  | none =>
    by_cases lost : (!timer.bound && !timer.loop.running) = true
    · simp [schedule,LoopTimer.schedule,appointed,lost,bind,Except.bind] at scheduled
    · cases reached : Clock.later timer.loop.now (Clock.notNegative delay) with
      | error fault =>
        simp [schedule,LoopTimer.schedule,appointed,lost,EventLoop.callLater,reached,bind,Except.bind] at scheduled
      | ok due =>
        simp only [schedule,LoopTimer.schedule,appointed,Option.isSome_none,Bool.false_eq_true,↓reduceIte,lost,
          EventLoop.callLater,reached,bind,Except.bind,pure,Except.pure,Except.ok.injEq,Option.map_some,
          Option.some.injEq] at scheduled
        exact ⟨rfl,due,rfl,scheduled.symm⟩

theorem callbacks_schedule {device later : TimerDevice τ κ} {delay : τ} {callback : κ}
    (scheduled : device.schedule delay callback = .ok (some later)) :
    ∀ c ∈ later.callbacks, c ∈ device.callbacks ∨ c = callback := by
  intro c member
  cases device with
  | manual timer =>
    obtain ⟨-,due,-,rfl⟩ := schedule_manual scheduled
    right
    simpa [TimerDevice.callbacks] using member
  | loop timer =>
    obtain ⟨-,due,-,rfl⟩ := schedule_loop scheduled
    simpa [TimerDevice.callbacks] using member

end TimerDevice

/-- A delay that is not negative is waited for as it is. -/
theorem Clock.notNegative_eq {delay : Rat} (delayed : 0 ≤ delay) : Clock.notNegative delay = delay := by
  simp [Clock.notNegative,Clock.isNegative,Rat.not_lt.mpr delayed]

/-- Whether an answer is yes. -/
def isYes : Except Fault Bool → Bool
  | .ok answer => answer
  | .error _ => false

/-- A timer that says yes has done what its device was asked for; otherwise the device is as it was. -/
theorem Timer.schedule_device {τ κ : Type} [Clock τ] {timer later : Timer τ κ} {delay : τ} {callback : κ}
    {answer : Except Fault Bool} (scheduled : timer.schedule delay callback = (answer,later)) :
    (isYes answer = true → timer.device.schedule delay callback = .ok (some later.device)) ∧
      (isYes answer = false → later.device = timer.device) := by
  unfold Timer.schedule at scheduled
  split at scheduled
  · obtain ⟨rfl,rfl⟩ := Prod.mk.inj scheduled
    exact ⟨nofun,fun _ => rfl⟩
  · obtain ⟨rfl,rfl⟩ := Prod.mk.inj scheduled
    exact ⟨nofun,fun _ => rfl⟩
  · split at scheduled
    · rename_i accepted
      obtain ⟨rfl,rfl⟩ := Prod.mk.inj scheduled
      exact ⟨fun _ => accepted,nofun⟩
    · obtain ⟨rfl,rfl⟩ := Prod.mk.inj scheduled
      exact ⟨nofun,fun _ => rfl⟩
    · obtain ⟨rfl,rfl⟩ := Prod.mk.inj scheduled
      exact ⟨nofun,fun _ => rfl⟩

/-- A request adds at most what it asks for to what a timer may call back for. -/
theorem Timer.callbacks_schedule {τ κ : Type} [Clock τ] (timer : Timer τ κ) (delay : τ) (callback : κ) :
    ∀ c ∈ (timer.schedule delay callback).2.device.callbacks, c ∈ timer.device.callbacks ∨ c = callback := by
  intro c member
  rcases scheduled : timer.schedule delay callback with ⟨answer,later⟩
  rw [scheduled] at member
  obtain ⟨accepted,refused⟩ := Timer.schedule_device scheduled
  cases yes : isYes answer with
  | true => exact TimerDevice.callbacks_schedule (accepted yes) c member
  | false =>
    rw [refused yes] at member
    exact .inl member

end ShotRecorder
