import ShotRecorder.Proofs.Callbacks

/-!
Timers on which no request fails. Such a timer can count from the time it has come to, finds the loop that it looks
for, and has no trouble of its own (`Timer.Dependable`). It answers every request, with yes or no, and it stays as it
is while requests come and time passes (`Timer.Dependable.schedule`,
`TimerDevice.Passes.dependable`).
-/
namespace ShotRecorder

/-- A number that is a time: it has a binary form. -/
def Number.IsTime (n : Number) : Prop := n.toFloat?.isSome = true

/-- Times are counted in binary numbers. -/
theorem Clock.Counted.isTime {t : Number} (counted : Clock.Counted t) : t.IsTime := by
  obtain ⟨start,delay,later⟩ := counted
  unfold Clock.later Clock.later? instClockNumber Number.add? at later
  dsimp only at later
  split at later
  · rename_i found
    split at found
    · cases found
      cases later
      rfl
    · cases found
  · cases later

/-- A time can be counted from any other. -/
theorem Clock.later_of_isTime {t delay : Number} (time : t.IsTime) (span : delay.IsTime) :
    ∃ due, Clock.later t delay = .ok due := by
  obtain ⟨x,isX⟩ := Option.isSome_iff_exists.mp time
  obtain ⟨y,isY⟩ := Option.isSome_iff_exists.mp span
  exact ⟨.float (x + y),by simp [Clock.later,Clock.later?,Number.add?,isX,isY]⟩

theorem Clock.isTime_notNegative {delay : Number} (span : delay.IsTime) : (Clock.notNegative delay).IsTime := by
  unfold Clock.notNegative
  split
  · rfl
  · exact span

namespace TimerDevice

variable {κ : Type}

/-- A device on which no request fails: its times can be counted from, and there is a running loop where it looks
    for one. -/
def Dependable : TimerDevice Number κ → Prop
  | manual timer => timer.now.IsTime
  | loop timer => timer.loop.now.IsTime ∧ (∀ appointment ∈ timer.loop.queue, appointment.due.IsTime) ∧
      (timer.bound = true ∨ timer.loop.running = true)

theorem Passes.dependable {device later : TimerDevice Number κ} (passes : device.Passes later)
    (dependable : device.Dependable) : later.Dependable := by
  cases passes with
  | manual timer counted => exact counted.isTime
  | loop timer counted => exact ⟨counted.isTime,dependable.2⟩

theorem Calls.dependable {device later : TimerDevice Number κ} {callback : κ} (calls : device.Calls callback later)
    (dependable : device.Dependable) : later.Dependable := by
  cases calls with
  | manual time armed =>
    rcases time with rfl | counted
    · exact dependable
    · exact counted.isTime
  | loop counted next =>
    obtain ⟨-,dues,found⟩ := dependable
    obtain ⟨appointment,chosen,pair⟩ := Option.map_eq_some_iff.mp next
    obtain ⟨rfl,rfl⟩ := Prod.mk.inj pair
    refine ⟨?_,fun other member => dues other (List.mem_filter.mp member).1,found⟩
    -- The loop comes to the time of the appointment, or to that of waking up.
    unfold EventLoop.arrive
    dsimp only
    split
    · exact dues _ (next_due chosen).1
    · exact counted.isTime

theorem schedule_answers {device : TimerDevice Number κ} (dependable : device.Dependable) {delay : Number}
    (span : delay.IsTime) (callback : κ) : ∃ answer, device.schedule delay callback = .ok answer := by
  have waited := Clock.isTime_notNegative span
  cases device with
  | manual timer =>
    cases armed : timer.armed with
    | some pair => exact ⟨none,by simp [schedule,ManualTimer.schedule,armed,bind,Except.bind,pure,Except.pure]⟩
    | none =>
      obtain ⟨due,reached⟩ := Clock.later_of_isTime dependable waited
      simp [schedule,ManualTimer.schedule,armed,reached,bind,Except.bind,pure,Except.pure]
  | loop timer =>
    obtain ⟨time,-,found⟩ := dependable
    cases appointed : timer.appointment with
    | some id => exact ⟨none,by simp [schedule,LoopTimer.schedule,appointed,bind,Except.bind,pure,Except.pure]⟩
    | none =>
      obtain ⟨due,reached⟩ := Clock.later_of_isTime time waited
      have here : (!timer.bound && !timer.loop.running) = false := by
        rcases found with bound | running
        · simp [bound]
        · simp [running]
      simp [schedule,LoopTimer.schedule,appointed,here,EventLoop.callLater,reached,bind,Except.bind,pure,Except.pure]

/-- What a device is asked for is due at a time. -/
theorem dependable_schedule {device later : TimerDevice Number κ} (dependable : device.Dependable) {delay : Number}
    {callback : κ} (scheduled : device.schedule delay callback = .ok (some later)) : later.Dependable := by
  cases device with
  | manual timer =>
    obtain ⟨-,due,-,rfl⟩ := schedule_manual scheduled
    exact dependable
  | loop timer =>
    obtain ⟨-,due,reached,rfl⟩ := schedule_loop scheduled
    obtain ⟨time,dues,found⟩ := dependable
    have counted : Clock.Counted due := ⟨_,_,reached⟩
    refine ⟨time,?_,found⟩
    intro appointment member
    rcases List.mem_append.mp member with old | new
    · exact dues appointment old
    · exact List.mem_singleton.mp new ▸ counted.isTime

end TimerDevice

/-- A timer on which no request fails. -/
structure Timer.Dependable {κ : Type} (timer : Timer Number κ) : Prop where
  device : timer.device.Dependable
  troubles : ∀ fault, .fails fault ∉ timer.troubles

/-- Every request is answered with yes or no. -/
theorem Timer.Dependable.schedule {κ : Type} {timer : Timer Number κ} (dependable : timer.Dependable) {delay : Number}
    (span : delay.IsTime) (callback : κ) :
    ∃ armed later, timer.schedule delay callback = (.ok armed,later) ∧ later.Dependable := by
  have rest : ∀ fault, .fails fault ∉ timer.troubles.tail :=
    fun fault member => dependable.troubles fault (List.mem_of_mem_tail member)
  obtain ⟨answer,scheduled⟩ := TimerDevice.schedule_answers dependable.device span callback
  unfold Timer.schedule
  dsimp only
  split
  · exact ⟨false,_,rfl,dependable.device,rest⟩
  · rename_i fault trouble
    have here : Trouble.fails fault ∈ timer.troubles := by
      cases troubles : timer.troubles with
      | nil => simp [troubles] at trouble
      | cons first others => simp_all
    exact absurd here (dependable.troubles fault)
  · rw [scheduled]
    cases answer with
    | none => exact ⟨false,_,rfl,dependable.device,rest⟩
    | some device => exact ⟨true,_,rfl,TimerDevice.dependable_schedule dependable.device scheduled,rest⟩

end ShotRecorder
