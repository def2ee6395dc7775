import Mathlib.Data.List.Nodup
import ShotRecorder.Proofs.Callbacks

/-!
What a timer is armed with. A loop keeps appointments that were cancelled in its queue, and a timer knows its
own appointment by a number only, yet a coherent device calls back for exactly what it is armed with
(`TimerDevice.Calls.armedWith`). A request arms an idle timer with what it asks for, or changes nothing
(`Timer.schedule_arms`), and a device that called back or was disarmed is armed with nothing.
-/
namespace ShotRecorder

variable {τ κ : Type}

/-- The queue of the loop holds at most one appointment that is still to come, the timer's own, and no two with
    one number. -/
structure LoopTimer.Coherent (timer : LoopTimer τ κ) : Prop where
  distinct : (timer.loop.queue.map Appointment.id).Nodup
  made : ∀ a ∈ timer.loop.queue, a.id < timer.loop.made
  own : ∀ a ∈ timer.loop.queue, a.cancelled = false → timer.appointment = some a.id
  kept : ∀ id ∈ timer.appointment, ∃ a ∈ timer.loop.queue, a.id = id ∧ a.cancelled = false

namespace TimerDevice

/-- The callback that a device is armed with. -/
def armedWith? : TimerDevice τ κ → Option κ
  | manual timer => timer.armed.map Prod.snd
  | loop timer =>
    timer.appointment.bind fun id => (timer.loop.queue.find? (·.id == id)).map Appointment.callback

/-- A device whose appointment, if it has one, is kept by its loop. -/
def Coherent : TimerDevice τ κ → Prop
  | manual _ => True
  | loop timer => timer.Coherent

theorem armedWith_of_idle {device : TimerDevice τ κ} (idle : device.isArmed = false) : device.armedWith? = none := by
  cases device with
  | manual timer => simpa [isArmed,armedWith?] using idle
  | loop timer =>
    have free : timer.appointment = none := by simpa [isArmed] using idle
    simp [armedWith?,free]

/-- A device is armed with one of its callbacks. -/
theorem armedWith_mem {device : TimerDevice τ κ} {callback : κ} (armed : device.armedWith? = some callback) :
    callback ∈ device.callbacks := by
  cases device with
  | manual timer => simpa [armedWith?,callbacks] using armed
  | loop timer =>
    obtain ⟨id,-,found⟩ := Option.bind_eq_some_iff.mp armed
    obtain ⟨a,first,rfl⟩ := Option.map_eq_some_iff.mp found
    exact List.mem_map_of_mem (List.mem_of_find?_eq_some first)

theorem Coherent.armed_iff {device : TimerDevice τ κ} (coherent : device.Coherent) :
    device.isArmed ↔ device.armedWith?.isSome := by
  cases device with
  | manual timer => simp [isArmed,armedWith?]
  | loop timer =>
    cases appointed : timer.appointment with
    | none => simp [isArmed,armedWith?,appointed]
    | some id =>
      obtain ⟨a,queued,same,-⟩ := LoopTimer.Coherent.kept coherent id appointed
      have found : (timer.loop.queue.find? (·.id == id)).isSome := by
        rw [List.find?_isSome]
        exact ⟨a,queued,by simpa using same⟩
      simp [isArmed,armedWith?,appointed,found]

/-- The appointment that has the timer's number is the one that the timer is armed with. -/
theorem armedWith_of_mem {timer : LoopTimer τ κ} (coherent : timer.Coherent) {a : Appointment τ κ}
    (queued : a ∈ timer.loop.queue) (live : a.cancelled = false) :
    (loop timer).armedWith? = some a.callback := by
  have appointed := coherent.own a queued live
  have found : timer.loop.queue.find? (·.id == a.id) = some a := by
    cases first : timer.loop.queue.find? (·.id == a.id) with
    | none =>
      rw [List.find?_eq_none] at first
      simpa using first a queued
    | some b =>
      have member := List.mem_of_find?_eq_some first
      have number := List.find?_some first
      have same : b = a := List.inj_on_of_nodup_map coherent.distinct member queued (by simpa using number)
      rw [same]
  simp [armedWith?,appointed,found]

theorem Coherent.disarm {device : TimerDevice τ κ} (coherent : device.Coherent) : device.disarm.Coherent := by
  cases device with
  | manual timer => trivial
  | loop timer =>
    cases appointed : timer.appointment with
    | none => simpa [TimerDevice.disarm,LoopTimer.disarm,appointed] using coherent
    | some id =>
      have held : timer.Coherent := coherent
      have numbers : ((timer.loop.cancel id).queue.map Appointment.id) = timer.loop.queue.map Appointment.id := by
        simp only [EventLoop.cancel,List.map_map]
        refine List.map_congr_left fun a _ => ?_
        dsimp only [Function.comp_apply]
        split <;> rfl
      simp only [TimerDevice.disarm,LoopTimer.disarm,appointed]
      refine ⟨numbers ▸ held.distinct,?_,?_,by simp⟩
      · intro a member
        have among : a.id ∈ timer.loop.queue.map Appointment.id := numbers ▸ List.mem_map_of_mem member
        obtain ⟨b,queued,same⟩ := List.mem_map.mp among
        exact same ▸ held.made b queued
      · intro a member live
        obtain ⟨b,queued,rfl⟩ := List.mem_map.mp member
        split at live
        · simp at live
        · rename_i other
          have own := held.own b queued live
          rw [appointed] at own
          exact absurd (Option.some.inj own).symm other

variable [Clock τ]

theorem Passes.coherent {device later : TimerDevice τ κ} (passes : device.Passes later) (coherent : device.Coherent) :
    later.Coherent := by
  cases passes with
  | manual timer => trivial
  | loop timer => exact ⟨coherent.distinct,coherent.made,coherent.own,coherent.kept⟩

theorem Passes.armedWith {device later : TimerDevice τ κ} (passes : device.Passes later) :
    later.armedWith? = device.armedWith? := by
  cases passes <;> rfl

/-- An appointment that comes next was not cancelled. -/
theorem next_live {loop : EventLoop τ κ} {wake : τ} {a : Appointment τ κ} (next : loop.next? wake = some a) :
    a ∈ loop.queue ∧ a.cancelled = false := by
  obtain ⟨queued,due⟩ := next_due next
  exact ⟨queued,by simpa using (Bool.and_eq_true_iff.mp due).1⟩

theorem Calls.coherent {device later : TimerDevice τ κ} {callback : κ} (calls : device.Calls callback later)
    (coherent : device.Coherent) : later.Coherent := by
  cases calls with
  | manual time armed => trivial
  | loop counted next =>
    rename_i timer later wake
    obtain ⟨a,chosen,pair⟩ := Option.map_eq_some_iff.mp next
    obtain ⟨-,rfl⟩ := Prod.mk.inj pair
    have held : timer.Coherent := coherent
    obtain ⟨queued,live⟩ := next_live chosen
    refine ⟨held.distinct.sublist (List.filter_sublist.map _),?_,?_,by simp⟩
    · intro b member
      exact held.made b (List.mem_filter.mp member).1
    · intro b member stays
      -- Whatever is still to come is the timer's own appointment, and that one has just left the queue.
      obtain ⟨inside,other⟩ := List.mem_filter.mp member
      have same := (held.own b inside stays).symm.trans (held.own a queued live)
      exact absurd (Option.some.inj same) (by simpa using other)

/-- A device calls back for what it is armed with. -/
theorem Calls.armedWith {device later : TimerDevice τ κ} {callback : κ} (calls : device.Calls callback later)
    (coherent : device.Coherent) : device.armedWith? = some callback ∧ later.armedWith? = none := by
  refine ⟨?_,armedWith_of_idle calls.within.2.2⟩
  cases calls with
  | manual time armed => simp [armedWith?,armed]
  | loop counted next =>
    obtain ⟨a,chosen,pair⟩ := Option.map_eq_some_iff.mp next
    obtain ⟨rfl,-⟩ := Prod.mk.inj pair
    obtain ⟨queued,live⟩ := next_live chosen
    exact armedWith_of_mem coherent queued live

/-- A request that is accepted arms an idle device with what it asks for. -/
theorem schedule_arms {device later : TimerDevice τ κ} {delay : τ} {callback : κ} (coherent : device.Coherent)
    (scheduled : device.schedule delay callback = .ok (some later)) :
    device.armedWith? = none ∧ later.armedWith? = some callback ∧ later.Coherent := by
  cases device with
  | manual timer =>
    obtain ⟨idle,due,-,rfl⟩ := schedule_manual scheduled
    exact ⟨by simp [armedWith?,idle],rfl,trivial⟩
  | loop timer =>
    obtain ⟨free,due,-,rfl⟩ := schedule_loop scheduled
    have held : timer.Coherent := coherent
    have cancelled : ∀ a ∈ timer.loop.queue, a.cancelled = true := by
      intro a queued
      cases live : a.cancelled with
      | true => rfl
      | false => simpa [free] using held.own a queued live
    have coherent' : LoopTimer.Coherent
        { timer with
          loop := { timer.loop with
            queue := timer.loop.queue ++ [{ id := timer.loop.made, due, callback }], made := timer.loop.made + 1 }
          appointment := some timer.loop.made } := by
      refine ⟨?_,?_,?_,?_⟩
      · rw [List.map_append,List.nodup_append]
        refine ⟨held.distinct,by simp,?_⟩
        intro old among new isNew same
        obtain ⟨a,queued,rfl⟩ := List.mem_map.mp among
        have number : new = timer.loop.made := by simpa using isNew
        exact absurd (held.made a queued) (by omega)
      · intro a member
        rcases List.mem_append.mp member with old | new
        · exact Nat.lt_succ_of_lt (held.made a old)
        · simp [List.mem_singleton.mp new]
      · intro a member live
        rcases List.mem_append.mp member with old | new
        · simp [cancelled a old] at live
        · simp [List.mem_singleton.mp new]
      · intro id same
        obtain rfl := Option.some.inj same
        exact ⟨_,List.mem_append_right _ (List.mem_singleton.mpr rfl),rfl,rfl⟩
    refine ⟨by simp [armedWith?,free],?_,coherent'⟩
    exact armedWith_of_mem coherent' (List.mem_append_right _ (List.mem_singleton.mpr rfl)) rfl

end TimerDevice

/-- A request arms an idle timer with what it asks for and is answered with yes, or it changes nothing. -/
theorem Timer.schedule_arms [Clock τ] {timer later : Timer τ κ} {delay : τ} {callback : κ} {answer : Except Fault Bool}
    (scheduled : timer.schedule delay callback = (answer,later)) (coherent : timer.device.Coherent) :
    later.device.Coherent ∧
      (isYes answer = true → timer.device.armedWith? = none ∧ later.device.armedWith? = some callback) ∧
      (isYes answer = false → later.device = timer.device) := by
  obtain ⟨accepted,refused⟩ := Timer.schedule_device scheduled
  cases yes : isYes answer with
  | true =>
    obtain ⟨idle,armed,coherent'⟩ := TimerDevice.schedule_arms coherent (accepted yes)
    exact ⟨coherent',fun _ => ⟨idle,armed⟩,nofun⟩
  | false => exact ⟨refused yes ▸ coherent,nofun,fun _ => refused yes⟩

end ShotRecorder
