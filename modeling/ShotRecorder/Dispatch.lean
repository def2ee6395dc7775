import ShotRecorder.Fault

/-!
# Dispatch

One signal is brought to the listeners that were registered when it was published, one after the
other. A listener that is no longer registered when its turn comes is passed over. An ordinary fault
of a listener is reported and held up; any other fault ends the dispatch.
-/

namespace ShotRecorder

/-- A computation that changes a state and may end with a fault; the changes made so far remain. -/
abbrev Run (σ : Type) := ExceptT Fault (StateM σ)

namespace Run

variable {σ α : Type}

/-- The way a computation ends, as a value. -/
def attempt (x : Run σ α) : Run σ (Except Fault α) := ExceptT.mk do
  let outcome ← x.run
  pure (.ok outcome)

/-- A fault or a value. -/
def ofExcept : Except Fault α → Run σ α
  | .ok a => pure a
  | .error fault => throw fault

/-- The way a computation ends that starts from a state, and the state it leaves. -/
def exec (x : Run σ α) (s : σ) : Except Fault α × σ := x.run.run s

variable {β : Type}

@[simp] theorem exec_pure (a : α) (s : σ) : (pure a : Run σ α).exec s = (.ok a, s) := rfl

@[simp] theorem exec_throw (fault : Fault) (s : σ) : (throw fault : Run σ α).exec s = (.error fault, s) :=
  rfl

/-- A fault ends a computation with what was done so far. -/
theorem exec_bind (x : Run σ α) (f : α → Run σ β) (s : σ) :
    (x >>= f).exec s =
      match x.exec s with
      | (.ok a, s) => (f a).exec s
      | (.error fault, s) => (.error fault, s) := by
  simp only [exec, ExceptT.run_bind, StateT.run_bind]
  rcases x.run.run s with ⟨outcome, left⟩
  cases outcome <;> rfl

@[simp] theorem exec_map (f : α → β) (x : Run σ α) (s : σ) :
    (f <$> x).exec s = ((x.exec s).1.map f, (x.exec s).2) := by
  simp only [exec, ExceptT.run_map, StateT.run_map]
  rcases x.run.run s with ⟨outcome, left⟩
  cases outcome <;> rfl

@[simp] theorem exec_discard (x : Run σ α) (s : σ) :
    (discard x).exec s = ((x.exec s).1.map fun _ => (), (x.exec s).2) :=
  exec_map (fun _ => ()) x s

@[simp] theorem exec_attempt (x : Run σ α) (s : σ) :
    (attempt x).exec s = (.ok (x.exec s).1, (x.exec s).2) := rfl

@[simp] theorem exec_ofExcept (outcome : Except Fault α) (s : σ) :
    (ofExcept outcome : Run σ α).exec s = (outcome, s) := by
  cases outcome <;> rfl

end Run

/-- A listener that failed, and how. -/
structure Failure where
  kind : String
  listener : String
  fault : Fault

/-- What a dispatch needs to know of its listeners. -/
structure Dispatch (σ η : Type) where
  /-- Whether a listener is registered at this moment. -/
  registered : η → Run σ Bool
  call : η → Run σ Unit
  /-- What is done about an ordinary fault of a listener. -/
  report : η → Fault → Run σ Failure

namespace Dispatch

variable {σ η : Type}

/-- The turn of one listener: it is called if it is registered, and its ordinary fault reported. -/
def turn (d : Dispatch σ η) (listener : η) : Run σ (Option Failure) := do
  if ← d.registered listener then
    match ← Run.attempt (d.call listener) with
    | .ok () => pure none
    | .error fault => if fault.isOrdinary then some <$> d.report listener fault else throw fault
  else pure none

/-- The turns of all listeners in order; the failures, in the same order. -/
def deliver (d : Dispatch σ η) : List η → Run σ (List Failure)
  | [] => pure []
  | listener :: rest => do
    let failure ← d.turn listener
    let failures ← d.deliver rest
    pure (failure.toList ++ failures)

end Dispatch

end ShotRecorder
