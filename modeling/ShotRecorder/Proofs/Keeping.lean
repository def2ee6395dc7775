import ShotRecorder.Dispatch

/-!
What computations keep. A computation may end with a fault, and what it did so far remains, so that a
property of the state is kept only if it is kept however the computation ends (`Run.Keeps`). A dispatch
keeps what the calls of its listeners keep; what its first call establishes, and the others keep, holds
after the dispatch (`Dispatch.deliver_leads`).
-/
namespace ShotRecorder

section
variable {σ η α β : Type} {I : σ → Prop}

namespace Run

/-- However a computation ends, it leaves a property of the state as it was. -/
def Keeps (I : σ → Prop) (x : Run σ α) : Prop := ∀ s, I s → I (x.exec s).2

theorem keeps_pure (a : α) : Keeps I (pure a : Run σ α) := fun _ held => held

theorem keeps_throw (fault : Fault) : Keeps I (throw fault : Run σ α) := fun _ held => held

theorem keeps_ofExcept (outcome : Except Fault α) : Keeps I (ofExcept outcome : Run σ α) := by
  intro s held
  simpa using held

/-- What a computation establishes, and what comes after it keeps, holds in the end. -/
theorem leads_bind {x : Run σ α} {f : α → Run σ β} {s : σ} (first : I (x.exec s).2) (next : ∀ a, Keeps I (f a)) :
    I ((x >>= f).exec s).2 := by
  rw [exec_bind]
  rcases ran : x.exec s with ⟨outcome,left⟩
  rw [ran] at first
  cases outcome with
  | ok a => exact next a left first
  | error fault => exact first

theorem Keeps.bind {x : Run σ α} {f : α → Run σ β} (first : Keeps I x) (next : ∀ a, Keeps I (f a)) :
    Keeps I (x >>= f) :=
  fun s held => leads_bind (first s held) next

theorem Keeps.map {x : Run σ α} (kept : Keeps I x) (f : α → β) : Keeps I (f <$> x) := by
  intro s held
  simpa using kept s held

theorem Keeps.attempt {x : Run σ α} (kept : Keeps I x) : Keeps I (Run.attempt x) := by
  intro s held
  simpa using kept s held

theorem Keeps.and {J : σ → Prop} {x : Run σ α} (first : Keeps I x) (second : Keeps J x) :
    Keeps (fun s => I s ∧ J s) x :=
  fun s held => ⟨first s held.1,second s held.2⟩

theorem Keeps.discard {x : Run σ α} (kept : Keeps I x) : Keeps I (Functor.discard x) := by
  intro s held
  simpa using kept s held

end Run

open Run

/-- The turn of a listener keeps what its call keeps. -/
theorem Dispatch.turn_keeps (d : Dispatch σ η) (listener : η) (asked : Keeps I (d.registered listener))
    (called : Keeps I (d.call listener)) (reported : ∀ fault, Keeps I (d.report listener fault)) :
    Keeps I (d.turn listener) := by
  refine asked.bind fun registered => ?_
  cases registered with
  | false => exact keeps_pure _
  | true =>
    refine called.attempt.bind fun outcome => ?_
    cases outcome with
    | ok => exact keeps_pure _
    | error fault =>
      dsimp only
      split
      · exact (reported fault).map _
      · exact keeps_throw _

/-- What the call of a registered listener establishes, its whole turn establishes. -/
theorem Dispatch.turn_leads (d : Dispatch σ η) (listener : η) {s : σ}
    (asked : (d.registered listener).exec s = (.ok true,s)) (called : I ((d.call listener).exec s).2)
    (reported : ∀ fault, Keeps I (d.report listener fault)) : I ((d.turn listener).exec s).2 := by
  unfold Dispatch.turn
  rw [exec_bind,asked]
  simp only [↓reduceIte]
  rw [exec_bind,exec_attempt]
  rcases ran : (d.call listener).exec s with ⟨outcome,left⟩
  rw [ran] at called
  cases outcome with
  | ok => exact called
  | error fault =>
    dsimp only
    split
    · exact (reported fault).map _ left called
    · exact called

theorem Dispatch.deliver_keeps (d : Dispatch σ η) (listeners : List η)
    (turns : ∀ listener ∈ listeners, Keeps I (d.turn listener)) : Keeps I (d.deliver listeners) := by
  induction listeners with
  | nil => exact keeps_pure _
  | cons listener rest ih =>
    refine (turns listener (by simp)).bind fun failure => ?_
    refine (ih fun other member => turns other (by simp [member])).bind fun failures => ?_
    exact keeps_pure _

/-- What the first turn establishes and the others keep holds after the dispatch. -/
theorem Dispatch.deliver_leads (d : Dispatch σ η) {listener : η} {rest : List η} {s : σ}
    (first : I ((d.turn listener).exec s).2) (turns : ∀ other ∈ rest, Keeps I (d.turn other)) :
    I ((d.deliver (listener :: rest)).exec s).2 := by
  unfold Dispatch.deliver
  exact leads_bind first fun _ => (d.deliver_keeps rest turns).bind fun _ => keeps_pure _

end

end ShotRecorder
