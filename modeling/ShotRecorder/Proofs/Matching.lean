import ShotRecorder.Dispatch

/-!
Computations side by side. Two computations match if, from related states, they end in related ways and leave
related states (`Run.Matches`), with one lemma for each way to make a computation. Where the first of them ends with
a fault that is waived, nothing is asked of the second.
What a listener does that is called may end in different ways, as long as neither way concerns anybody else: in
the turn of the listener the difference is lost (`Dispatch.turn_matches`).
-/
namespace ShotRecorder

section

variable {σ σ' ρ η α β γ δ : Type} {E : σ → σ' → Prop} {W : Fault → Prop} {R : α → β → Prop} {S : γ → δ → Prop}

namespace Run

/-- The same fault, or related values. -/
inductive Tallies (R : α → β → Prop) : Except Fault α → Except Fault β → Prop
  | value {a : α} {b : β} (related : R a b) : Tallies R (.ok a) (.ok b)
  | fault (fault : Fault) : Tallies R (.error fault) (.error fault)

theorem Tallies.eq {outcome outcome' : Except Fault α} (tallies : Tallies Eq outcome outcome') : outcome = outcome' := by
  cases tallies with
  | value related => rw [related]
  | fault fault => rfl

theorem tallies_refl (outcome : Except Fault α) : Tallies Eq outcome outcome := by
  cases outcome with
  | ok a => exact .value rfl
  | error fault => exact .fault fault

theorem Tallies.imp {R' : α → β → Prop} {outcome : Except Fault α} {outcome' : Except Fault β}
    (tallies : Tallies R outcome outcome') (weaker : ∀ a b, R a b → R' a b) : Tallies R' outcome outcome' := by
  cases tallies with
  | value related => exact .value (weaker _ _ related)
  | fault fault => exact .fault fault

/-- From related states, and unless the first of them ends with a fault that is waived, two computations end in
    related ways and leave related states. -/
def Matches (E : σ → σ' → Prop) (W : Fault → Prop) (O : Except Fault α → Except Fault β → Prop) (x : Run σ α)
    (y : Run σ' β) : Prop :=
  ∀ ⦃s t⦄, E s t → (∀ fault, (x.exec s).1 = .error fault → ¬ W fault) →
    O (x.exec s).1 (y.exec t).1 ∧ E (x.exec s).2 (y.exec t).2

variable {O : Except Fault α → Except Fault β → Prop} {Q : Except Fault γ → Except Fault δ → Prop}

theorem matches_pure {a : α} {b : β} (related : R a b) : Matches E W (Tallies R) (pure a) (pure b) :=
  fun _ _ alike _ => ⟨.value related,alike⟩

theorem matches_throw (fault : Fault) : Matches E W (Tallies R) (throw fault) (throw fault) :=
  fun _ _ alike _ => ⟨.fault fault,alike⟩

theorem matches_ofExcept (outcome : Except Fault α) :
    Matches E W (Tallies Eq) (ofExcept outcome) (ofExcept outcome) := by
  cases outcome with
  | ok a => exact matches_pure rfl
  | error fault => exact matches_throw fault

theorem Matches.mono {P : Except Fault α → Except Fault β → Prop} {x : Run σ α} {y : Run σ' β}
    (first : Matches E W O x y) (weaker : ∀ outcome outcome', O outcome outcome' → P outcome outcome') :
    Matches E W P x y := by
  intro s t alike asked
  obtain ⟨related,left⟩ := first alike asked
  exact ⟨weaker _ _ related,left⟩

/-- What comes after related values, however that may end. -/
theorem Matches.before {x : Run σ α} {y : Run σ' β} {f : α → Run σ γ} {g : β → Run σ' δ}
    (first : Matches E W (Tallies R) x y) (next : ∀ a b, R a b → Matches E W Q (f a) (g b))
    (faults : ∀ fault, Q (.error fault) (.error fault)) : Matches E W Q (x >>= f) (y >>= g) := by
  intro s t alike
  rw [exec_bind,exec_bind]
  have ends := first alike
  generalize x.exec s = ended,y.exec t = ended' at ends ⊢
  rcases ended with ⟨outcome,left⟩
  rcases ended' with ⟨outcome',left'⟩
  intro asked
  have asked' : ∀ fault, outcome = .error fault → ¬ W fault := by
    rintro fault rfl
    exact asked fault rfl
  obtain ⟨tallies,alike⟩ := ends asked'
  cases tallies with
  | value related => exact next _ _ related alike asked
  | fault fault => exact ⟨faults fault,alike⟩

theorem Matches.bind {x : Run σ α} {y : Run σ' β} {f : α → Run σ γ} {g : β → Run σ' δ}
    (first : Matches E W (Tallies R) x y) (next : ∀ a b, R a b → Matches E W (Tallies S) (f a) (g b)) :
    Matches E W (Tallies S) (x >>= f) (y >>= g) :=
  first.before next .fault

/-- What comes after the same value. -/
theorem Matches.next {x : Run σ α} {y : Run σ' α} {f : α → Run σ γ} {g : α → Run σ' δ}
    (first : Matches E W (Tallies Eq) x y) (next : ∀ a, Matches E W (Tallies S) (f a) (g a)) :
    Matches E W (Tallies S) (x >>= f) (y >>= g) := by
  refine first.bind ?_
  rintro a _ rfl
  exact next a

theorem Matches.map {x : Run σ α} {y : Run σ' β} (first : Matches E W (Tallies R) x y) {f : α → γ} {g : β → δ}
    (related : ∀ a b, R a b → S (f a) (g b)) : Matches E W (Tallies S) (f <$> x) (g <$> y) := by
  rw [map_eq_pure_bind,map_eq_pure_bind]
  exact first.bind fun a b held => matches_pure (related a b held)

theorem Matches.discard {x : Run σ α} {y : Run σ' β} (first : Matches E W (Tallies R) x y) :
    Matches E W (Tallies Eq) (Functor.discard x) (Functor.discard y) :=
  first.map fun _ _ _ => rfl

/-- What is made of the end of a computation, if faults that are waived are thrown again. -/
theorem Matches.attempted {x : Run σ α} {y : Run σ' β} {f : Except Fault α → Run σ γ}
    {g : Except Fault β → Run σ' δ} (first : Matches E W O x y)
    (rethrows : ∀ fault, W fault → f (.error fault) = throw fault)
    (next : ∀ outcome outcome', O outcome outcome' → Matches E W Q (f outcome) (g outcome')) :
    Matches E W Q (attempt x >>= f) (attempt y >>= g) := by
  intro s t alike
  rw [exec_bind,exec_bind,exec_attempt,exec_attempt]
  have ends := first alike
  generalize x.exec s = ended,y.exec t = ended' at ends ⊢
  rcases ended with ⟨outcome,left⟩
  rcases ended' with ⟨outcome',left'⟩
  dsimp only at ends ⊢
  intro asked
  have asked' : ∀ fault, outcome = .error fault → ¬ W fault := by
    rintro fault rfl waived
    exact asked fault (by rw [rethrows fault waived]; rfl) waived
  obtain ⟨related,alike⟩ := ends asked'
  exact next _ _ related alike asked

theorem matches_forM {ι : Type} {x : ι → Run σ Unit} {y : ι → Run σ' Unit}
    (each : ∀ i, Matches E W (Tallies Eq) (x i) (y i)) (items : List ι) :
    Matches E W (Tallies Eq) (items.forM x) (items.forM y) := by
  induction items with
  | nil => exact matches_pure rfl
  | cons item rest ih => exact (each item).next fun _ => ih

/-! ### Ends that make no difference -/

/-- A call that ended so concerns nobody but the listener. -/
def Held : Except Fault Unit → Prop
  | .ok () => True
  | .error fault => fault.isOrdinary = true

/-- Calls that ended so make no difference to what is done after them. -/
inductive Contained : Except Fault Unit → Except Fault Unit → Prop
  | held {outcome outcome' : Except Fault Unit} (first : Held outcome) (second : Held outcome') :
    Contained outcome outcome'
  | fault (fault : Fault) : Contained (.error fault) (.error fault)

theorem Contained.of_tallies {outcome outcome' : Except Fault Unit} (tallies : Tallies Eq outcome outcome') :
    Contained outcome outcome' := by
  cases tallies with
  | value related => exact .held trivial trivial
  | fault fault => exact .fault fault

/-- A computation that ends with a value and changes nothing at the core of a state. -/
def Quiet (core : σ → ρ) (x : Run σ α) : Prop :=
  ∀ s, (∃ a, (x.exec s).1 = .ok a) ∧ core (x.exec s).2 = core s

variable {core : σ → ρ}

theorem quiet_pure (a : α) : Quiet core (pure a : Run σ α) := fun _ => ⟨⟨a,rfl⟩,rfl⟩

theorem Quiet.map {x : Run σ α} (quiet : Quiet core x) (f : α → γ) : Quiet core (f <$> x) := by
  intro s
  obtain ⟨⟨a,ended⟩,left⟩ := quiet s
  simp [ended,left,Except.map]

theorem Quiet.bind {x : Run σ α} {f : α → Run σ γ} (quiet : Quiet core x) (next : ∀ a, Quiet core (f a)) :
    Quiet core (x >>= f) := by
  intro s
  obtain ⟨⟨a,ended⟩,left⟩ := quiet s
  rw [exec_bind]
  generalize x.exec s = after at ended left ⊢
  rcases after with ⟨outcome,middle⟩
  obtain rfl : outcome = .ok a := ended
  exact ⟨(next a middle).1,(next a middle).2.trans left⟩

theorem Quiet.matches {x : Run σ α} {y : Run σ β} (first : Quiet core x) (second : Quiet core y) :
    Matches (fun s t => core s = core t) W (Tallies fun _ _ => True) x y := by
  intro s t alike _
  obtain ⟨⟨a,ended⟩,left⟩ := first s
  obtain ⟨⟨b,ended'⟩,left'⟩ := second t
  refine ⟨?_,left.trans (alike.trans left'.symm)⟩
  rw [ended,ended']
  exact .value trivial

end Run

open Run

namespace Dispatch

/-- Deliveries match if the turns of all listeners do. -/
theorem deliver_matches {d : Dispatch σ η} {e : Dispatch σ' η} {G : Option Failure → Option Failure → Prop}
    {F : List Failure → List Failure → Prop} (none : F [] [])
    (more : ∀ {failure failure' found found'}, G failure failure' → F found found' →
      F (failure.toList ++ found) (failure'.toList ++ found'))
    (turns : ∀ listener, Matches E W (Tallies G) (d.turn listener) (e.turn listener)) (listeners : List η) :
    Matches E W (Tallies F) (d.deliver listeners) (e.deliver listeners) := by
  induction listeners with
  | nil => exact matches_pure none
  | cons listener rest ih =>
    exact (turns listener).bind fun _ _ failure => ih.bind fun _ _ found => matches_pure (more failure found)

/-- Turns match if calls end alike. -/
theorem turn_same {d : Dispatch σ η} {e : Dispatch σ' η} {listener : η}
    (waived : ∀ fault, W fault → fault.isOrdinary = false)
    (asked : Matches E W (Tallies Eq) (d.registered listener) (e.registered listener))
    (called : Matches E W (Tallies Eq) (d.call listener) (e.call listener))
    (reported : ∀ fault, Matches E W (Tallies Eq) (d.report listener fault) (e.report listener fault)) :
    Matches E W (Tallies Eq) (d.turn listener) (e.turn listener) := by
  refine asked.next fun registered => ?_
  cases registered with
  | false => exact matches_pure rfl
  | true =>
    refine called.attempted (fun fault member => by simp [waived fault member]) fun outcome outcome' tallies => ?_
    cases tallies with
    | value related => exact matches_pure rfl
    | fault fault =>
      dsimp only
      split
      · exact (reported fault).map fun _ _ same => congrArg some same
      · exact matches_throw fault

/-- What is contained in the turn of one listener does not show in the turn of the next. -/
theorem turn_matches {core : σ → ρ} {d e : Dispatch σ η} {listener : η}
    (waived : ∀ fault, W fault → fault.isOrdinary = false)
    (asked : Matches (fun s t => core s = core t) W (Tallies Eq) (d.registered listener) (e.registered listener))
    (called : Matches (fun s t => core s = core t) W Contained (d.call listener) (e.call listener))
    (reports : ∀ fault, Quiet core (d.report listener fault))
    (reports' : ∀ fault, Quiet core (e.report listener fault)) :
    Matches (fun s t => core s = core t) W (Tallies fun _ _ => True) (d.turn listener) (e.turn listener) := by
  refine asked.next fun registered => ?_
  cases registered with
  | false => exact matches_pure trivial
  | true =>
    refine called.attempted (fun fault member => by simp [waived fault member]) fun outcome outcome' contained => ?_
    cases contained with
    | held first second =>
      refine Quiet.matches ?_ ?_
      · cases outcome with
        | ok => exact quiet_pure _
        | error fault =>
          rw [Held] at first
          simpa [first] using (reports fault).map some
      · cases outcome' with
        | ok => exact quiet_pure _
        | error fault =>
          rw [Held] at second
          simpa [second] using (reports' fault).map some
    | fault fault =>
      dsimp only
      split
      · exact ((reports fault).map some).matches ((reports' fault).map some)
      · exact matches_throw fault

end Dispatch

end

end ShotRecorder
