/-!
# Registries of listeners

Who listens to which kind of signal, in the order of subscription. A listener is registered at most
once for a kind; one that leaves and comes back is at the end.
-/

namespace ShotRecorder

/-- The subscriptions, oldest first, none of them twice. -/
structure Registry (η : Type) where
  subscriptions : List (String × η) := []
  nodup : subscriptions.Nodup := by simp

namespace Registry

/-- A registry in which nobody is registered. -/
def empty {η : Type} : Registry η := {}

variable {η : Type} [DecidableEq η]

/-- Whether a listener is registered for a kind. -/
def has (r : Registry η) (kind : String) (listener : η) : Bool :=
  r.subscriptions.contains (kind, listener)

/-- A listener registered for a kind, if it is not yet. -/
def subscribe (r : Registry η) (kind : String) (listener : η) : Registry η :=
  if h : r.has kind listener then r
  else
    { subscriptions := r.subscriptions ++ [(kind, listener)]
      nodup := by
        have absent : (kind, listener) ∉ r.subscriptions := by simpa [has] using h
        refine List.nodup_append.mpr ⟨r.nodup, by simp, ?_⟩
        intro old member new isNew same
        rw [List.mem_singleton] at isNew
        exact absent (isNew ▸ same ▸ member) }

/-- A listener no longer registered for a kind. -/
def unsubscribe (r : Registry η) (kind : String) (listener : η) : Registry η :=
  { subscriptions := r.subscriptions.erase (kind, listener)
    nodup := r.nodup.sublist List.erase_sublist }

/-- The listeners of a kind, in order. -/
def listeners (r : Registry η) (kind : String) : List η :=
  r.subscriptions.filterMap fun (k, listener) => if k = kind then some listener else none

omit [DecidableEq η] in
@[simp] theorem listeners_empty (kind : String) : (empty : Registry η).listeners kind = [] := rfl

theorem mem_listeners {r : Registry η} {kind : String} {listener : η} :
    listener ∈ r.listeners kind ↔ r.has kind listener = true := by
  simp [listeners, has]

omit [DecidableEq η] in
/-- A listener is called at most once for a signal. -/
theorem nodup_listeners (r : Registry η) (kind : String) : (r.listeners kind).Nodup := by
  refine List.Pairwise.filterMap _ ?_ r.nodup
  intro (k, first) (k', second) different kept found kept' found'
  grind

theorem listeners_subscribe (r : Registry η) (k kind : String) (listener : η) :
    (r.subscribe k listener).listeners kind =
      if k = kind ∧ r.has k listener = false then r.listeners kind ++ [listener]
      else r.listeners kind := by
  unfold subscribe
  split
  · simp [*]
  · rename_i absent
    have new : r.has k listener = false := by simpa using absent
    by_cases same : k = kind
    · subst same
      simp [listeners, new]
    · simp [listeners, same]

theorem listeners_unsubscribe (r : Registry η) (k kind : String) (listener : η) :
    (r.unsubscribe k listener).listeners kind =
      if k = kind then (r.listeners kind).erase listener else r.listeners kind := by
  unfold unsubscribe listeners
  dsimp only
  induction r.subscriptions with
  | nil => simp
  | cons pair rest ih =>
    obtain ⟨k', other⟩ := pair
    by_cases found : k' = k ∧ other = listener
    · obtain ⟨rfl, rfl⟩ := found
      by_cases same : k' = kind <;> simp [same]
    · have kept : ((k', other) :: rest).erase (k, listener) = (k', other) :: rest.erase (k, listener) :=
        List.erase_cons_tail (by simpa using found)
      rw [kept, List.filterMap_cons, List.filterMap_cons, ih]
      by_cases here : k' = kind
      · by_cases same : k = kind
        · have different : other ≠ listener := fun equal => found ⟨here.trans same.symm, equal⟩
          simp [here, same, List.erase_cons_tail, different]
        · simp [here, same]
      · simp [here]

/-- How many listeners there are, of one kind or of all. -/
def count (r : Registry η) : Option String → Nat
  | some kind => (r.listeners kind).length
  | none => r.subscriptions.length

/-- The kinds that have a listener, in the order of their characters. -/
def kinds (r : Registry η) : List String :=
  (r.subscriptions.map Prod.fst).eraseDups.mergeSort fun a b => a ≤ b

end Registry

end ShotRecorder
