import ShotRecorder.Hub.Basic

/-!
# Accounts

What happens while a hub runs. A hub runs by itself, or in an account that also keeps every moment
of the run, with the hub as it was at that moment.
-/

namespace ShotRecorder

/-- Something that happens while a hub runs. -/
inductive Occurrence where
  /-- The signal at a place is published on a router. -/
  | publish (router place : Nat)
  /-- A listener is called with the signal at a place, which was published on a router. -/
  | call (listener : Listener) (router place : Nat)
  /-- An event of a producer is applied to the shots. -/
  | record (event : Event)
  /-- All shots are dropped. -/
  | clear
  /-- The timer is asked for a refresh. -/
  | request
  /-- A refresh begins to fire. -/
  | refresh

/-- An occurrence, with the hub as it was. -/
structure Moment (τ : Type) where
  occurrence : Occurrence
  hub : Hub τ

/-- A hub with the moments of its run, the last one first. -/
structure Account (τ : Type) where
  hub : Hub τ
  past : List (Moment τ) := []

/-- What a hub runs in. -/
class Host (σ : Type) (τ : outParam Type) where
  hub : σ → Hub τ
  /-- The hub replaced. -/
  put : σ → Hub τ → σ
  /-- An occurrence taken notice of. -/
  note : σ → Occurrence → σ

instance {τ : Type} : Host (Hub τ) τ where
  hub := id
  put _ hub := hub
  note hub _ := hub

instance {τ : Type} : Host (Account τ) τ where
  hub := Account.hub
  put account hub := { account with hub }
  note account occurrence :=
    { account with past := { occurrence, hub := account.hub } :: account.past }

namespace Hub

variable {σ τ : Type} [Host σ τ]

/-- The hub as it is now. -/
def look : Run σ (Hub τ) := return Host.hub (← get)

/-- Changes the hub. -/
def change (f : Hub τ → Hub τ) : Run σ Unit := modify fun s => Host.put s (f (Host.hub s))

/-- Takes notice of an occurrence. -/
def note (occurrence : Occurrence) : Run σ Unit := modify fun s => Host.note s occurrence

@[simp] theorem hub_account (account : Account τ) : Host.hub account = account.hub := rfl

@[simp] theorem put_account (account : Account τ) (hub : Hub τ) :
    Host.put account hub = { account with hub } := rfl

@[simp] theorem note_account (account : Account τ) (occurrence : Occurrence) :
    Host.note account occurrence =
      { account with past := { occurrence, hub := account.hub } :: account.past } := rfl

@[simp] theorem exec_look (s : σ) : (look : Run σ (Hub τ)).exec s = (.ok (Host.hub s), s) := rfl

@[simp] theorem exec_change (f : Hub τ → Hub τ) (s : σ) :
    (change f : Run σ Unit).exec s = (.ok (), Host.put s (f (Host.hub s))) := rfl

@[simp] theorem exec_note (occurrence : Occurrence) (s : σ) :
    (note occurrence : Run σ Unit).exec s = (.ok (), Host.note s occurrence) := rfl

end Hub

end ShotRecorder
