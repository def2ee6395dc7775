import ShotRecorder.Proofs.Aspects
import ShotRecorder.Proofs.Upheld

/-!
Keeping an account changes nothing: a run in an account ends as the run of the hub by itself, and
leaves the same hub (`afterAll_hub`). What is proved of the moments of an account is therefore true of
the runs that no account is kept of.
-/
namespace ShotRecorder

variable {τ α β : Type}

namespace Run

/-- What is done in an account ends as it does without one, and leaves the same hub. -/
def Agrees (x : Run (Account τ) α) (y : Run (Hub τ) α) : Prop :=
  ∀ account, y.exec account.hub = ((x.exec account).1,(x.exec account).2.hub)

theorem agrees_pure (a : α) : Agrees (pure a : Run (Account τ) α) (pure a) := fun _ => rfl

theorem agrees_throw (fault : Fault) : Agrees (throw fault : Run (Account τ) α) (throw fault) := fun _ => rfl

theorem Agrees.bind {x : Run (Account τ) α} {y : Run (Hub τ) α} {f : α → Run (Account τ) β} {g : α → Run (Hub τ) β}
    (first : Agrees x y) (next : ∀ a, Agrees (f a) (g a)) : Agrees (x >>= f) (y >>= g) := by
  intro account
  rw [exec_bind,exec_bind,first account]
  rcases x.exec account with ⟨outcome,left⟩
  cases outcome with
  | ok a => exact next a left
  | error fault => rfl

theorem Agrees.discard {x : Run (Account τ) α} {y : Run (Hub τ) α} (same : Agrees x y) :
    Agrees (Functor.discard x) (Functor.discard y) := by
  intro account
  simp [same account]

end Run

open Run

/-- The whole of hubs and replies. -/
def Aspect.whole : Aspect τ where
  log := id
  seen := id
  reply := id
  told _ _ _ := rfl
  called _ _ _ _ := rfl
  timed _ _ _ := rfl
  did _ _ _ := rfl

namespace Hub

/-- The hub of an account is a hub. -/
def IsHubOf (account : Account τ) (hub : Hub τ) : Prop := account.hub = hub

theorem beside_whole : (Aspect.whole (τ := τ)).Beside IsHubOf where
  hubs same := congrArg Aspect.whole.hub same
  put _ same := same
  noted _ same := same

theorem agrees_iff {x : Run (Account τ) α} {y : Run (Hub τ) α} :
    Agrees x y ↔ Matches IsHubOf (fun _ => False) (Tallies Eq) x y := by
  constructor
  · rintro agrees account _ rfl -
    rw [agrees account]
    exact ⟨tallies_refl _,rfl⟩
  · intro same account
    obtain ⟨tallies,left⟩ := same (rfl : IsHubOf account account.hub) fun _ _ => id
    exact Prod.ext tallies.eq.symm left.symm

theorem agrees_forM {ι : Type} {x : ι → Run (Account τ) Unit} {y : ι → Run (Hub τ) Unit}
    (each : ∀ i, Agrees (x i) (y i)) (items : List ι) : Agrees (items.forM x) (items.forM y) :=
  agrees_iff.mpr (matches_forM (fun i => agrees_iff.mp (each i)) items)

theorem agrees_look : Agrees (look : Run (Account τ) (Hub τ)) look := fun _ => rfl

variable [Clock τ]

theorem agrees_notify : Agrees (notify : Run (Account τ) Bool) notify := agrees_iff.mpr beside_whole.notify

section

variable {cast : Cast τ} {performer : Performer (Account τ) τ} {alone : Performer (Hub τ) τ}
  (performed : ∀ context actions, Agrees (performer context actions) (alone context actions))
include performed

theorem partners_whole : Aspect.whole.Partners IsHubOf (fun _ => False) cast cast performer alone where
  beside := beside_whole
  waived _ never := never.elim
  performed context actions := agrees_iff.mp (performed context actions)
  published router place := by
    have turns : ∀ router kind place listener, Matches IsHubOf (fun _ => False) (Tallies Eq)
        ((dispatch cast performer router kind place).turn listener)
        ((dispatch cast alone router kind place).turn listener) := by
      intro router kind place listener
      refine Dispatch.turn_same (fun _ never => never.elim) (beside_whole.registered router kind place listener) ?_ ?_
      · refine (beside_whole.note _).next fun _ => beside_whole.call (fun _ _ => id) ?_ place listener
        intro name place count
        cases cast.lookup name with
        | none => exact matches_pure rfl
        | some observer => exact agrees_iff.mp (performed _ _)
      · exact fun fault => beside_whole.changed (fun _ => rfl) (matches_pure rfl)
    have same := beside_whole.publishAt rfl (fun turned more => by rw [turned,more]) turns router place
    exact same.mono fun _ _ tallies => tallies.imp fun _ _ equal => congrArg Reply.failures equal

theorem agrees_act (context : Option Nat) (action : Action τ) :
    Agrees (act cast performer context action) (act cast alone context action) :=
  agrees_iff.mpr ((partners_whole performed).act context action)

end

theorem agrees_perform (cast : Cast τ) (depth : Nat) (context : Option Nat) (actions : List (Action τ)) :
    Agrees (perform cast depth context actions : Run (Account τ) Unit) (perform cast depth context actions) := by
  induction depth generalizing context actions with
  | zero =>
    cases actions with
    | nil => exact agrees_pure _
    | cons action rest => exact agrees_throw _
  | succ depth ih =>
    rw [perform_succ,perform_succ]
    exact agrees_iff.mpr (matches_forM ((partners_whole ih).actSeen context) actions)

/-- A run in an account leaves the hub that the run without one leaves. -/
theorem afterAll_hub (cast : Cast τ) (depth : Nat) (actions : List (Action τ)) (account : Account τ) :
    (afterAll cast depth actions account).hub = afterAll cast depth actions account.hub := by
  induction actions generalizing account with
  | nil => rfl
  | cons action rest ih =>
    have same : Agrees (act cast (perform cast depth) none action) (act cast (perform cast depth) none action) :=
      agrees_act (agrees_perform cast depth) none action
    refine (ih _).trans ?_
    simp only [afterAll,List.foldl_cons,same account]

end Hub

end ShotRecorder
