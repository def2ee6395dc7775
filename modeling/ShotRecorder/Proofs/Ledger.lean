import Mathlib.Data.List.ModifyLast
import ShotRecorder.Proofs.Attention
import ShotRecorder.Proofs.RegistryHistory

/-!
The wiring of a hub told by what was done with it. Observers leave a sighting of each action that ended well
(`Sighting.did`), and the actions of whoever handles the hub can be written down in the same way (`doings`). A ledger is
what these notes say of the registries, of the subscriptions that are kept and of the recorder's router (`Ledger`), by
recursion over the notes alone. One action enters the ledger just as it rewires the hub (`exec_act_rewires`), so that at
every moment the hub is wired as the ledger says, and every answer was right when it was given (`Traced`).
-/
namespace ShotRecorder

/-- What was done to registries, which subscriptions are kept, and where the recorder is attached. -/
structure Ledger where
  /-- The changes with the routers they were made to, oldest first. -/
  changes : List (Nat × Registry.Change Listener) := []
  kept : List (String × Subscription) := []
  attachedTo : Option Nat := none

namespace Ledger

variable {τ : Type}

/-- Those changes that were made to the registry of one router. -/
def changesOn (changes : List (Nat × Registry.Change Listener)) (router : Nat) : List (Registry.Change Listener) :=
  changes.filterMap fun (r,change) => if r = router then some change else none

def on (ledger : Ledger) (router : Nat) : List (Registry.Change Listener) := changesOn ledger.changes router

/-- The recorder joins or leaves all kinds of producers' events on a router. -/
def moves (joins : Bool) (router : Nat) : List (Nat × Registry.Change Listener) :=
  ((Kind.producers.map Kind.name).map fun kind => ⟨kind,.recorder,joins⟩).map fun change => (router,change)

/-- The ledger after an action that ended well. -/
def enter (ledger : Ledger) : Action τ → Ledger
  | .subscribe kind listener router token =>
    { ledger with
      changes := ledger.changes ++ [(router,⟨kind,listener,true⟩)]
      kept := match token with
        | some name => (name,{ kind, listener, router }) :: ledger.kept.filter (·.1 != name)
        | none => ledger.kept }
  | .unsubscribe kind listener router =>
    { ledger with changes := ledger.changes ++ [(router,⟨kind,listener,false⟩)] }
  | .cancel token =>
    match ledger.kept.lookup token with
    | some s => { ledger with changes := ledger.changes ++ [(s.router,⟨s.kind,s.listener,false⟩)] }
    | none => ledger
  | .attach router =>
    { ledger with
      changes := ledger.changes ++ (ledger.attachedTo.toList.flatMap (moves false) ++ moves true router)
      attachedTo := some router }
  | .detach =>
    { ledger with
      changes := ledger.changes ++ ledger.attachedTo.toList.flatMap (moves false)
      attachedTo := none }
  | _ => ledger

/-- The ledger after something was seen, which counts just if it is an action. -/
def read (ledger : Ledger) : Sighting τ → Ledger
  | .did action _ => ledger.enter action
  | _ => ledger

def readAll (ledger : Ledger) (sightings : List (Sighting τ)) : Ledger := sightings.foldl read ledger

/-- One more change to the registries of routers. -/
def rewire (routers : List (Registry Listener)) (change : Nat × Registry.Change Listener) : List (Registry Listener) :=
  routers.modify change.1 (·.apply change.2)

/-- The wiring of a hub that started as another one. -/
def wiring (ledger : Ledger) (start : Hub τ) : Hub.Wiring :=
  (ledger.changes.foldl rewire start.routers,ledger.kept,start.recorder.map fun _ => ledger.attachedTo)

theorem readAll_append (ledger : Ledger) (earlier later : List (Sighting τ)) :
    ledger.readAll (earlier ++ later) = (ledger.readAll earlier).readAll later := List.foldl_append

theorem changesOn_append (earlier later : List (Nat × Registry.Change Listener)) (router : Nat) :
    changesOn (earlier ++ later) router = changesOn earlier router ++ changesOn later router := List.filterMap_append

theorem enter_of_plain (ledger : Ledger) {action : Action τ} (plain : action.rewires = false) :
    ledger.enter action = ledger := by
  cases action <;> first | rfl | simp [Action.rewires] at plain

/-- Changes to one router, one after the other. -/
theorem foldl_rewire (changes : List (Registry.Change Listener)) (router : Nat) (routers : List (Registry Listener)) :
    (changes.map fun change => (router,change)).foldl rewire routers = routers.modify router (·.applyAll changes) := by
  induction changes using List.reverseRecOn with
  | nil => exact (List.modify_id router routers).symm
  | append_singleton changes change ih =>
    rw [List.map_append,List.foldl_append,ih]
    unfold Registry.applyAll
    simp only [List.map_cons,List.map_nil,List.foldl_cons,List.foldl_nil,rewire,List.modify_modify_eq,
      List.foldl_append]
    rfl

theorem length_rewire (changes : List (Nat × Registry.Change Listener)) (routers : List (Registry Listener)) :
    (changes.foldl rewire routers).length = routers.length := by
  induction changes using List.reverseRecOn with
  | nil => rfl
  | append_singleton changes change ih => simp [rewire,ih]

/-- The registry of a router is what the changes made to that router have made of it. -/
theorem registry_of_told {ledger : Ledger} {start hub : Hub τ} (told : hub.wiring = ledger.wiring start) {router : Nat}
    (inside : router < start.routers.length) :
    hub.registry router = (start.registry router).applyAll (ledger.on router) := by
  have routers : hub.routers = ledger.changes.foldl rewire start.routers := congrArg Prod.fst told
  unfold Hub.registry on changesOn
  rw [routers]
  induction ledger.changes using List.reverseRecOn with
  | nil => rfl
  | append_singleton changes change ih =>
    obtain ⟨r,change⟩ := change
    have inside' : router < (changes.foldl rewire start.routers).length := by rwa [length_rewire]
    simp only [List.getD_eq_getElem?_getD] at ih
    simp only [List.foldl_append,List.foldl_cons,List.foldl_nil,List.filterMap_append,rewire,
      List.getD_eq_getElem?_getD,List.getElem?_modify]
    by_cases same : r = router
    · simp [same,inside'] at ih ⊢
      simp [ih,Registry.applyAll]
    · simp [same,ih]

theorem length_of_told {ledger : Ledger} {start hub : Hub τ} (told : hub.wiring = ledger.wiring start) :
    hub.routers.length = start.routers.length := by
  have routers : hub.routers = ledger.changes.foldl rewire start.routers := congrArg Prod.fst told
  rw [routers,length_rewire]

end Ledger

namespace Hub
open Run Ledger

variable {τ : Type}

/-- What an action answers that takes somebody off a registry or asks who is registered. -/
def Answers (hub : Hub τ) : Action τ → Reply τ → Prop
  | .unsubscribe kind listener router,reply => reply = .truth ((hub.registry router).has kind listener)
  | .cancel token,reply => ∃ s, hub.subscriptions.lookup token = some s ∧
      reply = .truth ((hub.registry s.router).has s.kind s.listener)
  | .countListeners kind router,reply => reply = .number ((hub.registry router).count kind)
  | .listKinds router,reply => reply = .names (hub.registry router).kinds
  | _,_ => True

theorem wiring_detached {hub : Hub τ} {recorder : Recorder} (present : hub.recorder = some recorder) :
    hub.detached.wiring =
      ((recorder.router.toList.flatMap (moves false)).foldl rewire hub.routers,hub.subscriptions,some none) := by
  unfold detached
  cases attachedTo : recorder.router with
  | none => simp [present,attachedTo,wiring]
  | some router =>
    have left := foldl_rewire ((Kind.producers.map Kind.name).map fun kind => ⟨kind,.recorder,false⟩) router hub.routers
    simp only [present,attachedTo,wiring,Option.toList_some,List.flatMap_cons,List.flatMap_nil,List.append_nil,moves,
      left]
    rfl

theorem wiring_attached {hub : Hub τ} {recorder : Recorder} (present : hub.recorder = some recorder) (router : Nat) :
    (hub.attached router).wiring =
      ((recorder.router.toList.flatMap (moves false) ++ moves true router).foldl rewire hub.routers,hub.subscriptions,
        some (some router)) := by
  have off := wiring_detached present
  simp only [wiring,Prod.mk.injEq] at off
  obtain ⟨routers,kept,free⟩ := off
  have on := foldl_rewire ((Kind.producers.map Kind.name).map fun kind => ⟨kind,.recorder,true⟩) router
    hub.detached.routers
  obtain ⟨recorder',present',-⟩ := Option.map_eq_some_iff.mp free
  rw [List.foldl_append,← routers]
  simp only [attached,wiring,subscribed,onRouter,moves,on,present']
  exact congrArg₂ Prod.mk rfl (congrArg₂ Prod.mk kept rfl)

variable [Clock τ]

/-- An action that rewires the hub either fails and leaves all as it was, or enters the ledger. -/
theorem exec_act_rewires (cast : Cast τ) (performer : Performer (Account τ) τ) (context : Option Nat)
    {action : Action τ} (rewires : action.rewires = true) {start : Hub τ} {ledger : Ledger} {account : Account τ}
    (told : account.hub.wiring = ledger.wiring start) :
    (∃ fault, (act cast performer context action).exec account = (.error fault,account)) ∨
    ∃ reply hub, (act cast performer context action).exec account = (.ok reply,{ account with hub }) ∧
      hub.wiring = (ledger.enter action).wiring start ∧ hub.seen = account.hub.seen ∧
      hub.signals = account.hub.signals ∧ account.hub.Answers action reply := by
  have parts := told
  simp only [Hub.wiring,Ledger.wiring,Prod.mk.injEq] at parts
  obtain ⟨routers,kept,attachedTo⟩ := parts
  cases action with
  | subscribe kind listener router token =>
    refine .inr ⟨_,_,rfl,?_,?_,?_,trivial⟩
    · cases token with
      | none => simp [Hub.wiring,Ledger.wiring,onRouter,keeping,enter,rewire,Registry.apply,← routers,kept,attachedTo]
      | some name =>
        simp [Hub.wiring,Ledger.wiring,onRouter,keeping,enter,rewire,Registry.apply,← routers,kept,attachedTo]
    · cases token <;> rfl
    · cases token <;> rfl
  | unsubscribe kind listener router =>
    refine .inr ⟨_,_,rfl,?_,rfl,rfl,rfl⟩
    simp [Hub.wiring,Ledger.wiring,onRouter,enter,rewire,Registry.apply,← routers,kept,attachedTo]
  | cancel token =>
    unfold act
    rw [exec_bind,exec_look]
    dsimp only [hub_account]
    cases found : account.hub.subscriptions.lookup token with
    | none => exact .inl ⟨_,rfl⟩
    | some s =>
      refine .inr ⟨_,_,rfl,?_,rfl,rfl,s,found,rfl⟩
      rw [kept] at found
      simp [Hub.wiring,Ledger.wiring,onRouter,enter,found,rewire,Registry.apply,← routers,kept,attachedTo]
  | attach router =>
    unfold act
    rw [exec_bind,exec_look]
    dsimp only [hub_account]
    cases present : account.hub.recorder with
    | none =>
      refine .inl ⟨.missingPart,?_⟩
      simp [capturing,present]
    | some recorder =>
      obtain ⟨_,frame⟩ := attached_frame account.hub router
      rw [present] at attachedTo
      obtain ⟨first,began,here⟩ := Option.map_eq_some_iff.mp attachedTo.symm
      refine .inr ⟨.names (Kind.producers.map Kind.name),account.hub.attached router,?_,?_,?_,?_,trivial⟩
      · simp [capturing,present,Except.map]
      · rw [wiring_attached present router]
        simp [Ledger.wiring,enter,routers,kept,began,here]
      · rw [frame]
      · rw [frame]
  | detach =>
    unfold act
    rw [exec_bind,exec_look]
    dsimp only [hub_account]
    cases present : account.hub.recorder with
    | none =>
      refine .inl ⟨.missingPart,?_⟩
      simp [capturing,present]
    | some recorder =>
      obtain ⟨_,frame⟩ := detached_frame account.hub
      rw [present] at attachedTo
      obtain ⟨first,began,here⟩ := Option.map_eq_some_iff.mp attachedTo.symm
      refine .inr ⟨.nothing,account.hub.detached,?_,?_,?_,?_,trivial⟩
      · simp only [capturing,present,Option.isSome_some,↓reduceIte,exec_bind,exec_change]
        rfl
      · rw [wiring_detached present]
        simp [Ledger.wiring,enter,routers,kept,began,here]
      · rw [frame]
      · rw [frame]
  | _ => simp [Action.rewires] at rewires

/-- An action that rewires nothing and answers who is registered tells so of the hub that it leaves. -/
theorem answers_of_plain (cast : Cast τ) (performer : Performer (Account τ) τ) (context : Option Nat)
    {action : Action τ} (plain : action.rewires = false) {account left : Account τ} {reply : Reply τ}
    (ran : (act cast performer context action).exec account = (.ok reply,left)) : left.hub.Answers action reply := by
  cases action with
  | countListeners kind router =>
    cases ran
    rfl
  | listKinds router =>
    cases ran
    rfl
  | unsubscribe _ _ _ => simp [Action.rewires] at plain
  | cancel _ => simp [Action.rewires] at plain
  | _ => trivial

/-! ### What was seen -/

/-- If something that was seen is an answer, it is right for a hub that is wired as a ledger says. -/
def Right (start : Hub τ) (ledger : Ledger) : Sighting τ → Prop
  | .did action reply => ∃ hub : Hub τ, hub.wiring = ledger.wiring start ∧ hub.Answers action reply
  | _ => True

/-- Every answer that was seen was right when it was given. -/
def Honest (start : Hub τ) : Ledger → List (Sighting τ) → Prop
  | _,[] => True
  | ledger,sighting :: rest => Right start ledger sighting ∧ Honest start (ledger.read sighting) rest

section
omit [Clock τ]

theorem honest_append {start : Hub τ} {ledger : Ledger} {earlier later : List (Sighting τ)} :
    Honest start ledger (earlier ++ later) ↔
      Honest start ledger earlier ∧ Honest start (ledger.readAll earlier) later := by
  induction earlier generalizing ledger with
  | nil => simp [Honest,readAll]
  | cons sighting rest ih =>
    simp only [List.cons_append,Honest,ih,and_assoc]
    rfl

/-- Where a ledger told how a hub was wired, it does so later once all is read that was seen since, and the answers were
    right. -/
structure Traced (start : Hub τ) (ledger : Ledger) (began hub : Hub τ) : Prop where
  natures : ∀ place nature, began.natureAt place = some nature → hub.natureAt place = some nature
  told : ∃ fresh, hub.seen.toList = began.seen.toList ++ fresh ∧
    hub.wiring = (ledger.readAll fresh).wiring start ∧ Honest start ledger fresh

variable {start began hub : Hub τ} {ledger : Ledger}

theorem Traced.refl (told : hub.wiring = ledger.wiring start) : Traced start ledger hub hub where
  natures _ _ found := found
  told := ⟨[],by simp,told,trivial⟩

/-- Something was seen, after which the ledger still tells how the hub is wired. -/
theorem Traced.saw (traced : Traced start ledger began hub) {later : Hub τ} {sighting : Sighting τ}
    (sees : later.seen = hub.seen.push sighting) (signals : later.signals = hub.signals)
    (next : ∀ ledger : Ledger, hub.wiring = ledger.wiring start →
      later.wiring = (ledger.read sighting).wiring start ∧ Right start ledger sighting) :
    Traced start ledger began later := by
  obtain ⟨fresh,same,told,honest⟩ := traced.told
  obtain ⟨told',right⟩ := next _ told
  refine ⟨fun place nature found => ?_,fresh ++ [sighting],by simp [sees,same],?_,?_⟩
  · rw [natureAt,signals]
    exact traced.natures place nature found
  · rwa [readAll_append]
  · exact honest_append.mpr ⟨honest,right,trivial⟩

theorem attentive_traced (start : Hub τ) (ledger : Ledger) (began : Hub τ) : Attentive (Traced start ledger began) where
  unmoved unmoved traced := by
    obtain ⟨fresh,same,told,honest⟩ := traced.told
    refine ⟨fun place nature found => ?_,fresh,unmoved.seen ▸ same,unmoved.wiring ▸ told,honest⟩
    exact unmoved.natures place nature (traced.natures place nature found)
  called name signal view traced := traced.saw rfl rfl fun _ told => ⟨told,trivial⟩
  timed label view traced := traced.saw rfl rfl fun _ told => ⟨told,trivial⟩

end

/-- A property holds throughout what an action did, once the action is noted if it ended well. -/
def Noted (P : Hub τ → Prop) (action : Action τ) : Except Fault (Reply τ) × Account τ → Prop
  | (.ok reply,left) =>
    Throughout P { left with hub := left.hub.saw (.did action reply) } ∧ (isSeen action = false → Throughout P left)
  | (.error _,left) => Throughout P left

section

variable {start began : Hub τ} {ledger : Ledger} (cast : Cast τ) {performer : Performer (Account τ) τ}
  (performed : ∀ context actions, Keeps (Throughout (Traced start ledger began)) (performer context actions))
  (context : Option Nat) (action : Action τ) {account : Account τ}
  (held : Throughout (Traced start ledger began) account)
include performed held

/-- An action that ends well leaves a hub that is wired as the ledger says once the action is noted; one that fails
    leaves what observers did until then, and they have noted it. -/
theorem act_traced :
    Noted (Traced start ledger began) action ((act cast performer context action).exec account) := by
  cases rewires : action.rewires with
  | false =>
    have kept : Throughout (Traced start ledger began) ((act cast performer context action).exec account).2 :=
      (attentive_traced start ledger began).act cast performed context action rewires account held
    rcases ran : (act cast performer context action).exec account with ⟨outcome,left⟩
    rw [ran] at kept
    cases outcome with
    | error fault => exact kept
    | ok reply =>
      have answers := answers_of_plain cast performer context rewires ran
      refine ⟨⟨kept.1.saw rfl rfl fun ledger told => ⟨?_,left.hub,told,answers⟩,kept.2⟩,fun _ => kept⟩
      exact told.trans (congrArg (Ledger.wiring · start) (enter_of_plain ledger rewires).symm)
  | true =>
    obtain ⟨fresh,-,told,-⟩ := held.1.told
    rcases exec_act_rewires cast performer context rewires told with ⟨fault,ran⟩ | ⟨reply,hub,ran,-,seen,signals,-⟩
    · rw [ran]
      exact held
    · rw [ran]
      have sees : (hub.saw (.did action reply)).seen = account.hub.seen.push (.did action reply) :=
        congrArg (Array.push · (Sighting.did action reply)) seen
      -- Which ledger tells the hub is only known to be one, so the step is told again for whichever it is.
      refine ⟨⟨held.1.saw sees signals fun ledger told => ?_,held.2⟩,fun unseen => ?_⟩
      · rcases exec_act_rewires cast performer context rewires told with ⟨_,failed⟩ | ⟨_,_,ran',rewired,-,-,answers⟩
        · simp [ran] at failed
        · obtain ⟨same,rest⟩ := Prod.mk.inj (ran.symm.trans ran')
          cases same
          cases rest
          exact ⟨rewired,account.hub,told,answers⟩
      · cases action <;> simp [isSeen,Action.rewires] at unseen rewires

theorem actSeen_traced :
    Throughout (Traced start ledger began) ((actSeen cast performer context action).exec account).2 := by
  have acted := act_traced cast performed context action held
  unfold actSeen
  rw [exec_bind]
  rcases ran : (act cast performer context action).exec account with ⟨outcome,left⟩
  rw [ran] at acted
  cases outcome with
  | error fault => exact acted
  | ok reply =>
    dsimp only
    split
    · exact acted.1
    · rename_i unseen
      exact acted.2 (by simpa using unseen)

end

/-- Whatever observers do, the ledger tells at every moment how the hub is wired. -/
theorem perform_traced (start : Hub τ) (ledger : Ledger) (began : Hub τ) (cast : Cast τ) (depth : Nat)
    (context : Option Nat) (actions : List (Action τ)) :
    Keeps (Throughout (Traced start ledger began)) (perform cast depth context actions) := by
  induction depth generalizing context actions with
  | zero =>
    cases actions with
    | nil => exact keeps_pure _
    | cons action rest => exact keeps_throw _
  | succ depth ih =>
    rw [perform_succ]
    induction actions with
    | nil => exact keeps_pure _
    | cons action rest next =>
      exact Keeps.bind (fun _ held => actSeen_traced cast ih context action held) fun _ => next

/-! ### Whole runs -/

section
omit [Clock τ]

/-- What was seen since. -/
def since (earlier later : Hub τ) : List (Sighting τ) := later.seen.toList.drop earlier.seen.size

theorem Traced.since {start hub later : Hub τ} {ledger : Ledger} (traced : Traced start ledger hub later) :
    later.wiring = (ledger.readAll (hub.since later)).wiring start ∧ Honest start ledger (hub.since later) := by
  obtain ⟨fresh,same,told,honest⟩ := traced.told
  have all : hub.since later = fresh := by simp [Hub.since,same]
  exact all ▸ ⟨told,honest⟩

end

/-- All that is done in a run, in order: what is seen while an action from outside is done, and then that action, if it
    ends well, as if it were an observer's. -/
def doings (cast : Cast τ) (depth : Nat) : List (Action τ) → Hub τ → List (Sighting τ)
  | [],_ => []
  | action :: rest,hub =>
    match (act cast (perform cast depth) none action).exec hub with
    | (.ok reply,left) => hub.since (left.saw (.did action reply)) ++ doings cast depth rest left
    | (.error _,left) => hub.since left ++ doings cast depth rest left

section

variable (cast : Cast τ) (depth : Nat) {start : Hub τ}

/-- After a run the hub is wired as the notes of the run say, and every answer was right when it was given. -/
theorem afterAll_told (actions : List (Action τ)) {ledger : Ledger} {hub : Hub τ}
    (told : hub.wiring = ledger.wiring start) :
    (afterAll cast depth actions hub).wiring = (ledger.readAll (doings cast depth actions hub)).wiring start ∧
      Honest start ledger (doings cast depth actions hub) := by
  induction actions generalizing ledger hub with
  | nil => exact ⟨told,trivial⟩
  | cons action rest ih =>
    have began : Throughout (Traced start ledger hub) { hub } := ⟨.refl told,by simp⟩
    have acted := act_traced cast (perform_traced start ledger hub cast depth) none action began
    -- Moments are noted in an account only, and the run without one is the same.
    have same : (act cast (perform cast depth) none action).exec hub = _ :=
      agrees_act (agrees_perform cast depth) none action ⟨hub,[]⟩
    rcases ran : (act cast (perform cast depth) none action).exec (⟨hub,[]⟩ : Account τ) with ⟨outcome,left⟩
    rw [ran] at acted same
    have next : afterAll cast depth (action :: rest) hub = afterAll cast depth rest left.hub := by
      simp only [afterAll,List.foldl_cons,same]
    unfold doings
    rw [next,same]
    cases outcome with
    | error fault =>
      obtain ⟨told',honest⟩ := acted.1.since
      obtain ⟨last,honest'⟩ := ih told'
      exact ⟨readAll_append .. ▸ last,honest_append.mpr ⟨honest,honest'⟩⟩
    | ok reply =>
      obtain ⟨told',honest⟩ := acted.1.1.since
      obtain ⟨last,honest'⟩ := @ih _ left.hub told'
      exact ⟨readAll_append .. ▸ last,honest_append.mpr ⟨honest,honest'⟩⟩

/-- So it is at every moment of an action. -/
theorem moment_told (action : Action τ) {ledger : Ledger} {hub : Hub τ} (told : hub.wiring = ledger.wiring start)
    {moment : Moment τ}
    (member : moment ∈ ((act cast (perform cast depth) none action).exec (⟨hub,[]⟩ : Account τ)).2.past) :
    moment.hub.wiring = (ledger.readAll (hub.since moment.hub)).wiring start := by
  have began : Throughout (Traced start ledger hub) { hub } := ⟨.refl told,by simp⟩
  have acted := act_traced cast (perform_traced start ledger hub cast depth) none action began
  rcases ran : (act cast (perform cast depth) none action).exec (⟨hub,[]⟩ : Account τ) with ⟨outcome,left⟩
  rw [ran] at acted member
  cases outcome with
  | error fault => exact (acted.2 moment member).since.1
  | ok reply => exact (acted.1.2 moment member).since.1

end

end Hub

end ShotRecorder
