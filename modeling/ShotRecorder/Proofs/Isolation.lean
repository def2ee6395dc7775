import Mathlib.Data.List.Forall2
import ShotRecorder.Proofs.Accounts

/-!
What an observer raises at the end of its call stays with it. Two casts are compared in which every observer
does the same whenever it is called, and then returns or raises an ordinary fault, not necessarily alike. Runs
with the one and with the other call the same listeners with the same signals, and after every step they leave
the same hub up to what tells of failures (`failures_stay_isolated`). The runs are compared in accounts and up to
`Account.muted`. That one observer raises what the other does not is contained in its call (`call_contained`), so
that publishing matches, and with it all that publishes, at whatever depth (`Companions.partners`).
-/
namespace ShotRecorder

open Run

variable {τ α : Type}

/-- A reply without the failures it may list. -/
def Reply.muted : Reply τ → Reply τ
  | .failures _ => .failures []
  | reply => reply

theorem Reply.muted_of_tallies {outcome outcome' : Except Fault (Reply τ)}
    (tallies : Tallies (fun reply reply' => reply.muted = reply'.muted) outcome outcome') :
    outcome.map Reply.muted = outcome'.map Reply.muted := by
  cases tallies with
  | value muted => exact congrArg Except.ok muted
  | fault fault => rfl

/-- What was seen, without the failures that were answered. -/
def Sighting.muted : Sighting τ → Sighting τ
  | .did action reply => .did action reply.muted
  | sighting => sighting

/-- A hub without what tells of failures: the lines of the log about them, and the lists of them that were
    answered. -/
def Hub.muted (hub : Hub τ) : Hub τ :=
  { hub with log := hub.log.filter (·.fault.isNone), seen := hub.seen.map Sighting.muted }

def Moment.muted (moment : Moment τ) : Moment τ := { moment with hub := moment.hub.muted }

def Account.muted (account : Account τ) : Account τ :=
  { hub := account.hub.muted, past := account.past.map Moment.muted }

/-- What an observer can do last without being noticed by others: nothing, or raise an ordinary fault. -/
inductive Parting : List (Action τ) → Prop
  | returns : Parting []
  | raises (fault : Fault) (ordinary : fault.isOrdinary = true) : Parting [.raise fault]

/-- Two observers that do the same whenever they are called, and then return or raise something. -/
def Observer.Parts (observer observer' : Observer τ) : Prop :=
  ∀ n, ∃ actions last last', Parting last ∧ Parting last' ∧
    observer.script n = actions ++ last ∧ observer'.script n = actions ++ last'

/-- Two casts of observers that differ in how their calls end only. -/
def Cast.Parts (cast cast' : Cast τ) : Prop :=
  List.Forall₂ (fun pair pair' => pair.1 = pair'.1 ∧ pair.2.Parts pair'.2) cast cast'

theorem Cast.Parts.refl (cast : Cast τ) : Cast.Parts cast cast := by
  refine List.forall₂_same.mpr fun pair _ => ⟨rfl,fun n => ?_⟩
  exact ⟨pair.2.script n,[],[],.returns,.returns,by simp,by simp⟩

theorem Cast.Parts.lookup {cast cast' : Cast τ} (parts : Cast.Parts cast cast') (name : String) :
    Option.Rel Observer.Parts (cast.lookup name) (cast'.lookup name) := by
  induction parts with
  | nil => exact .none
  | @cons first first' _ _ same rest ih =>
    rcases first with ⟨called,observer⟩
    rcases first' with ⟨called',observer'⟩
    obtain ⟨rfl,parts⟩ : called = called' ∧ observer.Parts observer' := same
    rw [List.lookup_cons,List.lookup_cons]
    split
    · exact .some parts
    · exact ih

/-- What is left of hubs and replies without what tells of failures. -/
def Aspect.muted : Aspect τ where
  log := fun lines => lines.filter (·.fault.isNone)
  seen := fun sightings => sightings.map Sighting.muted
  reply := Reply.muted
  told _ _ _ := by simp
  called _ _ _ _ := by simp [Sighting.muted]
  timed _ _ _ := by simp [Sighting.muted]
  did _ _ _ := by simp [Sighting.muted]

/-- Two accounts that are the same up to what tells of failures. -/
abbrev Account.Echoes (account account' : Account τ) : Prop := account.muted = account'.muted

theorem Account.Echoes.past {account account' : Account τ} (echoes : account.Echoes account') :
    account.past.map Moment.muted = account'.past.map Moment.muted := congrArg Account.past echoes

namespace Hub

/-- Two computations in accounts that match up to what tells of failures. -/
abbrev Alike {β : Type} (O : Except Fault α → Except Fault β → Prop) (x : Run (Account τ) α)
    (y : Run (Account τ) β) : Prop :=
  Matches Account.Echoes (· = .unfinished) O x y

/-- What cannot be finished need not be compared. -/
theorem alike_unfinished {β : Type} {O : Except Fault α → Except Fault β → Prop} (y : Run (Account τ) β) :
    Alike O (throw .unfinished) y :=
  fun _ _ _ asked => (asked .unfinished rfl rfl).elim

theorem waived_unfinished (fault : Fault) (waived : fault = .unfinished) : fault.isOrdinary = false := by
  rw [waived]
  rfl

theorem beside_muted : (Aspect.muted (τ := τ)).Beside Account.Echoes where
  hubs echoes := congrArg Account.hub echoes
  put {account account' hub hub'} echoes same := by
    have muted : hub.muted = hub'.muted := same
    simp [Account.Echoes,Account.muted,muted,echoes.past]
  noted {account account'} occurrence echoes := by
    have muted : account.hub.muted = account'.hub.muted := congrArg Account.hub echoes
    simp [Account.Echoes,Account.muted,Moment.muted,muted,echoes.past]

theorem quiet_tell (level : Level) (text : String) (fault : Fault) :
    Quiet Account.muted (tell level text (some fault) : Run (Account τ) Unit) := by
  intro account
  have muted : (account.hub.logged { level, text, fault := some fault }).muted = account.hub.muted := by
    unfold logged
    split
    · simp [Hub.muted]
    · rfl
  refine ⟨⟨(),rfl⟩,?_⟩
  simp [tell,Account.muted,muted]

variable [Clock τ]

/-- Two performers that match where they are given the same actions, and come to ends that are contained where
    they are given actions that differ in their last one only. -/
structure Companions (performer performer' : Performer (Account τ) τ) : Prop where
  performed : ∀ context actions, Alike (Tallies Eq) (performer context actions) (performer' context actions)
  parted : ∀ context actions {last last'}, Parting last → Parting last' →
    Alike Contained (performer context (actions ++ last)) (performer' context (actions ++ last'))

/-- What one observer raises and the other does not is contained in the call. -/
theorem call_contained {cast cast' : Cast τ} (parts : Cast.Parts cast cast')
    {performer performer' : Performer (Account τ) τ} (both : Companions performer performer') (place : Nat)
    (listener : Listener) :
    Alike Contained (call cast performer place listener) (call cast' performer' place listener) := by
  refine beside_muted.call (fun _ _ => Contained.of_tallies) (fun name place count => ?_) place listener
  have found := parts.lookup name
  generalize cast.lookup name = observer?,cast'.lookup name = observer'? at found
  cases found with
  | none => exact (matches_pure rfl).mono fun _ _ => Contained.of_tallies
  | some parts =>
    obtain ⟨actions,last,last',ends,ends',script,script'⟩ := parts count
    dsimp only
    rw [script,script']
    exact both.parted _ _ ends ends'

/-- So all actions match up to what tells of failures. -/
theorem Companions.partners {cast cast' : Cast τ} (parts : Cast.Parts cast cast')
    {performer performer' : Performer (Account τ) τ} (both : Companions performer performer') :
    Aspect.muted.Partners Account.Echoes (· = .unfinished) cast cast' performer performer' where
  beside := beside_muted
  waived := waived_unfinished
  performed := both.performed
  published router place := by
    have turns : ∀ router kind place listener, Alike (Tallies fun _ _ => True)
        ((dispatch cast performer router kind place).turn listener)
        ((dispatch cast' performer' router kind place).turn listener) := by
      intro router kind place listener
      refine Dispatch.turn_matches waived_unfinished (beside_muted.registered router kind place listener) ?_ ?_ ?_
      · exact (beside_muted.note _).before (fun _ _ _ => call_contained parts both place listener) .fault
      · exact fun fault => (quiet_tell _ _ _).bind fun _ => quiet_pure _
      · exact fun fault => (quiet_tell _ _ _).bind fun _ => quiet_pure _
    have same : Alike (Tallies fun _ _ => True) (publishAt cast performer router place)
        (publishAt cast' performer' router place) :=
      beside_muted.publishAt trivial (fun _ _ => trivial) turns router place
    exact same.mono fun _ _ tallies => tallies.imp fun _ _ _ => rfl

/-- What an observer does last changes nothing, and is contained in its call. -/
theorem exec_parting {last : List (Action τ)} (ends : Parting last) (cast : Cast τ)
    (performer : Performer (Account τ) τ) (context : Option Nat) :
    ∃ outcome, Held outcome ∧
      ∀ account, (last.forM (actSeen cast performer context)).exec account = (outcome,account) := by
  cases ends with
  | returns => exact ⟨.ok (),trivial,fun _ => rfl⟩
  | raises fault ordinary => exact ⟨.error fault,ordinary,fun _ => rfl⟩

/-- The performer for the observers that observers call. -/
def nested (cast : Cast τ) : Nat → Performer (Account τ) τ
  | 0 => fun _ _ => throw .unfinished
  | depth + 1 => perform cast depth

/-- To compare what an observer does is to compare its actions, unless they go too deep. -/
theorem alike_perform {β : Type} {O : Except Fault Unit → Except Fault β → Prop} {cast : Cast τ} {depth : Nat}
    {context : Option Nat} {actions : List (Action τ)} {y : Run (Account τ) β}
    (acting : Alike O (actions.forM (actSeen cast (nested cast depth) context)) y) :
    Alike O (perform cast depth context actions) y := by
  cases depth with
  | zero =>
    cases actions with
    | nil => exact acting
    | cons action rest => exact alike_unfinished y
  | succ depth =>
    rw [perform_succ]
    exact acting

/-- How each of some actions from outside ends, and the state that it leaves. -/
def course {σ : Type} [Host σ τ] (cast : Cast τ) (depth : Nat) :
    List (Action τ) → σ → List (Except Fault (Reply τ) × σ)
  | [], _ => []
  | action :: rest, s =>
    let ended := (act cast (perform cast depth) none action).exec s
    ended :: course cast depth rest ended.2

/-- The end of an action, without what tells of failures. -/
def mutedEnd (ended : Except Fault (Reply τ) × Account τ) : Except Fault (Reply τ) × Account τ :=
  (ended.1.map Reply.muted,ended.2.muted)

omit [Clock τ] in
theorem finished_of_muted {course course' : List (Except Fault (Reply τ) × Account τ)}
    (same : course.map mutedEnd = course'.map mutedEnd) (finished : ∀ ended ∈ course, ended.1 ≠ .error .unfinished) :
    ∀ ended ∈ course', ended.1 ≠ .error .unfinished := by
  intro ended member unfinished
  have muted : mutedEnd ended ∈ course.map mutedEnd := same ▸ List.mem_map_of_mem member
  obtain ⟨other,member',ends⟩ := List.mem_map.mp muted
  have outcome : other.1.map Reply.muted = ended.1.map Reply.muted := congrArg Prod.fst ends
  refine finished other member' ?_
  rw [unfinished] at outcome
  cases told : other.1 with
  | ok reply => simp [told,Except.map] at outcome
  | error fault => simpa [told,Except.map] using outcome

/-- Runs in accounts end, action by action, as the runs without accounts do. -/
theorem course_hub (cast : Cast τ) (depth : Nat) (actions : List (Action τ)) (account : Account τ) :
    course cast depth actions account.hub =
      (course cast depth actions account).map fun ended => (ended.1,ended.2.hub) := by
  induction actions generalizing account with
  | nil => rfl
  | cons action rest ih =>
    have same : Agrees (act cast (perform cast depth) none action) (act cast (perform cast depth) none action) :=
      agrees_act (agrees_perform cast depth) none action
    simp only [course,List.map_cons,same account,ih]

section

variable {cast cast' : Cast τ} (parts : Cast.Parts cast cast')
include parts

/-- The actions of observers match if those of the observers do that they call. -/
theorem Companions.forM {performer performer' : Performer (Account τ) τ} (both : Companions performer performer') :
    Companions (fun context actions => actions.forM (actSeen cast performer context))
      (fun context actions => actions.forM (actSeen cast' performer' context)) where
  performed context actions := matches_forM ((both.partners parts).actSeen context) actions
  parted context actions last last' ends ends' := by
    induction actions with
    | nil =>
      obtain ⟨outcome,held,ran⟩ := exec_parting ends cast performer context
      obtain ⟨outcome',held',ran'⟩ := exec_parting ends' cast' performer' context
      intro account account' alike _
      rw [List.nil_append,List.nil_append,ran,ran']
      exact ⟨.held held held',alike⟩
    | cons action rest ih => exact ((both.partners parts).actSeen context action).before (fun _ _ _ => ih) .fault

/-- What an observer does that is called at some depth matches what it does at a greater depth, since there it may
    still raise something where it did nothing at all. -/
theorem companions_perform {depth depth' : Nat} (deeper : depth < depth') :
    Companions (perform cast depth) (perform cast' depth') := by
  induction depth' generalizing depth with
  | zero => exact absurd deeper (Nat.not_lt_zero depth)
  | succ depth' ih =>
    have called : Companions (nested cast depth) (perform cast' depth') := by
      cases depth with
      | zero => exact ⟨fun _ _ => alike_unfinished _,fun _ _ _ _ _ _ => alike_unfinished _⟩
      | succ depth => exact ih (Nat.lt_of_succ_lt_succ deeper)
    have acting := called.forM parts
    constructor
    · intro context actions
      rw [perform_succ]
      exact alike_perform (acting.performed context actions)
    · intro context actions last last' ends ends'
      rw [perform_succ]
      exact alike_perform (acting.parted context actions ends ends')

/-- Whole runs match, action by action. -/
theorem course_muted {depth depth' : Nat} (deeper : depth < depth') (actions : List (Action τ))
    {account account' : Account τ} (alike : account.muted = account'.muted)
    (finished : ∀ ended ∈ course cast depth actions account, ended.1 ≠ .error .unfinished) :
    (course cast depth actions account).map mutedEnd = (course cast' depth' actions account').map mutedEnd := by
  induction actions generalizing account account' with
  | nil => rfl
  | cons action rest ih =>
    simp only [course,List.forall_mem_cons] at finished
    have partners := (companions_perform parts deeper).partners parts
    obtain ⟨tallies,left⟩ := partners.act none action alike fun _ failed waived => finished.1 (waived ▸ failed)
    simp only [course,List.map_cons,List.cons.injEq,mutedEnd,Prod.mk.injEq]
    exact ⟨⟨Reply.muted_of_tallies tallies,left⟩,ih left finished.2⟩

end

end Hub

/-- The calls of an account, the first one first: who was called, on which router, and with what. -/
def Account.calls (account : Account τ) : List (Listener × Nat × Option Signal) :=
  account.past.reverse.filterMap fun moment =>
    match moment.occurrence with
    | .call listener router place => some (listener,router,moment.hub.signals[place]?)
    | _ => none

theorem Account.calls_muted (account : Account τ) : account.muted.calls = account.calls := by
  simp only [Account.calls,Account.muted,← List.map_reverse,List.filterMap_map]
  rfl

namespace Hub

/-- Hubs that are the same up to what tells of failures differ in nothing but the log and what was seen. -/
theorem frame_of_muted {hub hub' : Hub τ} (same : hub.muted = hub'.muted) :
    hub' = { hub with log := hub'.log, seen := hub'.seen } ∧
      hub.log.filter (·.fault.isNone) = hub'.log.filter (·.fault.isNone) ∧
      hub.seen.map Sighting.muted = hub'.seen.map Sighting.muted := by
  rcases hub with ⟨whole,routers,recorder,scheduler,timer,signals,subscriptions,calls,threshold,log,seen⟩
  rcases hub' with ⟨whole',routers',recorder',scheduler',timer',signals',subscriptions',calls',threshold',log',seen'⟩
  simp only [Hub.muted,Hub.mk.injEq] at same
  obtain ⟨rfl,rfl,rfl,rfl,rfl,rfl,rfl,rfl,rfl,log,seen⟩ := same
  exact ⟨rfl,log,seen⟩

variable [Clock τ]

/-- Whether observers return or raise something in the end makes no difference to any step of a run: not to who is
    called with what, nor to the hub, apart from the lists of failures that are answered and the lines of the log
    that tell of them. A run that ends at some depth with the one cast ends at any greater depth with the other. -/
theorem failures_stay_isolated {cast cast' : Cast τ} (parts : Cast.Parts cast cast') {depth deeper : Nat}
    (enough : depth < deeper) (actions : List (Action τ)) (hub : Hub τ)
    (finished : ∀ ended ∈ course cast depth actions hub, ended.1 ≠ .error .unfinished) :
    (∀ ended ∈ course cast' deeper actions hub, ended.1 ≠ .error .unfinished) ∧
    List.Forall₂ (fun ended ended' : Except Fault (Reply τ) × Hub τ =>
        ended.1.map Reply.muted = ended'.1.map Reply.muted ∧
          ended'.2 = { ended.2 with log := ended'.2.log, seen := ended'.2.seen } ∧
          ended.2.log.filter (·.fault.isNone) = ended'.2.log.filter (·.fault.isNone) ∧
          ended.2.seen.map Sighting.muted = ended'.2.seen.map Sighting.muted)
      (course cast deeper actions hub) (course cast' deeper actions hub) ∧
    List.Forall₂ (fun ended ended' : Except Fault (Reply τ) × Account τ => ended.2.calls = ended'.2.calls)
      (course cast deeper actions { hub }) (course cast' deeper actions { hub }) := by
  let start : Account τ := { hub }
  have finished' : ∀ ended ∈ course cast depth actions start, ended.1 ≠ .error .unfinished := by
    intro ended member
    exact finished (ended.1,ended.2.hub) (course_hub cast depth actions start ▸ List.mem_map_of_mem member)
  have same := course_muted parts enough actions (rfl : start.muted = start.muted) finished'
  have alone := course_muted (Cast.Parts.refl cast) enough actions (rfl : start.muted = start.muted) finished'
  have alike := alone.symm.trans same
  rw [← List.forall₂_eq_eq_eq,List.forall₂_map_left_iff,List.forall₂_map_right_iff] at alike
  have kept : ∀ cast : Cast τ, course cast deeper actions hub =
      (course cast deeper actions start).map fun ended => (ended.1,ended.2.hub) :=
    fun cast => course_hub cast deeper actions start
  refine ⟨?_,?_,?_⟩
  · intro ended member
    rw [kept] at member
    obtain ⟨later,member',rfl⟩ := List.mem_map.mp member
    exact finished_of_muted same finished' later member'
  · rw [kept,kept,List.forall₂_map_left_iff,List.forall₂_map_right_iff]
    refine alike.imp fun ended ended' same => ?_
    exact ⟨congrArg Prod.fst same,frame_of_muted (congrArg (·.2.hub) same)⟩
  · refine alike.imp fun ended ended' same => ?_
    rw [← Account.calls_muted,← Account.calls_muted ended'.2]
    exact congrArg (·.2.calls) same

/-- An observer that publishes when it is called, one that is called by it, and a reader of refreshes which the
    timer and a flush bring about; all of them fail with the second cast. -/
theorem failures_stay_isolated_of_three :
    let failing : Action Rat := .raise (.thrown "broken" .general [])
    let judged : Action Rat := .publish (.fresh (.ok (.event (.result true "b")))) 0
    let observed (last : List (Action Rat)) : Cast Rat :=
      [("relay",{ title := "relay", script := fun _ => [judged] ++ last }),
        ("judge",{ title := "judge", script := fun _ => [] ++ last }),
        ("reader",{ title := "reader", script := fun _ => [.summarize] ++ last })]
    let bare : Hub Rat :=
      { recorder := some {}, scheduler := { delay := 1 }, timer := .byHand, threshold := Level.error.number }
    let hub := (bare.subscribed 0).onRouter 0 fun registry =>
      ((registry.subscribe "Message" (.observer "relay")).subscribe "Result" (.observer "judge")).subscribe
        "ResultsRefresh" (.observer "reader")
    let message : Action Rat := .publish (.fresh (.ok (.event (.message "a")))) 0
    let actions := [message,.advance 1,message,.flush]
    let ends := course (observed []) maxCalls actions hub
    let ends' := course (observed [failing]) maxCalls actions hub
    ends.map (·.2.log.size) = [0,0,0,0] ∧ ends'.map (·.2.log.size) = [2,3,5,6] ∧
      ends'.map (·.2.scheduler.fired) = [0,1,1,2] ∧
      List.Forall₂ (fun ended ended' => ended.2.shots = ended'.2.shots ∧ ended.2.scheduler = ended'.2.scheduler)
        ends ends' := by
  intro failing judged observed bare hub message actions ends ends'
  have ordinary : Parting [failing] := .raises _ rfl
  have parts : Cast.Parts (observed []) (observed [failing]) := by
    have parted : ∀ (title : String) (actions : List (Action Rat)),
        Observer.Parts { title, script := fun _ => actions ++ [] }
          { title, script := fun _ => actions ++ [failing] } :=
      fun _ actions _ => ⟨actions,[],[failing],.returns,ordinary,rfl,rfl⟩
    exact .cons ⟨rfl,parted _ _⟩ (.cons ⟨rfl,parted _ _⟩ (.cons ⟨rfl,parted _ _⟩ .nil))
  have finished : ∀ ended ∈ course (observed []) 3 actions hub, ended.1 ≠ .error .unfinished := by
    have good : (course (observed []) 3 actions hub).all (·.1.isOk) = true := by decide +kernel
    intro ended member unfinished
    have fine := List.all_eq_true.mp good ended member
    rw [unfinished] at fine
    cases fine
  obtain ⟨-,alike,-⟩ := failures_stay_isolated parts (by decide : 3 < maxCalls) actions hub finished
  refine ⟨by decide +kernel,by decide +kernel,by decide +kernel,alike.imp fun ended ended' same => ?_⟩
  rw [same.2.1]
  exact ⟨rfl,rfl⟩

end Hub

end ShotRecorder
