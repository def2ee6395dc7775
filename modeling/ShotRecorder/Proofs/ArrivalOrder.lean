import ShotRecorder.Proofs.Accounts

/-!
The shots are recorded in the order of arrival. Observers publish, drop the shots and change events while
other events are being delivered, so that deliveries are nested in each other. Yet the recorder is the first
listener of every kind that producers report (`Wired`), which makes the tree of deliveries a flat history:
whenever an observer is called, and whenever no delivery is in progress, the shots are those of the deeds
that were begun so far, each applied as it was when it was begun (`Orderly`).
-/
namespace ShotRecorder.Hub
open Run

variable {τ : Type}

/-! ### The history of an account -/

/-- What changes the shots. -/
inductive Deed where
  /-- An event of a producer is published. -/
  | apply (event : Event)
  /-- All shots are dropped. -/
  | reset

/-- The shots after a deed. -/
def Deed.on (shots : ShotLog) : Deed → ShotLog
  | apply event => shots.apply event
  | reset => {}

/-- The shots after deeds that are done one after the other. -/
def replay (deeds : List Deed) : ShotLog := deeds.foldl Deed.on {}

/-- The deed that begins at a moment. The event is the one that is at the place when it is published. -/
def deed? (moment : Moment τ) : Option Deed :=
  match moment.occurrence with
  | .publish 0 place => (moment.hub.signals[place]?.bind Signal.produced?).map .apply
  | .clear => some .reset
  | _ => none

/-- The deeds of a past in the order in which they began. -/
def history (past : List (Moment τ)) : List Deed := (past.filterMap deed?).reverse

/-- Every observer that was called saw the shots of the history so far, to which the signal that it was
    called with belongs. -/
def SeenInOrder (past : List (Moment τ)) : Prop :=
  ∀ moment earlier, moment :: earlier <:+ past →
    ∀ name router place, moment.occurrence = .call (.observer name) router place →
      moment.hub.shots = replay (history earlier) ∧
      ∃ published ∈ earlier, published.occurrence = .publish router place ∧
        ∀ deed ∈ deed? published, deed ∈ history earlier

theorem history_cons (moment : Moment τ) (past : List (Moment τ)) :
    history (moment :: past) = history past ++ (deed? moment).toList := by
  unfold history
  cases begun : deed? moment <;> simp [begun]

theorem replay_append (deeds : List Deed) (deed : Deed) : replay (deeds ++ [deed]) = deed.on (replay deeds) := by
  simp [replay]

theorem mem_history {moment : Moment τ} {past : List (Moment τ)} (member : moment ∈ past) :
    ∀ deed ∈ deed? moment, deed ∈ history past := by
  intro deed begun
  simpa [history] using ⟨moment,member,begun⟩

theorem SeenInOrder.cons {past : List (Moment τ)} (seen : SeenInOrder past) {moment : Moment τ}
    (next : ∀ name router place, moment.occurrence = .call (.observer name) router place →
      moment.hub.shots = replay (history past) ∧
        ∃ published ∈ past, published.occurrence = .publish router place) :
    SeenInOrder (moment :: past) := by
  intro found earlier here name router place called
  rcases List.suffix_cons_iff.mp here with same | inside
  · obtain ⟨rfl,rfl⟩ := List.cons.inj same
    obtain ⟨shots,published,member,what⟩ := next name router place called
    exact ⟨shots,published,member,what,mem_history member⟩
  · exact seen found earlier inside name router place called

/-! ### Hubs in which the recorder comes first -/

/-- Subscriptions by which the recorder listens to producers. -/
def Vital (s : Subscription) : Prop :=
  s.router = 0 ∧ s.listener = .recorder ∧ s.kind ∈ Kind.producers.map Kind.name

/-- Actions that leave the recorder where it is: its subscriptions are not undone, unless they are kept under
    guarded names, which nobody cancels. -/
def Loyal (Guarded : String → Prop) : Action τ → Prop
  | .handle _ => False
  | .attach _ => False
  | .detach => False
  | .subscribe kind listener router token => ∀ name ∈ token, Vital { kind, listener, router } → Guarded name
  | .unsubscribe kind listener router => ¬ Vital { kind, listener, router }
  | .cancel token => ¬ Guarded token
  | .arm _ _ actions => ∀ action, action ∈ actions → Loyal Guarded action
  | _ => True

/-- A hub with one router, on which the recorder is the first listener of every kind that producers report,
    and will stay so. -/
structure Wired (Guarded : String → Prop) (hub : Hub τ) : Prop where
  alone : hub.routers.length = 1
  capturing : hub.recorder.isSome
  first : ∀ kind ∈ Kind.producers, ∃ rest, (hub.registry 0).listeners kind.name = .recorder :: rest
  kept : ∀ pair ∈ hub.subscriptions, Vital pair.2 → Guarded pair.1
  callbacks : ∀ callback ∈ hub.timer.device.callbacks, ∀ action ∈ actionsOf callback, Loyal Guarded action

/-- What holds of an account at every moment at which no event is on its way to the recorder. -/
structure Orderly (Guarded : String → Prop) (account : Account τ) : Prop where
  wired : Wired Guarded account.hub
  shots : account.hub.shots = replay (history account.past)
  seen : SeenInOrder account.past

variable {Guarded : String → Prop}

/-- The wiring is a matter of the routers, the recorder, the subscriptions that are kept and the timer. -/
theorem Wired.congr {hub hub' : Hub τ} (wired : Wired Guarded hub) (routers : hub'.routers = hub.routers)
    (recorder : hub'.recorder.isSome = hub.recorder.isSome) (subscriptions : hub'.subscriptions = hub.subscriptions)
    (callbacks : ∀ callback ∈ hub'.timer.device.callbacks, ∀ action ∈ actionsOf callback, Loyal Guarded action) :
    Wired Guarded hub' where
  alone := routers ▸ wired.alone
  capturing := recorder ▸ wired.capturing
  first := by
    unfold registry
    rw [routers]
    exact wired.first
  kept := subscriptions ▸ wired.kept
  callbacks := callbacks

/-- No listener is on a router that is not there. -/
theorem Wired.no_listeners {hub : Hub τ} (wired : Wired Guarded hub) {router : Nat} (other : router ≠ 0)
    (kind : String) : (hub.registry router).listeners kind = [] := by
  have beyond : hub.routers.length ≤ router := by
    have alone := wired.alone
    omega
  unfold registry
  rw [List.getD_eq_getElem?_getD,List.getElem?_eq_none beyond]
  rfl

/-- The wiring survives a change of the registry that leaves the recorder in front. -/
theorem Wired.onRouter {hub : Hub τ} (wired : Wired Guarded hub) (router : Nat)
    {change : Registry Listener → Registry Listener}
    (first : router = 0 → ∀ kind ∈ Kind.producers, ∀ rest, (hub.registry 0).listeners kind.name = .recorder :: rest →
      ∃ rest, (change (hub.registry 0)).listeners kind.name = .recorder :: rest) :
    Wired Guarded (hub.onRouter router change) where
  alone := by
    simpa [Hub.onRouter] using wired.alone
  capturing := wired.capturing
  first := by
    intro kind producer
    obtain ⟨rest,listeners⟩ := wired.first kind producer
    rw [registry_onRouter]
    split
    · rename_i here
      exact first here.1 kind producer rest listeners
    · exact ⟨rest,listeners⟩
  kept := wired.kept
  callbacks := wired.callbacks

/-- A listener that subscribes comes after the recorder. -/
theorem Wired.subscribe {hub : Hub τ} (wired : Wired Guarded hub) (k : String) (listener : Listener) (router : Nat) :
    Wired Guarded (hub.onRouter router (·.subscribe k listener)) := by
  refine wired.onRouter router fun _ kind _ rest listeners => ?_
  rw [Registry.listeners_subscribe,listeners]
  split
  · exact ⟨rest ++ [listener],rfl⟩
  · exact ⟨rest,rfl⟩

/-- The recorder stays in front when another subscription is undone. -/
theorem Wired.unsubscribe {hub : Hub τ} (wired : Wired Guarded hub) {k : String} {listener : Listener} {router : Nat}
    (other : ¬ Vital { kind := k, listener, router }) :
    Wired Guarded (hub.onRouter router (·.unsubscribe k listener)) := by
  refine wired.onRouter router fun here kind producer rest listeners => ?_
  rw [Registry.listeners_unsubscribe,listeners]
  split
  · rename_i same
    have observer : Listener.recorder ≠ listener := by
      rintro rfl
      exact other ⟨here,rfl,same ▸ List.mem_map_of_mem producer⟩
    exact ⟨rest.erase listener,List.erase_cons_tail (by simpa using observer)⟩
  · exact ⟨rest,rfl⟩

theorem Wired.keeping {hub : Hub τ} (wired : Wired Guarded hub) {token : Option String} {s : Subscription}
    (guarded : ∀ name ∈ token, Vital s → Guarded name) : Wired Guarded (hub.keeping token s) := by
  cases token with
  | none => exact wired
  | some name =>
    refine ⟨wired.alone,wired.capturing,wired.first,?_,wired.callbacks⟩
    intro pair member
    rcases List.mem_cons.mp member with rfl | old
    · exact guarded name rfl
    · exact wired.kept pair (List.mem_filter.mp old).1


/-! ### Every run is orderly -/

theorem Orderly.withHub {account : Account τ} (orderly : Orderly Guarded account) {hub : Hub τ}
    (wired : Wired Guarded hub) (shots : hub.shots = account.hub.shots) : Orderly Guarded { account with hub } :=
  ⟨wired,shots.trans orderly.shots,orderly.seen⟩

theorem plain_orderly : Plain (Orderly (τ := τ) Guarded) := by
  refine plain_of_parts fun account => ⟨fun orderly => ?_,fun orderly => ?_⟩
  · exact orderly.withHub (orderly.wired.congr rfl rfl rfl orderly.wired.callbacks) rfl
  · exact ⟨orderly.wired.congr rfl rfl rfl orderly.wired.callbacks,orderly.shots,orderly.seen⟩

/-- A moment at which nothing begins and no observer is called changes nothing. -/
theorem Orderly.noted {account : Account τ} (orderly : Orderly Guarded account) {occurrence : Occurrence}
    (nothing : deed? { occurrence, hub := account.hub } = none)
    (noCall : ∀ name router place, occurrence ≠ .call (.observer name) router place) :
    Orderly Guarded { account with past := { occurrence, hub := account.hub } :: account.past } where
  wired := orderly.wired
  shots := by
    rw [history_cons,nothing]
    simpa using orderly.shots
  seen := orderly.seen.cons fun name router place called => absurd called (noCall name router place)

/-- The call of an observer with a signal that was published is a moment like that, too. -/
theorem Orderly.calling {account : Account τ} (orderly : Orderly Guarded account) (name : String) {router place : Nat}
    (published : ∃ moment ∈ account.past, moment.occurrence = .publish router place) :
    Orderly Guarded { account with
      past := { occurrence := .call (.observer name) router place, hub := account.hub } :: account.past } where
  wired := orderly.wired
  shots := by
    rw [history_cons]
    simpa [deed?] using orderly.shots
  seen := by
    refine orderly.seen.cons fun name' router' place' called => ⟨orderly.shots,?_⟩
    obtain ⟨-,rfl,rfl⟩ := Occurrence.call.inj called
    exact published

/-- Orderly, with all of an earlier past. -/
structure OrderlySince (Guarded : String → Prop) (before : List (Moment τ)) (account : Account τ) : Prop where
  orderly : Orderly Guarded account
  since : before <:+ account.past

theorem plain_orderlySince (before : List (Moment τ)) : Plain (OrderlySince Guarded before) := by
  rintro account hub same ⟨orderly,since⟩
  exact ⟨plain_orderly same orderly,since⟩

theorem keeps_orderlySince {α : Type} {before : List (Moment τ)} {x : Run (Account τ) α}
    (orderly : Keeps (Orderly Guarded) x) (since : Keeps (fun account => before <:+ account.past) x) :
    Keeps (OrderlySince Guarded before) x :=
  fun account held => ⟨orderly account held.orderly,since account held.since⟩

/-- An event is on its way to the recorder, and nothing but applying it is missing. -/
structure Behind (Guarded : String → Prop) (event : Event) (before : List (Moment τ)) (account : Account τ) : Prop where
  wired : Wired Guarded account.hub
  shots : account.hub.shots.apply event = replay (history account.past)
  seen : SeenInOrder account.past
  since : before <:+ account.past

theorem plain_behind (event : Event) (before : List (Moment τ)) : Plain (Behind Guarded event before) := by
  refine plain_of_parts fun account => ⟨fun behind => ?_,fun behind => ?_⟩
  · exact ⟨behind.wired.congr rfl rfl rfl behind.wired.callbacks,behind.shots,behind.seen,behind.since⟩
  · exact ⟨behind.wired.congr rfl rfl rfl behind.wired.callbacks,behind.shots,behind.seen,behind.since⟩

variable [Clock τ] {cast : Cast τ} {depth : Nat}

theorem keeps_notify_orderly : Keeps (Orderly (τ := τ) Guarded) notify := by
  refine keeps_notify plain_orderly ?_ ?_ ?_
  · intro account orderly
    exact orderly.noted rfl fun _ _ _ => nofun
  · intro account orderly
    refine orderly.withHub (orderly.wired.congr rfl rfl rfl ?_) rfl
    intro callback member
    rcases Timer.callbacks_schedule _ _ _ callback member with old | rfl
    · exact orderly.wired.callbacks callback old
    · simp [actionsOf]
  · intro account orderly
    exact orderly.withHub (orderly.wired.congr rfl rfl rfl orderly.wired.callbacks) rfl

/-- The recorder's turn brings the shots up to the event that is on its way. -/
theorem recorder_leads {before : List (Moment τ)} {place : Nat} {event : Event} {account : Account τ}
    (behind : Behind Guarded event before account) {signal : Signal}
    (found : account.hub.signals[place]? = some signal) (produced : signal.produced? = some event) (kind : String) :
    OrderlySince Guarded before
      (((dispatch cast (perform cast depth) 0 kind place).call .recorder).exec account).2 := by
  obtain ⟨recorder,present⟩ := Option.isSome_iff_exists.mp behind.wired.capturing
  have noted : Behind Guarded event before { account with
      past := { occurrence := .call .recorder 0 place, hub := account.hub } :: account.past } := by
    refine ⟨behind.wired,?_,behind.seen.cons fun _ _ _ => nofun,behind.since.trans (List.suffix_cons _ _)⟩
    rw [history_cons]
    simpa [deed?] using behind.shots
  have called : (((dispatch cast (perform cast depth) 0 kind place).call .recorder).exec account).2 =
      ((record signal).exec { account with
        past := { occurrence := .call .recorder 0 place, hub := account.hub } :: account.past }).2 := by
    unfold dispatch call
    rw [exec_bind,exec_note]
    dsimp only [note_account]
    rw [exec_bind,exec_signalAt,found]
  rw [called]
  refine record_leads (Behind Guarded event before) (OrderlySince Guarded before) (plain_behind event before)
    (plain_orderlySince before) produced ?_ ?_ present noted
  · intro account recorder present behind
    have seen : SeenInOrder ({ occurrence := .record event, hub := account.hub } :: account.past) :=
      behind.seen.cons fun _ _ _ => nofun
    refine ⟨⟨behind.wired.congr rfl ?_ rfl behind.wired.callbacks,?_,seen⟩,behind.since.trans (List.suffix_cons _ _)⟩
    · simp [present]
    · rw [history_cons]
      simpa [deed?,shots,present] using behind.shots
  · intro account recorder _ held
    split
    · exact (keeps_orderlySince keeps_notify_orderly (upheld_remembered cast before).notified).discard account held
    · exact held

section

variable (performed : ∀ context actions, (∀ action ∈ actions, Loyal Guarded action) →
    Keeps (Orderly Guarded) (perform cast depth context actions))
  (loyal : ∀ pair ∈ cast, ∀ n, ∀ action ∈ pair.2.script n, Loyal Guarded action)
include performed loyal

/-- An observer that is called with a signal that was published keeps the order. -/
theorem keeps_observed {before : List (Moment τ)} {router place : Nat}
    (published : ∃ moment ∈ before, moment.occurrence = .publish router place) (kind name : String) :
    Keeps (OrderlySince Guarded before)
      ((dispatch cast (perform cast depth) router kind place).call (.observer name)) := by
  refine Keeps.bind ?_ fun _ => ?_
  · rintro account ⟨orderly,since⟩
    obtain ⟨moment,member,what⟩ := published
    exact ⟨orderly.calling name ⟨moment,since.subset member,what⟩,since.trans (List.suffix_cons _ _)⟩
  · refine keeps_callObserver (plain_orderlySince before) name place fun observer member n => ?_
    exact keeps_orderlySince (performed _ _ (loyal _ member n)) (perform_remembers cast depth _ _ _)

/-- Delivering a signal that the recorder passes over keeps the order. -/
theorem keeps_passed {before : List (Moment τ)} {router place : Nat}
    (published : ∃ moment ∈ before, moment.occurrence = .publish router place) (kind : String)
    (listeners : List Listener) :
    Keeps (fun account => OrderlySince Guarded before account ∧ PassedAt place account.hub)
      ((dispatch cast (perform cast depth) router kind place).deliver listeners) := by
  refine keeps_deliver ?_ router kind place listeners fun listener _ => ?_
  · rintro account hub same ⟨since,passed⟩
    exact ⟨plain_orderlySince before same since,plain_passed place same passed⟩
  · cases listener with
    | observer name =>
      refine (keeps_observed performed loyal published kind name).and (Keeps.bind (fun _ held => held) fun _ => ?_)
      refine keeps_callObserver (plain_passed place) name place fun observer _ n => ?_
      exact (upheld_passed cast place).perform depth _ _ fun _ _ => trivial
    | recorder =>
      refine Keeps.bind ?_ fun _ => ?_
      · rintro account ⟨⟨orderly,since⟩,passed⟩
        exact ⟨⟨orderly.noted rfl fun _ _ _ => nofun,since.trans (List.suffix_cons _ _)⟩,passed⟩
      · rintro account ⟨held,passed⟩
        obtain ⟨signal,found,ignored⟩ := passed
        have same : ((call cast (perform cast depth) place .recorder).exec account).2 = account := by
          unfold call
          rw [exec_bind,exec_signalAt,found]
          exact record_passes ignored account
        rw [same]
        exact ⟨held,signal,found,ignored⟩

/-- Delivering an event of a producer brings the shots up to it: the recorder's turn comes first, and no other
    listener is the recorder. -/
theorem deliver_orderly {before : List (Moment τ)} {place : Nat} {event : Event} {account : Account τ}
    (behind : Behind Guarded event before account) {signal : Signal}
    (found : account.hub.signals[place]? = some signal) (produced : signal.produced? = some event)
    (published : ∃ moment ∈ before, moment.occurrence = .publish 0 place) :
    OrderlySince Guarded before
      (((dispatch cast (perform cast depth) 0 signal.kind place).deliver
        ((account.hub.registry 0).listeners signal.kind)).exec account).2 := by
  obtain ⟨rfl,producer⟩ := Signal.eq_of_produced produced
  obtain ⟨rest,listeners⟩ := behind.wired.first event.kind producer
  have registered : (account.hub.registry 0).has event.kind.name .recorder := by
    rw [← Registry.mem_listeners,listeners]
    exact List.mem_cons_self
  have others : ∀ other ∈ rest, ∃ name, other = .observer name := by
    have distinct := (account.hub.registry 0).nodup_listeners event.kind.name
    rw [listeners] at distinct
    intro other member
    cases other with
    | recorder => exact absurd member (List.nodup_cons.mp distinct).1
    | observer name => exact ⟨name,rfl⟩
  have reported : ∀ listener fault, Keeps (OrderlySince Guarded before)
      ((dispatch cast (perform cast depth) 0 event.kind.name place).report listener fault) :=
    fun _ _ => (keeps_tell (plain_orderlySince _) _ _ _).bind fun _ => keeps_pure _
  have delivered : OrderlySince Guarded before
      (((dispatch cast (perform cast depth) 0 event.kind.name place).deliver (.recorder :: rest)).exec account).2 := by
    refine Dispatch.deliver_leads _ (Dispatch.turn_leads _ _ ?_ ?_ (reported _)) fun other member => ?_
    · exact congrArg (fun has => (Except.ok has,account)) registered
    · exact recorder_leads behind found produced _
    · obtain ⟨name,rfl⟩ := others other member
      refine Dispatch.turn_keeps _ _ ?_ ?_ (reported _)
      · exact keeps_look.bind fun _ => keeps_pure _
      · exact keeps_observed performed loyal published _ name
  exact listeners ▸ delivered

/-- Publishing keeps the order. -/
theorem keeps_publishAt_orderly (router place : Nat) :
    Keeps (Orderly Guarded) (publishAt cast (perform cast depth) router place) := by
  intro account orderly
  cases found : account.hub.signals[place]? with
  | none =>
    unfold publishAt
    rw [exec_bind,exec_signalAt,found]
    exact orderly
  | some signal =>
    obtain ⟨hub,same,ran⟩ := exec_publishAt cast (perform cast depth) found router
    rw [ran]
    let published : Moment τ := { occurrence := .publish router place, hub := account.hub }
    let begun : Account τ := { account with past := published :: account.past }
    have noted : deed? published = none → Orderly Guarded { begun with hub } :=
      fun nothing => @plain_orderly _ _ begun hub same (orderly.noted nothing fun _ _ _ => nofun)
    by_cases elsewhere : router ≠ 0
    · rw [orderly.wired.no_listeners elsewhere]
      refine noted ?_
      obtain ⟨n,rfl⟩ := Nat.exists_eq_succ_of_ne_zero elsewhere
      rfl
    obtain rfl : router = 0 := by omega
    have there : hub.signals[place]? = some signal := (congrArg Hub.signals same :) ▸ found
    have sameRegistry : hub.registry 0 = account.hub.registry 0 := (congrArg (registry · 0) same :)
    have announced : ∃ moment ∈ published :: account.past, moment.occurrence = .publish 0 place :=
      ⟨published,List.mem_cons_self,rfl⟩
    cases produced : signal.produced? with
    | none =>
      have held := noted (by simp [deed?,published,found,produced])
      have passed := keeps_passed performed loyal announced signal.kind ((account.hub.registry 0).listeners signal.kind)
      exact (passed { begun with hub } ⟨⟨held,List.suffix_refl _⟩,signal,there,produced⟩).1.1
    | some event =>
      have behind : Behind Guarded event (published :: account.past) { begun with hub } := by
        refine @plain_behind _ _ event _ begun hub same ⟨orderly.wired,?_,?_,List.suffix_refl _⟩
        · rw [history_cons,orderly.shots]
          simp [deed?,published,found,produced,replay_append,Deed.on]
        · exact orderly.seen.cons fun _ _ _ => nofun
      rw [← sameRegistry]
      exact (deliver_orderly performed loyal behind there produced announced).orderly

end

/-- The order is kept by every run in which actions are loyal. -/
theorem upheld_orderly (loyal : ∀ pair ∈ cast, ∀ n, ∀ action ∈ pair.2.script n, Loyal Guarded action) :
    Upheld cast (Loyal Guarded) (Orderly Guarded) where
  plain := plain_orderly
  placed _ orderly := orderly.withHub (orderly.wired.congr rfl rfl rfl orderly.wired.callbacks) rfl
  amended _ _ orderly := orderly.withHub (orderly.wired.congr rfl rfl rfl orderly.wired.callbacks) rfl
  callbacks orderly := orderly.wired.callbacks
  calmed within orderly := by
    refine orderly.withHub (orderly.wired.congr rfl rfl rfl fun callback member => ?_) rfl
    exact orderly.wired.callbacks callback (within.callbacks callback member)
  notified := keeps_notify_orderly
  fired depth performed account _ := by
    refine keeps_fireRefresh plain_orderly (fun account orderly => ?_) (fun _ orderly => ?_)
      (keeps_publishAt_orderly performed loyal 0) account
    · have noted : Orderly Guarded
          { account with past := { occurrence := .refresh, hub := account.hub } :: account.past } :=
        orderly.noted rfl fun _ _ _ => nofun
      exact noted.withHub (noted.wired.congr rfl rfl rfl noted.wired.callbacks) rfl
    · exact orderly.withHub (orderly.wired.congr rfl rfl rfl orderly.wired.callbacks) rfl
  cleared account orderly := by
    obtain ⟨recorder,present⟩ := Option.isSome_iff_exists.mp orderly.wired.capturing
    rw [exec_clearShots]
    refine ⟨orderly.wired.congr rfl ?_ rfl orderly.wired.callbacks,?_,orderly.seen.cons fun _ _ _ => nofun⟩
    · exact Option.isSome_map
    · rw [history_cons]
      simp [deed?,replay_append,Deed.on,shots,present]
  published depth performed := keeps_publishAt_orderly performed loyal
  handled permitted := by simp [Loyal] at permitted
  subscribed permitted account orderly := by
    refine orderly.withHub ((orderly.wired.subscribe _ _ _).keeping (by simpa [Loyal] using permitted)) ?_
    rename_i token
    cases token <;> rfl
  unsubscribed permitted account orderly :=
    orderly.withHub (orderly.wired.unsubscribe (by simpa [Loyal] using permitted)) rfl
  cancelled permitted account s found orderly := by
    refine orderly.withHub (orderly.wired.unsubscribe fun vital => ?_) rfl
    rename_i token
    obtain ⟨before,after,split,-⟩ := List.lookup_eq_some_iff.mp found
    have member : (token,s) ∈ account.hub.subscriptions := by simp [split]
    simp only [Loyal] at permitted
    exact permitted (orderly.wired.kept _ member vital)
  armed permitted account orderly := by
    refine orderly.withHub (orderly.wired.congr rfl rfl rfl fun callback member => ?_) rfl
    rcases Timer.callbacks_schedule _ _ _ callback member with old | rfl
    · exact orderly.wired.callbacks callback old
    · simpa [Loyal,actionsOf] using permitted
  attached permitted := by simp [Loyal] at permitted
  detached permitted := by simp [Loyal] at permitted

/-- In a new hub the recorder is in front, and stays there if the timer is not set to undo that. -/
theorem new_wired {delay : τ} {timer : Timer τ (Callback τ)} {threshold : Nat} {hub : Hub τ}
    (made : new true delay timer threshold = .ok hub)
    (callbacks : ∀ callback ∈ timer.device.callbacks, ∀ action ∈ actionsOf callback, Loyal Guarded action) :
    Wired Guarded hub := by
  rw [new_capturing made]
  refine ⟨?_,?_,?_,?_,callbacks⟩
  · simp [attached,detached,subscribed,onRouter]
  · simp [attached,detached,subscribed,onRouter]
  · intro kind producer
    refine ⟨[],?_⟩
    simp only [Kind.producers,List.mem_cons,List.not_mem_nil,or_false] at producer
    rcases producer with rfl | rfl | rfl
    all_goals
      simp [attached,detached,subscribed,onRouter,registry,Kind.producers,Registry.listeners_subscribe,Kind.name,
        ← Registry.mem_listeners]
  · simp [attached,detached,subscribed,onRouter]

/-- A new hub is orderly, whatever signals it keeps. -/
theorem new_orderly {delay : τ} {timer : Timer τ (Callback τ)} {threshold : Nat} {hub : Hub τ}
    (made : new true delay timer threshold = .ok hub)
    (callbacks : ∀ callback ∈ timer.device.callbacks, ∀ action ∈ actionsOf callback, Loyal Guarded action)
    (signals : Array Signal) : Orderly Guarded { hub := { hub with signals } : Account τ } := by
  have wired := new_wired made callbacks
  refine ⟨wired.congr rfl rfl rfl wired.callbacks,?_,?_⟩
  · rw [new_capturing made]
    simp [attached,detached,subscribed,onRouter,shots,history,replay]
  · intro moment earlier inside
    simp at inside

/-- However observers publish, subscribe, drop the shots, change events and fail while they are called, the
    shots are those of the deeds in the order in which they were begun, after every run and at every call of an
    observer; an account of the run is kept without making a difference to it. -/
theorem shots_in_order_of_arrival {delay : τ} {timer : Timer τ (Callback τ)} {threshold : Nat} {hub : Hub τ}
    (made : new true delay timer threshold = .ok hub)
    (callbacks : ∀ callback ∈ timer.device.callbacks, ∀ action ∈ actionsOf callback, Loyal Guarded action)
    (loyal : ∀ pair ∈ cast, ∀ n, ∀ action ∈ pair.2.script n, Loyal Guarded action) (signals : Array Signal)
    (depth : Nat) (actions : List (Action τ)) (permitted : ∀ action ∈ actions, Loyal Guarded action) :
    let account := afterAll cast depth actions { hub := { hub with signals } : Account τ }
    account.hub = afterAll cast depth actions { hub with signals } ∧
      account.hub.shots = replay (history account.past) ∧ SeenInOrder account.past := by
  have orderly := (upheld_orderly loyal).afterAll depth actions permitted _ (new_orderly made callbacks signals)
  exact ⟨afterAll_hub cast depth actions _,orderly.shots,orderly.seen⟩

/-- An observer that changes the snapshot it is called with first, publishes it again, drops the shots, publishes
    once more and is interrupted. -/
private def meddler : Observer Rat where
  title := "meddler"
  script
    | 0 =>
      [.amend ([("x",.bool true)] : Members),.publish (.kept 0) 0,.clear,.publish (.kept 0) 0,
        .raise (.thrown "KeyboardInterrupt" .interrupt [])]
    | _ => []

theorem shots_in_order_despite_meddler : ∃ hub : Hub Rat, new true 1 .byHand Level.off.number = .ok hub ∧
    let signals := #[.event (.snapshot [] none)]
    let actions := [.subscribe Kind.snapshot.name (.observer "meddler") 0 none,.publish (.kept 0) 0,.advance 1]
    let account := afterAll [("meddler",meddler)] maxCalls actions { hub := { hub with signals } : Account Rat }
    account.hub = afterAll [("meddler",meddler)] maxCalls actions { hub with signals } ∧
      account.hub.shots = replay (history account.past) ∧ SeenInOrder account.past := by
  obtain ⟨hub,made⟩ : ∃ hub : Hub Rat, new true 1 .byHand Level.off.number = .ok hub := ⟨_,rfl⟩
  have loyal : ∀ pair ∈ [("meddler",meddler)], ∀ n, ∀ action ∈ pair.2.script n, Loyal (fun _ => False) action := by
    simp only [List.mem_singleton,forall_eq]
    intro n action member
    cases n with
    | zero =>
      simp only [meddler,List.mem_cons,List.not_mem_nil,or_false] at member
      rcases member with rfl | rfl | rfl | rfl | rfl <;> simp [Loyal]
    | succ n => simp [meddler] at member
  refine ⟨hub,made,shots_in_order_of_arrival made ?_ loyal _ _ _ ?_⟩
  · simp [Timer.byHand,TimerDevice.callbacks,ManualTimer.new]
  · intro action member
    simp only [List.mem_cons,List.not_mem_nil,or_false] at member
    rcases member with rfl | rfl | rfl <;> simp [Loyal]

end ShotRecorder.Hub
