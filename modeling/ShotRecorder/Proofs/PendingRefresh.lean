import ShotRecorder.Proofs.Accounts

/-!
No refresh is lost. A refresh is no longer pending before its observers are called, and observers record events
and fire refreshes while others are being delivered. As long as the timer accepts what it is asked for while it
is idle, a refresh is nevertheless pending whenever an event was recorded since the last one began to fire
(`Tended`): recording an event requests a refresh at once, and the timer is never armed without one pending.
-/
namespace ShotRecorder.Hub
open Run

variable {τ : Type}

/-! ### What is owed to observers -/

/-- An event was recorded after the last refresh began to fire. -/
def Owing : List (Moment τ) → Prop
  | [] => False
  | moment :: earlier =>
    match moment.occurrence with
    | .record _ => True
    | .refresh => False
    | _ => Owing earlier

/-- A refresh is published at a moment. -/
def Announces (moment : Moment τ) : Prop :=
  ∃ place, moment.occurrence = .publish 0 place ∧ moment.hub.signals[place]? = some (.event .refresh)

/-- After every occurrence of a sort a refresh was published. -/
def FollowedUp (Such : Occurrence → Prop) (past : List (Moment τ)) : Prop :=
  ∀ later moment earlier, past = later ++ moment :: earlier → Such moment.occurrence →
    ∃ announcing ∈ later, Announces announcing

/-- An event is recorded. -/
def Records (occurrence : Occurrence) : Prop := ∃ event, occurrence = .record event

/-- A refresh is pending if one is owed; if none is pending, a refresh was published after every event. -/
structure NothingLost (hub : Hub τ) (past : List (Moment τ)) : Prop where
  pending : Owing past → hub.scheduler.pending
  published : hub.scheduler.pending = false → FollowedUp Records past

/-- Nothing was lost whenever an observer was called. -/
def SeenWithNothingLost (past : List (Moment τ)) : Prop :=
  ∀ moment earlier, moment :: earlier <:+ past →
    ∀ name router place, moment.occurrence = .call (.observer name) router place → NothingLost moment.hub earlier

/-- Actions that leave it to the scheduler to arm the timer. -/
def LeavesTimer : Action τ → Prop
  | .arm _ _ _ => False
  | _ => True

theorem owing_append (later earlier : List (Moment τ)) {moment : Moment τ} (recorded : Records moment.occurrence) :
    Owing (later ++ moment :: earlier) ∨ ∃ firing ∈ later, firing.occurrence = .refresh := by
  induction later with
  | nil =>
    obtain ⟨event,what⟩ := recorded
    left
    simp [Owing,what]
  | cons first rest ih =>
    rcases ih with owing | ⟨firing,member,what⟩
    · cases what : first.occurrence with
      | refresh => exact .inr ⟨first,by simp,what⟩
      | _ =>
        left
        simp [Owing,what,owing]
    · exact .inr ⟨firing,by simp [member],what⟩

/-- If every refresh that fired was published and none is owed, one was published after every event. -/
theorem followedUp_of_not_owing {past : List (Moment τ)} (announced : FollowedUp (· = .refresh) past)
    (settled : ¬ Owing past) : FollowedUp Records past := by
  intro later moment earlier split recorded
  rcases owing_append later earlier recorded with owing | ⟨firing,member,what⟩
  · exact absurd (split ▸ owing) settled
  · obtain ⟨newer,older,rfl⟩ := List.append_of_mem member
    obtain ⟨announcing,among,announces⟩ := announced newer firing (older ++ moment :: earlier) (by simp [split]) what
    exact ⟨announcing,by simp [among],announces⟩

theorem FollowedUp.cons {Such : Occurrence → Prop} {past : List (Moment τ)} (followed : FollowedUp Such past)
    {moment : Moment τ} (other : ¬ Such moment.occurrence) : FollowedUp Such (moment :: past) := by
  intro later found earlier split such
  cases later with
  | nil =>
    obtain ⟨rfl,-⟩ := List.cons.inj split
    exact absurd such other
  | cons first rest =>
    obtain ⟨rfl,rest'⟩ := List.cons.inj split
    obtain ⟨announcing,member,announces⟩ := followed rest found earlier rest' such
    exact ⟨announcing,by simp [member],announces⟩

/-- What is published last follows up all that came before. -/
theorem FollowedUp.of_announces {past : List (Moment τ)} {announcing : Moment τ} (announces : Announces announcing) :
    FollowedUp (· = .refresh) (announcing :: past) := by
  intro later found earlier split such
  cases later with
  | nil =>
    obtain ⟨rfl,-⟩ := List.cons.inj split
    obtain ⟨place,what,-⟩ := announces
    simp [such] at what
  | cons first rest =>
    obtain ⟨rfl,-⟩ := List.cons.inj split
    exact ⟨announcing,by simp,announces⟩

theorem SeenWithNothingLost.cons {past : List (Moment τ)} (seen : SeenWithNothingLost past) {moment : Moment τ}
    (next : ∀ name router place, moment.occurrence = .call (.observer name) router place →
      NothingLost moment.hub past) :
    SeenWithNothingLost (moment :: past) := by
  intro found earlier here name router place called
  rcases List.suffix_cons_iff.mp here with same | inside
  · obtain ⟨rfl,rfl⟩ := List.cons.inj same
    exact next name router place called
  · exact seen found earlier inside name router place called

/-! ### Every run is tended -/

/-- What holds even while an event is being recorded. -/
structure Steady (account : Account τ) : Prop where
  armed : account.hub.timer.isArmed → account.hub.scheduler.pending
  notifies : ∀ recorder ∈ account.hub.recorder, recorder.notifies
  announced : FollowedUp (· = .refresh) account.past
  seen : SeenWithNothingLost account.past

/-- What holds of an account whose timer is armed by the scheduler alone. -/
structure Tended (account : Account τ) : Prop extends Steady account where
  owing : Owing account.past → account.hub.scheduler.pending

theorem Tended.nothingLost {account : Account τ} (tended : Tended account) : NothingLost account.hub account.past where
  pending := tended.owing
  published settled := followedUp_of_not_owing tended.announced fun owing => by simp [tended.owing owing] at settled

variable [Clock τ]

/-- The timer accepted all that it was asked for while it was idle. -/
def Accepting (past : List (Moment τ)) : Prop :=
  ∀ moment ∈ past, moment.occurrence = .request → moment.hub.timer.isArmed = false →
    (moment.hub.timer.schedule moment.hub.scheduler.delay .refresh).1 = .ok true

theorem Accepting.tail {moment : Moment τ} {past : List (Moment τ)} (accepting : Accepting (moment :: past)) :
    Accepting past := fun found member => accepting found (List.mem_cons_of_mem _ member)

/-- The timer calls back for refreshes only, and as long as it accepted, something holds of the account. -/
structure IfAccepting (Holds : Account τ → Prop) (account : Account τ) : Prop where
  callbacks : ∀ callback ∈ account.hub.timer.device.callbacks, callback = .refresh
  holds : Accepting account.past → Holds account

theorem plain_steady : Plain (IfAccepting (τ := τ) Steady) := by
  refine plain_of_parts fun account => ⟨fun held => ⟨held.callbacks,fun accepting => ?_⟩,
    fun held => ⟨held.callbacks,fun accepting => ?_⟩⟩
  all_goals
    have steady := held.holds accepting
    exact ⟨steady.armed,steady.notifies,steady.announced,steady.seen⟩

/-- Whether an account is tended is a matter of the timer, the scheduler and the recorder. -/
theorem IfAccepting.withHub {account : Account τ} (held : IfAccepting Tended account) {hub : Hub τ}
    (callbacks : ∀ callback ∈ hub.timer.device.callbacks, callback = .refresh)
    (armed : hub.timer.isArmed → account.hub.timer.isArmed)
    (pending : hub.scheduler.pending = account.hub.scheduler.pending)
    (notifies : (∀ recorder ∈ account.hub.recorder, recorder.notifies) → ∀ recorder ∈ hub.recorder, recorder.notifies) :
    IfAccepting Tended { account with hub } := by
  refine ⟨callbacks,fun accepting => ?_⟩
  have tended := held.holds accepting
  refine ⟨⟨fun still => ?_,notifies tended.notifies,tended.announced,tended.seen⟩,fun owing => ?_⟩
  · exact pending ▸ tended.armed (armed still)
  · exact pending ▸ tended.owing owing

theorem plain_tended : Plain (IfAccepting (τ := τ) Tended) := by
  refine plain_of_parts fun account => ⟨fun held => held.withHub held.callbacks id rfl id,fun held => ?_⟩
  exact ⟨held.callbacks,fun accepting =>
    have tended := held.holds accepting
    ⟨⟨tended.armed,tended.notifies,tended.announced,tended.seen⟩,tended.owing⟩⟩

/-- Any moment but the recording of an event or the beginning of a refresh. -/
theorem keeps_note_tended {occurrence : Occurrence} (noRecord : ¬ Records occurrence)
    (noRefresh : occurrence ≠ .refresh) : Keeps (IfAccepting (τ := τ) Tended) (note occurrence) := by
  refine fun account held => ⟨held.callbacks,fun accepting => ?_⟩
  have tended := held.holds accepting.tail
  refine ⟨⟨tended.armed,tended.notifies,tended.announced.cons noRefresh,?_⟩,fun owing => ?_⟩
  · exact tended.seen.cons fun _ _ _ _ => tended.nothingLost
  · refine tended.owing ?_
    cases occurrence with
    | record event => exact absurd ⟨event,rfl⟩ noRecord
    | refresh => exact absurd rfl noRefresh
    | _ => exact owing

/-- A request makes a refresh pending, if none is. -/
theorem notify_tended {account : Account τ} (held : IfAccepting Steady account) :
    IfAccepting Tended (notify.exec account).2 := by
  unfold notify
  rw [exec_bind,exec_look]
  dsimp only [hub_account]
  cases pending : account.hub.scheduler.pending with
  | true => exact ⟨held.callbacks,fun accepting => ⟨held.holds accepting,fun _ => pending⟩⟩
  | false =>
    let requested : Moment τ := { occurrence := .request, hub := account.hub }
    have accepted : Accepting (requested :: account.past) →
        (account.hub.timer.schedule account.hub.scheduler.delay .refresh).1 = .ok true := by
      intro accepting
      have idle : account.hub.timer.isArmed = false := by
        cases armed : account.hub.timer.isArmed with
        | false => rfl
        | true => simpa [pending] using (held.holds accepting.tail).armed armed
      exact accepting requested (by simp) rfl idle
    have added := Timer.callbacks_schedule account.hub.timer account.hub.scheduler.delay (.refresh : Callback τ)
    have callbacks : ∀ callback ∈ (account.hub.timer.schedule account.hub.scheduler.delay .refresh).2.device.callbacks,
        callback = .refresh := by
      intro callback member
      rcases added callback member with old | new
      · exact held.callbacks callback old
      · exact new
    rcases scheduled : account.hub.timer.schedule account.hub.scheduler.delay .refresh with ⟨answer,timer⟩
    rw [scheduled] at accepted callbacks
    simp only [Bool.false_eq_true,↓reduceIte]
    rw [exec_bind,exec_note]
    dsimp only [note_account]
    rw [exec_bind,exec_change]
    dsimp only [hub_account,put_account]
    rw [exec_bind,exec_ofExcept]
    cases answer with
    | error fault =>
      refine ⟨callbacks,fun accepting => ?_⟩
      have refused := accepted accepting
      simp at refused
    | ok armed =>
      cases armed with
      | false =>
        have told := (keeps_tell (plain_tended (τ := τ)) .warning
          "Timer refused refresh request; none scheduled" none).bind fun _ => keeps_pure false
        refine told _ ⟨callbacks,fun accepting => ?_⟩
        have refused := accepted accepting
        simp at refused
      | true =>
        have told := (keeps_tell (plain_tended (τ := τ)) .debug
          ("Refresh scheduled in " ++ Clock.places account.hub.scheduler.delay ++ "s") none).bind
          fun _ => keeps_pure true
        refine told _ ⟨callbacks,fun accepting => ?_⟩
        have steady := held.holds accepting.tail
        refine ⟨⟨fun _ => rfl,steady.notifies,steady.announced.cons nofun,?_⟩,fun _ => rfl⟩
        exact steady.seen.cons fun _ _ _ => nofun

theorem keeps_notify_tended : Keeps (IfAccepting (τ := τ) Tended) notify :=
  fun _ held => notify_tended ⟨held.callbacks,fun accepting => (held.holds accepting).toSteady⟩

/-- Recording an event requests a refresh at once. -/
theorem keeps_record_tended (signal : Signal) : Keeps (IfAccepting (τ := τ) Tended) (record signal) := by
  intro account held
  cases produced : signal.produced? with
  | none => simpa [record_passes produced] using held
  | some event =>
    cases present : account.hub.recorder with
    | none =>
      unfold record
      rw [exec_bind,exec_look]
      dsimp only [hub_account]
      rw [present]
      exact held
    | some recorder =>
      refine record_leads (IfAccepting Tended) (IfAccepting Steady) plain_tended plain_steady produced ?_ ?_ present
        held
      · intro account recorder present held
        refine ⟨held.callbacks,fun accepting => ?_⟩
        have tended := held.holds accepting.tail
        refine ⟨tended.armed,?_,tended.announced.cons nofun,tended.seen.cons fun _ _ _ => nofun⟩
        simpa using tended.notifies recorder present
      · intro account recorder present held
        split
        · rw [exec_discard]
          exact notify_tended held
        · rename_i silent
          exact ⟨held.callbacks,fun accepting => absurd ((held.holds accepting).notifies recorder present) silent⟩

/-- A refresh that begins to fire while the timer is idle owes nothing any more. -/
theorem fireRefresh_tended {cast : Cast τ} {performer : Performer (Account τ) τ}
    (performed : ∀ context, ∀ pair ∈ cast, ∀ n, Keeps (IfAccepting Tended) (performer context (pair.2.script n)))
    (account : Account τ) (idle : account.hub.timer.isArmed = false) (held : IfAccepting Tended account) :
    IfAccepting Tended ((fireRefresh cast performer).exec account).2 := by
  obtain ⟨hub,published,found,same,left⟩ := exec_fireRefresh cast performer account
  rw [left]
  refine keeps_deliver plain_tended 0 _ _ _ (fun listener _ => ?_) _ ?_
  · refine (keeps_note_tended (by simp [Records]) (by simp)).bind fun _ => ?_
    exact keeps_call plain_tended keeps_record_tended _ (performed _) listener
  · let fired : Account τ :=
      { hub := { account.hub with
          scheduler := { account.hub.scheduler with pending := false, fired := account.hub.scheduler.fired + 1 }
          signals := account.hub.signals.push (.event .refresh) }
        past := { occurrence := .publish 0 account.hub.signals.size, hub := published } ::
          { occurrence := .refresh, hub := account.hub } :: account.past }
    refine @plain_tended _ _ fired hub same ⟨held.callbacks,fun accepting => ?_⟩
    have tended := held.holds accepting.tail.tail
    refine ⟨⟨fun armed => ?_,tended.notifies,.of_announces ⟨_,rfl,found⟩,?_⟩,?_⟩
    · have never : true = false := armed.symm.trans idle
      cases never
    · exact (tended.seen.cons fun _ _ _ called => by cases called).cons fun _ _ _ called => by cases called
    · simp [fired,Owing]

theorem notifies_map {recorder : Option Recorder} (notifies : ∀ r ∈ recorder, r.notifies) {change : Recorder → Recorder}
    (same : ∀ r, (change r).notifies = r.notifies) : ∀ r ∈ recorder.map change, r.notifies := by
  intro r member
  obtain ⟨before,present,rfl⟩ := Option.map_eq_some_iff.mp member
  exact (same before).trans (notifies before present)

/-- Every run that leaves it to the scheduler to arm the timer is tended. -/
theorem upheld_tended {cast : Cast τ} (leaves : ∀ pair ∈ cast, ∀ n, ∀ action ∈ pair.2.script n, LeavesTimer action) :
    Upheld cast LeavesTimer (IfAccepting Tended) where
  plain := plain_tended
  placed _ held := held.withHub held.callbacks id rfl id
  amended _ _ held := held.withHub held.callbacks id rfl id
  callbacks held callback member := by
    rw [held.callbacks callback member]
    simp [actionsOf]
  calmed within held :=
    held.withHub (fun callback member => held.callbacks callback (within.callbacks callback member)) within.armed rfl id
  notified := keeps_notify_tended
  fired depth performed account idle held :=
    fireRefresh_tended (fun _ pair member n => performed _ _ (leaves pair member n)) account idle held
  cleared account held := by
    rw [exec_clearShots]
    have noted : Keeps (IfAccepting (τ := τ) Tended) (note .clear) := keeps_note_tended (by simp [Records]) (by simp)
    exact (noted account held).withHub held.callbacks id rfl fun notifies => notifies_map notifies fun _ => rfl
  published depth performed router place :=
    keeps_publishAt plain_tended router place (keeps_note_tended (by simp [Records]) (by simp))
      (fun _ => keeps_note_tended (by simp [Records]) (by simp)) keeps_record_tended
      fun pair member n => performed _ _ (leaves pair member n)
  handled _ := keeps_record_tended
  subscribed permitted account held := by
    rename_i token
    cases token <;> exact held.withHub held.callbacks id rfl id
  unsubscribed permitted account held := held.withHub held.callbacks id rfl id
  cancelled permitted account s found held := held.withHub held.callbacks id rfl id
  armed permitted := permitted.elim
  attached permitted account held := by
    rename_i router
    obtain ⟨routers,same⟩ := attached_frame account.hub router
    rw [same]
    exact held.withHub held.callbacks id rfl fun notifies => notifies_map notifies fun _ => rfl
  detached permitted account held := by
    obtain ⟨routers,same⟩ := detached_frame account.hub
    rw [same]
    exact held.withHub held.callbacks id rfl fun notifies => notifies_map notifies fun _ => rfl

/-- However observers publish, drop the shots, request and flush refreshes and fail while they are called, no
    refresh is lost, after every run and at every call of an observer, as long as the timer accepts what it is
    asked for while it is idle. -/
theorem no_refresh_is_lost {delay : τ} {timer : Timer τ (Callback τ)} {threshold : Nat} {hub : Hub τ}
    (made : new true delay timer threshold = .ok hub) (idle : timer.isArmed = false)
    (unused : timer.device.callbacks = []) {cast : Cast τ}
    (leaves : ∀ pair ∈ cast, ∀ n, ∀ action ∈ pair.2.script n, LeavesTimer action) (signals : Array Signal)
    (depth : Nat) (actions : List (Action τ)) (permitted : ∀ action ∈ actions, LeavesTimer action)
    (accepting : Accepting (afterAll cast depth actions { hub := { hub with signals } : Account τ }).past) :
    let account := afterAll cast depth actions { hub := { hub with signals } : Account τ }
    account.hub = afterAll cast depth actions { hub with signals } ∧
      NothingLost account.hub account.past ∧ SeenWithNothingLost account.past := by
  have start : IfAccepting Tended { hub := { hub with signals } : Account τ } := by
    rw [new_capturing made]
    obtain ⟨routers,same⟩ := attached_frame
      ({ recorder := some {}, scheduler := { delay }, timer, threshold } : Hub τ) 0
    rw [same]
    refine ⟨by simp [unused],fun _ => ⟨⟨?_,?_,?_,?_⟩,?_⟩⟩
    · simp [idle]
    · simp
    · simp [FollowedUp]
    · simp [SeenWithNothingLost]
    · simp [Owing]
  have tended := ((upheld_tended leaves).afterAll depth actions permitted _ start).holds accepting
  exact ⟨afterAll_hub cast depth actions _,tended.nothingLost,tended.seen⟩

/-- An observer of refreshes that publishes an event when it is called first, fires the refresh which that
    requested, and fails. -/
private def restless : Observer Rat where
  title := "restless"
  script
    | 0 => [.publish (.fresh (.ok (.event (.message "again")))) 0,.flush,.raise .missingPart]
    | _ => [.clear,.notify]

/-- A new hub that is observed by it, and an event that is published when it has been called. -/
private def restlessRun : Account Rat :=
  afterAll [("restless",restless)] maxCalls
    [.subscribe Kind.refresh.name (.observer "restless") 0 none,
      .publish (.fresh (.ok (.event (.result true "done")))) 0,.advance 1,.publish (.kept 0) 0]
    { hub := ({ recorder := some {}, scheduler := { delay := 1 }, timer := .byHand } : Hub Rat).attached 0 }

theorem no_refresh_is_lost_to_restless :
    Accepting restlessRun.past ∧
      NothingLost restlessRun.hub restlessRun.past ∧ SeenWithNothingLost restlessRun.past := by
  have leaves : ∀ pair ∈ [("restless",restless)], ∀ n, ∀ action ∈ pair.2.script n, LeavesTimer action := by
    simp only [List.mem_singleton,forall_eq]
    intro n action member
    cases n with
    | zero =>
      simp only [restless,List.mem_cons,List.not_mem_nil,or_false] at member
      rcases member with rfl | rfl | rfl <;> exact trivial
    | succ n =>
      simp only [restless,List.mem_cons,List.not_mem_nil,or_false] at member
      rcases member with rfl | rfl <;> exact trivial
  have accepts : (restlessRun.past.all fun moment => moment.hub.timer.isArmed ||
      (moment.hub.timer.schedule moment.hub.scheduler.delay .refresh).1.toOption == some true) = true := by
    decide +kernel
  have accepting : Accepting restlessRun.past := by
    intro moment member _ idle
    have accepted := List.all_eq_true.mp accepts moment member
    cases answer : (moment.hub.timer.schedule moment.hub.scheduler.delay .refresh).1 with
    | error fault => simp [idle,answer,Except.toOption] at accepted
    | ok armed => simpa [idle,answer,Except.toOption] using accepted
  have made : new true (1 : Rat) .byHand Level.off.number =
      .ok (({ recorder := some {}, scheduler := { delay := 1 }, timer := .byHand } : Hub Rat).attached 0) := rfl
  refine ⟨accepting,(no_refresh_is_lost made rfl rfl leaves #[] maxCalls _ ?_ accepting).2⟩
  intro action member
  simp only [List.mem_cons,List.not_mem_nil,or_false] at member
  rcases member with rfl | rfl | rfl | rfl <;> exact trivial

end ShotRecorder.Hub
