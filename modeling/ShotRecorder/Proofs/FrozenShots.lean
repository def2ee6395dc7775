import Mathlib.Data.List.ModifyLast
import ShotRecorder.Proofs.Accounts

/-!
Shots that have ended are frozen, and no record is taken away. Whatever a run does between two moments at which the
shots are not dropped — the recorder may be attached elsewhere while an event is being delivered, requests for a
refresh may fail, observers may change events that were recorded — the later log continues the earlier one
(`ShotLog.Continues`). One event does that (`ShotLog.apply_continues`), nothing else changes the log, and continuing is
transitive, so that it holds of any two moments between which nobody dropped the shots (`ended_shots_stay`).
-/
namespace ShotRecorder

/-- The outcome in a record. -/
def Shot.outcome (shot : Shot) : Bool × String := (shot.success,shot.result)

namespace ShotLog

/-- A later log continues an earlier one: the shots that had ended are its first ones, and the shot that was open is
    still there, perhaps with more entries and an outcome. -/
structure Continues (later earlier : ShotLog) : Prop where
  closed : earlier.closed <+: later.closed
  current : ∀ entries, earlier.current = some entries →
    ∃ shot, later.shots[earlier.closedCount]? = some shot ∧ entries <+: shot.entries

/-- A record is that of a shot that has ended, or of the open one. -/
theorem getElem?_shots {log : ShotLog} {i : Nat} {shot : Shot} (found : log.shots[i]? = some shot) :
    i < log.closedCount ∧ log.closed[i]? = some shot ∨
      i = log.closedCount ∧ log.current = some shot.entries ∧ shot.outcome = (false,"") := by
  unfold shots at found
  unfold closedCount
  by_cases ended : i < log.closed.length
  · rw [List.getElem?_append_left ended] at found
    exact .inl ⟨ended,found⟩
  · rw [List.getElem?_append_right (by omega)] at found
    cases opened : log.current with
    | none => simp [opened] at found
    | some entries =>
      simp only [opened,Option.toList_some,List.map_cons,List.map_nil] at found
      obtain ⟨last,rfl⟩ := List.getElem?_eq_some_iff.mp found
      have here : i = log.closed.length := by
        have := List.length_singleton ▸ last
        omega
      subst here
      simp [Shot.outcome]

theorem getElem?_shots_closed (log : ShotLog) {i : Nat} (ended : i < log.closedCount) :
    log.shots[i]? = log.closed[i]? := by
  unfold shots
  exact List.getElem?_append_left ended

theorem getElem?_shots_current {log : ShotLog} {entries : List Entry} (opened : log.current = some entries) :
    log.shots[log.closedCount]? = some { entries } := by
  simp [shots,closedCount,opened]

namespace Continues

variable {later earlier : ShotLog}

theorem refl (log : ShotLog) : log.Continues log where
  closed := List.prefix_refl _
  current _ opened := ⟨_,getElem?_shots_current opened,List.prefix_refl _⟩

theorem closedCount_le (continues : later.Continues earlier) : earlier.closedCount ≤ later.closedCount :=
  continues.closed.length_le

/-- The record of a shot that has ended does not change, nor does its place. -/
theorem frozen (continues : later.Continues earlier) {i : Nat} (ended : i < earlier.closedCount) :
    later.shots[i]? = earlier.shots[i]? := by
  obtain ⟨more,same⟩ := continues.closed
  have inside : i < later.closedCount := Nat.lt_of_lt_of_le ended continues.closedCount_le
  rw [getElem?_shots_closed _ inside,getElem?_shots_closed _ ended,← same]
  exact List.getElem?_append_left ended

theorem trans {last : ShotLog} (second : last.Continues later) (first : later.Continues earlier) :
    last.Continues earlier where
  closed := first.closed.trans second.closed
  current entries opened := by
    obtain ⟨shot,found,kept⟩ := first.current entries opened
    rcases getElem?_shots found with ⟨ended,-⟩ | ⟨here,still,-⟩
    · exact ⟨shot,(second.frozen ended).trans found,kept⟩
    · obtain ⟨shot',found',kept'⟩ := second.current shot.entries still
      exact ⟨shot',here ▸ found',kept.trans kept'⟩

/-- An outcome changes only when the shot ends. -/
theorem ends_of_outcome (continues : later.Continues earlier) {i : Nat} {old new : Shot}
    (before : earlier.shots[i]? = some old) (after : later.shots[i]? = some new) (changed : new.outcome ≠ old.outcome) :
    i = earlier.closedCount ∧ earlier.isOpen ∧ i < later.closedCount := by
  rcases getElem?_shots before with ⟨ended,-⟩ | ⟨here,opened,unset⟩
  · have same := (continues.frozen ended).symm.trans after
    rw [before] at same
    exact absurd (congrArg Shot.outcome (Option.some.inj same).symm) changed
  · rcases getElem?_shots after with ⟨ended,-⟩ | ⟨-,-,unset'⟩
    · exact ⟨here,by simp [isOpen,opened],ended⟩
    · exact absurd (unset'.trans unset.symm) changed

end Continues

/-- What a later log keeps of the records of an earlier one, and the last log of both. -/
structure Stays (earlier later last : ShotLog) : Prop where
  /-- The records of the shots that had ended are the first ones, and still of shots that have ended. -/
  ended : earlier.closed <+: later.shots ∧ earlier.closedCount ≤ later.closedCount
  /-- Each of them is where it was, the same in every part. -/
  places : ∀ i < earlier.closedCount, later.shots[i]? = earlier.shots[i]?
  /-- The record of the open shot is where it was, and begins with what was in it. -/
  opened : earlier.isOpen → ∃ shot, later.shots[earlier.closedCount]? = some shot ∧ earlier.entries <+: shot.entries
  /-- An outcome changes as the open shot ends, and that record is the last log's too. -/
  outcomes : ∀ i old new, earlier.shots[i]? = some old → later.shots[i]? = some new → new.outcome ≠ old.outcome →
    earlier.isOpen ∧ i = earlier.closedCount ∧ i < later.closedCount ∧ last.shots[i]? = some new

theorem Continues.stays {earlier later last : ShotLog} (first : later.Continues earlier)
    (second : last.Continues later) : Stays earlier later last where
  ended := ⟨first.closed.trans (List.prefix_append _ _),first.closedCount_le⟩
  places _ ended := first.frozen ended
  opened isOpen := by
    obtain ⟨entries,opened⟩ := Option.isSome_iff_exists.mp isOpen
    have held : earlier.entries = entries := by simp [ShotLog.entries,opened]
    exact held ▸ first.current entries opened
  outcomes i old new before after changed := by
    obtain ⟨here,isOpen,ended⟩ := first.ends_of_outcome before after changed
    exact ⟨isOpen,here,ended,(second.frozen ended).trans after⟩

/-- An event adds to the open shot or to a new one, or it ends that shot. -/
theorem apply_continues (log : ShotLog) (event : Event) : (log.apply event).Continues log := by
  have observed : ∀ entry, (log.observe entry).Continues log := by
    intro entry
    refine ⟨List.prefix_refl _,fun entries opened => ?_⟩
    have kept : (log.observe entry).current = some (entries ++ [entry]) := by simp [observe,ShotLog.entries,opened]
    exact ⟨_,getElem?_shots_current kept,List.prefix_append _ _⟩
  cases event with
  | message text => exact observed _
  | snapshot state rendered => exact observed _
  | refresh => exact Continues.refl log
  | result success value =>
    refine ⟨List.prefix_append _ _,fun entries opened => ?_⟩
    refine ⟨{ entries, success, result := value },?_,List.prefix_refl _⟩
    simp [ShotLog.apply,close,shots,closedCount,ShotLog.entries,opened]

/-! ### Records in one list -/

/-- The records in one list, and whether the last one is that of an open shot. -/
structure Records where
  all : List Shot := []
  active : Bool := false

namespace Records

/-- With a new record at the end, unless the last one is open. -/
def opened (records : Records) : Records :=
  if records.active then records else { all := records.all ++ [{}], active := true }

/-- With the last record changed. -/
def write (records : Records) (change : Shot → Shot) : Records :=
  { records with all := records.all.modifyLast change }

/-- An event written into the last record, which is opened for it. -/
def apply (records : Records) : Event → Records
  | .message text => records.opened.write fun shot => { shot with entries := shot.entries ++ [.message text] }
  | .snapshot state rendered =>
    records.opened.write fun shot => { shot with entries := shot.entries ++ [.snapshot state rendered] }
  | .result success value =>
    { records.opened.write fun shot => { shot with success, result := value } with active := false }
  | .refresh => records

end Records

/-- The log as one list of records. -/
def records (log : ShotLog) : Records := { all := log.shots, active := log.isOpen }

theorem records_opened (log : ShotLog) :
    log.records.opened = { all := log.closed ++ [{ entries := log.entries }], active := true } := by
  cases current : log.current <;> simp [records,Records.opened,shots,isOpen,entries,current]

theorem records_write (log : ShotLog) (change : Shot → Shot) :
    log.records.opened.write change = { all := log.closed ++ [change { entries := log.entries }], active := true } := by
  rw [records_opened,Records.write,List.modifyLast_concat]

/-- Keeping apart the shots that have ended is keeping one list whose last record is written into while it is open. -/
theorem records_apply (log : ShotLog) (event : Event) : (log.apply event).records = log.records.apply event := by
  cases event with
  | message text =>
    rw [Records.apply,records_write]
    rfl
  | snapshot state rendered =>
    rw [Records.apply,records_write]
    rfl
  | result success value =>
    rw [Records.apply,records_write]
    simp [records,ShotLog.apply,close,shots,isOpen]
  | refresh => rfl

end ShotLog

/-- The account as it was some moments ago, nought being the last moment. -/
def Account.ago? {τ : Type} (account : Account τ) (n : Nat) : Option (Account τ) :=
  match account.past.drop n with
  | [] => none
  | moment :: older => some { hub := moment.hub, past := older }

namespace Hub
open Run

variable {τ : Type}

/-- An account of a run as it was at the start, at one of its moments, or as it is now. -/
inductive AsItWas (start : Hub τ) (account : Account τ) : Account τ → Prop
  | start : AsItWas start account { hub := start }
  | moment {moment : Moment τ} {older : List (Moment τ)} (noted : moment :: older <:+ account.past) :
    AsItWas start account { hub := moment.hub, past := older }
  | now : AsItWas start account account

instance (occurrence : Occurrence) : Decidable (occurrence = .clear) :=
  match occurrence with
  | .clear => isTrue rfl
  | .publish _ _ | .call _ _ _ | .record _ | .request | .refresh => isFalse nofun

/-- Between an account and a later one the shots were not dropped. -/
def Unbroken (before after : Account τ) : Prop :=
  ∃ happened, after.past = happened ++ before.past ∧ ∀ moment ∈ happened, moment.occurrence ≠ .clear

theorem Unbroken.refl (account : Account τ) : Unbroken account account := ⟨[],rfl,by simp⟩

theorem asItWas_of_ago {start : Hub τ} {account before : Account τ} {n : Nat} (ago : account.ago? n = some before) :
    AsItWas start account before := by
  unfold Account.ago? at ago
  split at ago
  · cases ago
  · rename_i moment older rest
    obtain rfl := Option.some.inj ago
    exact .moment (rest ▸ List.drop_suffix n account.past)

theorem unbroken_of_ago {account before : Account τ} {n : Nat} (ago : account.ago? n = some before)
    (calm : ∀ moment ∈ account.past.take (n + 1), moment.occurrence ≠ .clear) : Unbroken before account := by
  unfold Account.ago? at ago
  split at ago
  · cases ago
  · rename_i moment older rest
    obtain rfl := Option.some.inj ago
    refine ⟨_,?_,calm⟩
    have after : account.past.drop (n + 1) = older := by rw [← List.tail_drop,rest,List.tail_cons]
    rw [← after,List.take_append_drop]

/-- From the start to the first moment, from each moment to the next, and from the last to now the shots are continued,
    unless they are dropped. -/
def Continued (start : Hub τ) : List (Moment τ) → ShotLog → Prop
  | [], now => now.Continues start.shots
  | moment :: older, now =>
    (moment.occurrence ≠ .clear → now.Continues moment.hub.shots) ∧ Continued start older moment.hub.shots

variable {start : Hub τ}

theorem Continued.on {past : List (Moment τ)} {now later : ShotLog} (continued : Continued start past now)
    (continues : later.Continues now) : Continued start past later := by
  cases past with
  | nil => exact continues.trans continued
  | cons moment older => exact ⟨fun kept => continues.trans (continued.1 kept),continued.2⟩

theorem Continued.older {happened older : List (Moment τ)} {moment : Moment τ} {now : ShotLog}
    (continued : Continued start (happened ++ moment :: older) now) : Continued start older moment.hub.shots := by
  induction happened generalizing now with
  | nil => exact continued.2
  | cons last happened ih => exact ih continued.2

/-- The shots of a moment are continued as long as they are not dropped. -/
theorem Continued.since {happened older : List (Moment τ)} {moment : Moment τ} {now : ShotLog}
    (continued : Continued start (happened ++ moment :: older) now) (kept : moment.occurrence ≠ .clear)
    (calm : ∀ moment ∈ happened, moment.occurrence ≠ .clear) : now.Continues moment.hub.shots := by
  induction happened generalizing now with
  | nil => exact continued.1 kept
  | cons last happened ih =>
    have ⟨calmLast,calmRest⟩ := List.forall_mem_cons.mp calm
    exact (continued.1 calmLast).trans (ih continued.2 calmRest)

theorem Continued.sinceStart {past : List (Moment τ)} {now : ShotLog} (continued : Continued start past now)
    (calm : ∀ moment ∈ past, moment.occurrence ≠ .clear) : now.Continues start.shots := by
  induction past generalizing now with
  | nil => exact continued
  | cons last past ih =>
    have ⟨calmLast,calmRest⟩ := List.forall_mem_cons.mp calm
    exact (continued.1 calmLast).trans (ih continued.2 calmRest)

/-- The shots of an account are continued from the start until now. -/
def Continuous (start : Hub τ) (account : Account τ) : Prop := Continued start account.past account.hub.shots

theorem Continuous.noted {account : Account τ} (continuous : Continuous start account) (occurrence : Occurrence) :
    Continuous start { account with past := { occurrence, hub := account.hub } :: account.past } :=
  ⟨fun _ => .refl _,continuous⟩

/-- An account was continuous at each of its moments. -/
theorem Continuous.asItWas {account before : Account τ} (continuous : Continuous start account)
    (was : AsItWas start account before) : Continuous start before := by
  cases was with
  | start => exact .refl _
  | moment noted =>
    obtain ⟨happened,split⟩ := noted
    rw [Continuous,← split] at continuous
    exact continuous.older
  | now => exact continuous

/-- The shots of a moment are continued unless they were dropped since. -/
theorem Continuous.continues {before after : Account τ} (continuous : Continuous start after)
    (was : AsItWas start after before) (unbroken : Unbroken before after) :
    after.hub.shots.Continues before.hub.shots := by
  obtain ⟨happened,since,calm⟩ := unbroken
  cases was with
  | start =>
    refine continuous.sinceStart ?_
    simpa [since] using calm
  | moment noted =>
    rename_i moment older
    obtain ⟨happened',split⟩ := noted
    have same : happened = happened' ++ [moment] := by
      have joined : happened ++ older = happened' ++ [moment] ++ older := by
        rw [← since,← split,List.append_assoc,List.singleton_append]
      exact List.append_cancel_right joined
    subst same
    rw [Continuous,← split] at continuous
    simp only [List.mem_append,List.mem_singleton] at calm
    exact continuous.since (calm _ (.inr rfl)) fun moment inside => calm moment (.inl inside)
  | now => exact .refl _

theorem plain_continued : Plain (Continuous start) := by
  apply plain_of_parts
  exact fun _ => Iff.rfl

variable [Clock τ]

private theorem keeps_notify_continued : Keeps (Continuous start) notify :=
  keeps_notify plain_continued (fun _ continuous => continuous.noted _) (fun _ continuous => continuous)
    fun _ continuous => continuous

private theorem keeps_record_continued (signal : Signal) : Keeps (Continuous start) (record signal) := by
  intro account continuous
  cases produced : signal.produced? with
  | none => simpa only [record_passes produced] using continuous
  | some event =>
    cases present : account.hub.recorder with
    | none =>
      unfold record
      rw [exec_bind,exec_look]
      dsimp only [hub_account]
      rw [present]
      exact continuous
    | some recorder =>
      refine record_leads (I := Continuous start) (Continuous start) (Continuous start)
        plain_continued plain_continued produced ?_ ?_ present continuous
      · intro account recorder present continuous
        have continues := account.hub.shots.apply_continues event
        refine (continuous.noted (.record event)).on ?_
        simpa [shots,present] using continues
      · intro account recorder _ continuous
        split
        · exact keeps_notify_continued.discard account continuous
        · exact continuous

private theorem keeps_publishAt_continued {cast : Cast τ} {performer : Performer (Account τ) τ}
    (performed : ∀ context actions, Keeps (Continuous start) (performer context actions)) (router place : Nat) :
    Keeps (Continuous start) (publishAt cast performer router place) :=
  keeps_publishAt plain_continued router place (fun _ continuous => continuous.noted _)
    (fun _ _ continuous => continuous.noted _) keeps_record_continued fun _ _ _ => performed _ _

/-- Every run continues the shots from moment to moment, whatever it does. -/
theorem upheld_continued (cast : Cast τ) : Upheld cast (fun _ => True) (Continuous start) where
  plain := plain_continued
  placed _ continuous := continuous
  amended _ _ continuous := continuous
  callbacks _ _ _ _ _ := trivial
  calmed _ continuous := continuous
  notified := keeps_notify_continued
  fired depth performed account _ :=
    keeps_fireRefresh plain_continued (fun _ continuous => continuous.noted _) (fun _ continuous => continuous)
      (keeps_publishAt_continued (fun _ _ => performed _ _ fun _ _ => trivial) 0) account
  cleared account continuous := by
    rw [exec_clearShots]
    exact ⟨fun kept => absurd rfl kept,continuous⟩
  published depth performed := keeps_publishAt_continued fun _ _ => performed _ _ fun _ _ => trivial
  handled _ signal := keeps_record_continued signal
  subscribed _ _ continuous := by
    rename_i token _ _
    cases token <;> exact continuous
  unsubscribed _ _ continuous := continuous
  cancelled _ _ _ _ continuous := continuous
  armed _ _ continuous := continuous
  attached := by
    intro router _ account continuous
    obtain ⟨routers,same⟩ := attached_frame account.hub router
    have kept : (account.hub.attached router).shots = account.hub.shots := by
      simp [same,shots,Function.comp_def]
    simpa only [Continuous,kept] using continuous
  detached := by
    intro _ account continuous
    obtain ⟨routers,same⟩ := detached_frame account.hub
    have kept : account.hub.detached.shots = account.hub.shots := by simp [same,shots,Function.comp_def]
    simpa only [Continuous,kept] using continuous

/-- Whatever a run does, on whatever routers, to the recorder, its timer and the events: from any moment to a later one
    between which the shots are not dropped, the records of shots that have ended stay the first ones and stay as they
    are, that of the open shot stays where it is and only grows, and an outcome is given once, as a shot ends. -/
theorem ended_shots_stay (cast : Cast τ) (depth : Nat) (actions : List (Action τ)) (hub : Hub τ) :
    let account := afterAll cast depth actions { hub : Account τ }
    account.hub = afterAll cast depth actions hub ∧
      ∀ last after before, AsItWas hub account last → AsItWas hub last after → AsItWas hub after before →
        Unbroken before after → Unbroken after last →
          ShotLog.Stays before.hub.shots after.hub.shots last.hub.shots := by
  -- Every moment of the run is continuous with the one before it, and so with any before that.
  have started : Continuous hub { hub } := .refl hub.shots
  have continuous := (upheld_continued cast).afterAll depth actions (fun _ _ => trivial) _ started
  refine ⟨afterAll_hub cast depth actions _,fun last after before isLast isAfter isBefore first second => ?_⟩
  have continuousLast := continuous.asItWas isLast
  have continuousAfter := continuousLast.asItWas isAfter
  exact (continuousAfter.continues isBefore first).stays (continuousLast.continues isAfter second)

/-- An observer that changes the snapshot it is called with, has the recorder attached elsewhere, publishes the snapshot
    there, detaches the recorder and fails. -/
private def roamer : Observer Rat where
  title := "roamer"
  script
    | 0 =>
      [.amend ([("x",.bool true)] : Members),.attach 1,.publish (.kept 0) 1,.detach,
        .raise (.thrown "ValueError" .value [])]
    | _ => []

/-- A hub with two routers that keeps a snapshot. -/
private def roamedHub : Hub Rat :=
  { whole := false, routers := [.empty,.empty], recorder := some {}, scheduler := { delay := 1 }, timer := .byHand
    signals := #[.event (.snapshot [] none)] }

/-- The first shot ends at once, and the second while the recorder is detached. -/
private def roamedRun : Account Rat :=
  afterAll [("roamer",roamer)] maxCalls
    [.handle (.fresh (.ok (.event (.result true "first")))),.attach 0,
      .subscribe Kind.snapshot.name (.observer "roamer") 0 none,.publish (.kept 0) 0,
      .handle (.fresh (.ok (.event (.result false "second")))),.clear]
    { hub := roamedHub }

/-- The shots were dropped at the last moment, not at the five before it. -/
theorem ended_shots_stay_while_roamer_is_called : ∃ after before,
    roamedRun.ago? 0 = some after ∧ after.ago? 4 = some before ∧
      before.hub.shots.closedCount = 1 ∧ before.hub.shots.isOpen ∧ after.hub.shots.closedCount = 2 ∧
      roamedRun.hub.shots.closedCount = 0 ∧ ShotLog.Stays before.hub.shots after.hub.shots after.hub.shots := by
  obtain ⟨after,isAfter⟩ := Option.isSome_iff_exists.mp (by decide +kernel : (roamedRun.ago? 0).isSome)
  have found : ((roamedRun.ago? 0).bind fun after => after.ago? 4).isSome := by decide +kernel
  rw [isAfter,Option.bind_some] at found
  obtain ⟨before,isBefore⟩ := Option.isSome_iff_exists.mp found
  have counts : (roamedRun.ago? 0).map (fun after => after.hub.shots.closedCount) = some 2 := by decide +kernel
  have opened : ((roamedRun.ago? 0).bind fun after => after.ago? 4).map
      (fun before => (before.hub.shots.closedCount,before.hub.shots.isOpen)) = some (1,true) := by decide +kernel
  have calm : ((roamedRun.ago? 0).all fun after =>
      decide (∀ moment ∈ after.past.take 5, moment.occurrence ≠ .clear)) = true := by decide +kernel
  simp only [isAfter,isBefore,Option.map_some,Option.bind_some,Option.all_some,decide_eq_true_eq,Option.some.injEq,
    Prod.mk.injEq] at counts opened calm
  have stays := (ended_shots_stay [("roamer",roamer)] maxCalls _ roamedHub).2 after after before
    (asItWas_of_ago isAfter) .now (asItWas_of_ago isBefore) (unbroken_of_ago isBefore calm) (.refl after)
  exact ⟨after,before,isAfter,isBefore,opened.1,opened.2,counts,by decide +kernel,stays⟩

end Hub

end ShotRecorder
