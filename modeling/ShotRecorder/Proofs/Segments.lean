import ShotRecorder.Proofs.Accounts

/-!
The shots are the segments of what was brought to the recorder. Nothing announces a shot, yet the records are
the events since the last reset, cut after each result (`cut`): a segment that a result ended gives a record
with its outcome, and what came after the last result gives the record of the open shot. So the events can be
had back from the records (`restored`), and none was lost, doubled or moved.
-/
namespace ShotRecorder

/-! ### Segments -/

/-- What was observed up to a result, and the result. -/
structure Segment where
  observed : List Event
  success : Bool
  value : String

namespace Segment

/-- An event in front of segments and of what comes after them. -/
def inFront (event : Event) : List Segment × List Event → List Segment × List Event
  | ([],trailing) => ([],event :: trailing)
  | (segment :: segments,trailing) => ({ segment with observed := event :: segment.observed } :: segments,trailing)

/-- Events cut after each result: the segments, and what comes after the last result. -/
def cut : List Event → List Segment × List Event
  | [] => ([],[])
  | .result success value :: rest => ({ observed := [], success, value } :: (cut rest).1,(cut rest).2)
  | event :: rest => inFront event (cut rest)

end Segment

open Segment

/-- The entry that an event leaves in the record of its shot. -/
def Event.entry? : Event → Option Entry
  | message text => some (.message text)
  | snapshot state rendered => some (.snapshot state rendered)
  | _ => none

/-- The event that left an entry. -/
def Entry.event : Entry → Event
  | message text => .message text
  | snapshot state rendered => .snapshot state rendered

/-- The record of a segment. -/
def Segment.shot (segment : Segment) : Shot :=
  { entries := segment.observed.filterMap Event.entry?, success := segment.success, result := segment.value }

/-- The events that left the record of a shot that has ended. -/
def Shot.events (shot : Shot) : List Event := shot.entries.map Entry.event ++ [.result shot.success shot.result]

namespace Segment

/-- The entries that are left by what comes after the last result, if something does. -/
def trailingEntries : List Event → Option (List Entry)
  | [] => none
  | event :: rest => some ((event :: rest).filterMap Event.entry?)

/-- The events that left records, of which the last may be that of an open shot. -/
def restored (isOpen : Bool) (shots : List Shot) : List Event :=
  if isOpen then
    shots.dropLast.flatMap Shot.events ++ shots.getLast?.toList.flatMap fun shot => shot.entries.map Entry.event
  else shots.flatMap Shot.events

end Segment

/-- Whether an event is a result. -/
def Event.isResult (event : Event) : Bool := event.kind == .result

theorem cut_append_result (events : List Event) (success : Bool) (value : String) :
    cut (events ++ [.result success value]) =
      ((cut events).1 ++ [{ observed := (cut events).2, success, value }],[]) := by
  induction events with
  | nil => rfl
  | cons event rest ih =>
    have front : ∀ (event : Event) (segments : List Segment) trailing,
        inFront event (segments ++ [{ observed := trailing, success, value }],[]) =
          ((inFront event (segments,trailing)).1 ++
            [{ observed := (inFront event (segments,trailing)).2, success, value }],[]) := by
      intro event segments trailing
      cases segments <;> rfl
    cases event with
    | result success' value' => simp [cut,ih]
    | _ =>
      simp only [List.cons_append,cut,ih]
      exact front _ _ _

theorem cut_append_observed (events : List Event) {event : Event} (observed : event.isResult = false) :
    cut (events ++ [event]) = ((cut events).1,(cut events).2 ++ [event]) := by
  induction events with
  | nil => cases event <;> first | rfl | simp [Event.isResult,Event.kind] at observed
  | cons first rest ih =>
    have front : ∀ (first : Event) (segments : List Segment) trailing,
        inFront first (segments,trailing ++ [event]) =
          ((inFront first (segments,trailing)).1,(inFront first (segments,trailing)).2 ++ [event]) := by
      intro first segments trailing
      cases segments <;> rfl
    cases first with
    | result success value => simp [cut,ih]
    | _ =>
      simp only [List.cons_append,cut,ih]
      exact front _ _ _

theorem length_cut (events : List Event) : (cut events).1.length = events.countP Event.isResult := by
  have front : ∀ (event : Event) pieces, (inFront event pieces).1.length = pieces.1.length := by
    rintro event ⟨segments,trailing⟩
    cases segments <;> rfl
  induction events with
  | nil => rfl
  | cons event rest ih => cases event <;> simp [cut,front,ih,Event.isResult,Event.kind]

/-- The records of the segments of producers' events, with what comes after them, give the events back. -/
theorem events_of_cut (events : List Event) (produced : ∀ event ∈ events, event.kind ∈ Kind.producers) :
    (cut events).1.flatMap (fun segment => segment.shot.events) ++
      ((cut events).2.filterMap Event.entry?).map Entry.event = events := by
  induction events with
  | nil => rfl
  | cons event rest ih =>
    have left := ih fun other member => produced other (by simp [member])
    have front : ∀ event : Event, event.entry?.map Entry.event = some event → ∀ pieces : List Segment × List Event,
        (inFront event pieces).1.flatMap (fun segment => segment.shot.events) ++
            ((inFront event pieces).2.filterMap Event.entry?).map Entry.event =
          event :: (pieces.1.flatMap (fun segment => segment.shot.events) ++
            (pieces.2.filterMap Event.entry?).map Entry.event) := by
      rintro event same ⟨segments,trailing⟩
      obtain ⟨entry,kept,rfl⟩ := Option.map_eq_some_iff.mp same
      cases segments <;> simp [inFront,Segment.shot,Shot.events,kept]
    cases event with
    | refresh => simpa [Event.kind,Kind.producers] using produced .refresh (by simp)
    | result success value =>
      simp only [cut,List.flatMap_cons,List.append_assoc,left]
      rfl
    | message text => exact (front _ rfl _).trans (congrArg _ left)
    | snapshot state rendered => exact (front _ rfl _).trans (congrArg _ left)

/-! ### The log of shots -/

/-- The log holds the records of the segments of events, and is open if something comes after them. -/
structure ShotLog.Cuts (shots : ShotLog) (events : List Event) : Prop where
  closed : shots.closed = (cut events).1.map Segment.shot
  current : shots.current = trailingEntries (cut events).2

namespace ShotLog.Cuts

variable {shots : ShotLog} {events : List Event}

theorem entries (cuts : shots.Cuts events) : shots.entries = (cut events).2.filterMap Event.entry? := by
  unfold ShotLog.entries
  rw [cuts.current]
  cases (cut events).2 <;> rfl

/-- What is observed after the last result makes the log open, whatever it is. -/
theorem observe (cuts : shots.Cuts events) {event : Event} {entry : Entry} (kept : event.entry? = some entry) :
    (shots.observe entry).Cuts (events ++ [event]) := by
  have observed : event.isResult = false := by
    cases event <;> first | rfl | simp [Event.entry?] at kept
  constructor
  · rw [cut_append_observed events observed]
    exact cuts.closed
  · rw [cut_append_observed events observed]
    have never : (cut events).2 ++ [event] ≠ [] := by simp
    have left : (shots.observe entry).current = some (((cut events).2 ++ [event]).filterMap Event.entry?) := by
      simp [ShotLog.observe,cuts.entries,kept]
    rw [left]
    cases same : (cut events).2 ++ [event] with
    | nil => exact absurd same never
    | cons first rest => rfl

/-- A result ends the segment that it belongs to. -/
theorem close (cuts : shots.Cuts events) (success : Bool) (value : String) :
    (shots.close success value).Cuts (events ++ [.result success value]) := by
  constructor
  · rw [cut_append_result]
    simp [ShotLog.close,cuts.closed,cuts.entries,Segment.shot]
  · rw [cut_append_result]
    rfl

theorem apply (cuts : shots.Cuts events) {event : Event} (produced : event.kind ∈ Kind.producers) :
    (shots.apply event).Cuts (events ++ [event]) := by
  cases event with
  | message text => exact cuts.observe rfl
  | snapshot state rendered => exact cuts.observe rfl
  | result success value => exact cuts.close success value
  | refresh => simp [Event.kind,Kind.producers] at produced

theorem records (cuts : shots.Cuts events) :
    shots.shots =
      (cut events).1.map Segment.shot ++ (trailingEntries (cut events).2).toList.map ({ entries := · }) := by
  unfold ShotLog.shots
  rw [cuts.closed,cuts.current]

theorem isOpen_iff (cuts : shots.Cuts events) : shots.isOpen ↔ (cut events).2 ≠ [] := by
  unfold ShotLog.isOpen
  rw [cuts.current]
  cases (cut events).2 <;> simp [trailingEntries]

theorem closedCount (cuts : shots.Cuts events) : shots.closedCount = events.countP Event.isResult := by
  unfold ShotLog.closedCount
  rw [cuts.closed,List.length_map,length_cut]

/-- The records and whether one of them is open give the events back. -/
theorem restored (cuts : shots.Cuts events) (produced : ∀ event ∈ events, event.kind ∈ Kind.producers) :
    restored shots.isOpen shots.shots = events := by
  have events := events_of_cut events produced
  rw [cuts.records]
  unfold Segment.restored ShotLog.isOpen
  rw [cuts.current]
  cases trailing : (cut _).2 with
  | nil => simpa [trailing,trailingEntries,List.flatMap_map] using events
  | cons event rest => simpa [trailing,trailingEntries,List.flatMap_map] using events

end ShotLog.Cuts

/-! ### Runs of a recorder -/

/-- What can be called on a recorder. -/
inductive RecorderCall where
  | handle (signal : Signal)
  | reset

/-- The action that calls it. -/
def RecorderCall.action {τ : Type} : RecorderCall → Action τ
  | handle signal => .handle (.fresh (.ok signal))
  | reset => .clear

/-- The events of producers since the last reset, after a call. -/
def RecorderCall.on (events : List Event) : RecorderCall → List Event
  | handle signal => events ++ signal.produced?.toList
  | reset => []

/-- The events of producers since the last reset. -/
def sinceReset (calls : List RecorderCall) : List Event := calls.foldl RecorderCall.on []

namespace Hub
open Run

variable {τ : Type}

/-- The recorder holds the records of events of producers. -/
structure Recorded (events : List Event) (account : Account τ) : Prop where
  capturing : account.hub.recorder.isSome
  produced : ∀ event ∈ events, event.kind ∈ Kind.producers
  cuts : account.hub.shots.Cuts events

theorem plain_recorded (events : List Event) : Plain (Recorded (τ := τ) events) := by
  refine plain_of_parts fun account => ⟨fun recorded => ?_,fun recorded => ?_⟩
  · exact ⟨recorded.capturing,recorded.produced,recorded.cuts⟩
  · exact ⟨recorded.capturing,recorded.produced,recorded.cuts⟩

variable [Clock τ]

theorem keeps_notify_recorded (events : List Event) : Keeps (Recorded (τ := τ) events) notify := by
  refine keeps_notify (plain_recorded events) ?_ ?_ ?_
  all_goals
    intro account recorded
    exact ⟨recorded.capturing,recorded.produced,recorded.cuts⟩

/-- Bringing a signal to the recorder records the event of a producer, however the request for a refresh ends. -/
theorem record_recorded {events : List Event} {account : Account τ} (recorded : Recorded events account)
    (signal : Signal) :
    Recorded (events ++ signal.produced?.toList) ((record signal).exec account).2 := by
  cases produced : signal.produced? with
  | none => simpa [record_passes produced] using recorded
  | some event =>
    obtain ⟨recorder,present⟩ := Option.isSome_iff_exists.mp recorded.capturing
    refine record_leads (Recorded events) (Recorded (events ++ [event])) (plain_recorded _) (plain_recorded _)
      produced ?_ ?_ present recorded
    · intro account recorder present recorded
      obtain ⟨-,producer⟩ := Signal.eq_of_produced produced
      refine ⟨rfl,?_,?_⟩
      · intro other member
        rcases List.mem_append.mp member with old | new
        · exact recorded.produced other old
        · exact List.mem_singleton.mp new ▸ producer
      · have cuts := recorded.cuts.apply producer
        simpa [shots,present] using cuts
    · intro account recorder _ held
      split
      · exact (keeps_notify_recorded _).discard account held
      · exact held

/-- One call of the recorder. -/
theorem act_recorded (cast : Cast τ) (performer : Performer (Account τ) τ) {events : List Event} {account : Account τ}
    (recorded : Recorded events account) (call : RecorderCall) :
    Recorded (call.on events) ((act cast performer none call.action).exec account).2 := by
  cases call with
  | reset =>
    obtain ⟨recorder,present⟩ := Option.isSome_iff_exists.mp recorded.capturing
    have dropped : (clearShots.exec account).2.hub.recorder = some { recorder with shots := {} } := by
      simp [exec_clearShots,present]
    refine leads_bind ⟨by simp [dropped],by simp [RecorderCall.on],?_⟩ fun _ => keeps_pure _
    unfold shots
    rw [dropped]
    exact ⟨rfl,rfl⟩
  | handle signal =>
    have ready : Recorded events
        { account with hub := { account.hub with signals := account.hub.signals.push signal } } :=
      ⟨recorded.capturing,recorded.produced,recorded.cuts⟩
    unfold act RecorderCall.action
    rw [exec_bind,exec_place]
    dsimp only
    rw [exec_bind,exec_signalAt]
    simp only [Array.getElem?_push_size]
    exact leads_bind (record_recorded ready signal) fun _ => keeps_pure _

/-- The calls of a recorder, one after the other. -/
theorem afterAll_recorded (cast : Cast τ) (depth : Nat) (calls : List RecorderCall) {events : List Event}
    {account : Account τ} (recorded : Recorded events account) :
    Recorded (calls.foldl RecorderCall.on events) (afterAll cast depth (calls.map RecorderCall.action) account) := by
  induction calls generalizing events account with
  | nil => exact recorded
  | cons call rest ih => exact ih (act_recorded cast _ recorded call)

/-- After any calls of a new recorder, whatever becomes of the refreshes that it requests, its records are the
    events since the last reset cut after each result, and these events can be had back from the records. -/
theorem records_are_segments (hub : Hub τ) {recorder : Recorder} (present : hub.recorder = some recorder)
    (empty : recorder.shots = {}) (cast : Cast τ) (depth : Nat) (calls : List RecorderCall) :
    let events := sinceReset calls
    let log := (afterAll cast depth (calls.map RecorderCall.action) hub).shots
    log.shots = (cut events).1.map Segment.shot ++ (trailingEntries (cut events).2).toList.map ({ entries := · }) ∧
      (log.isOpen ↔ (cut events).2 ≠ []) ∧
      log.closedCount = events.countP Event.isResult ∧
      log.count = log.closedCount + (if log.isOpen then 1 else 0) ∧ log.count = log.shots.length ∧
      restored log.isOpen log.shots = events := by
  have start : Recorded [] { hub } := by
    refine ⟨by simp [present],by simp,?_⟩
    simp only [shots,present,Option.map_some,Option.getD_some,empty]
    exact ⟨rfl,rfl⟩
  have recorded := afterAll_recorded cast depth calls start
  have cuts := recorded.cuts
  rw [afterAll_hub] at cuts
  refine ⟨cuts.records,cuts.isOpen_iff,cuts.closedCount,rfl,?_,cuts.restored recorded.produced⟩
  exact (ShotLog.length_shots _).symm

/-- Two results, a bare announcement and a message, where every request for a refresh fails. -/
theorem records_are_segments_when_requests_fail :
    let timer : Timer Rat (Callback Rat) :=
      { device := .manual .new, troubles := [.fails .missingPart,.fails .missingPart,.fails .missingPart] }
    let hub : Hub Rat := { recorder := some {}, scheduler := { delay := 1 }, timer }
    let calls : List RecorderCall :=
      [.handle (.event (.message "lost")),.reset,.handle (.event (.result true "ok")),.handle (.bare "Message"),
        .handle (.event .refresh),.handle (.event (.result false "")),.handle (.event (.message "m"))]
    let log := (afterAll [] maxCalls (calls.map RecorderCall.action) hub).shots
    log.shots = [{ success := true, result := "ok" },{},{ entries := [.message "m"] }] ∧
      restored log.isOpen log.shots = sinceReset calls := by
  intro timer hub calls
  obtain ⟨records,-,-,-,-,back⟩ := records_are_segments hub rfl rfl [] maxCalls calls
  exact ⟨records,back⟩

end Hub

end ShotRecorder
