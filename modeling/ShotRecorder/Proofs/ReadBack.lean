import ShotRecorder.Http.Body
import ShotRecorder.Proofs.EventFiles
import ShotRecorder.Proofs.Segments

/-!
What is written of events and shots is read again. A value is written as it is unless a number in it has no finite
value, in whose place stands null (`Json.writable_eq_self`), and writing once is enough (`Json.writable_writable`). So
what is read is the event as it was written (`Event.ofJson_toJson`), the same event wherever all of its numbers are
finite (`Event.dump_is_read_back`), and the records of shots are read with the entries of such events
(`Shot.records_are_read_back`).
-/
namespace ShotRecorder

namespace Json

mutual

/-- Nothing but a number without a finite value is written as something else. -/
theorem writable_eq_self : ∀ v : Json, v.writable = v ↔ v.hasNonFinite = false
  | null | bool _ | string _ => by simp [writable,hasNonFinite]
  | number n => by
    rw [writable,hasNonFinite]
    cases n.isNonFinite <;> simp
  | array items => by simp only [writable,hasNonFinite,array.injEq,writableItems_eq_self items]
  | object members => by simp only [writable,hasNonFinite,object.injEq,writableMembers_eq_self members]

theorem writableItems_eq_self : ∀ items : List Json, writableItems items = items ↔ anyNonFinite items = false
  | [] => by simp [writableItems,anyNonFinite]
  | item :: rest => by
    simp only [writableItems,anyNonFinite,List.cons.injEq,Bool.or_eq_false_iff,writable_eq_self item,
      writableItems_eq_self rest]

theorem writableMembers_eq_self :
    ∀ members : List (String × Json), writableMembers members = members ↔ anyMemberNonFinite members = false
  | [] => by simp [writableMembers,anyMemberNonFinite]
  | (key,v) :: rest => by
    simp only [writableMembers,anyMemberNonFinite,List.cons.injEq,Prod.mk.injEq,true_and,Bool.or_eq_false_iff,
      writable_eq_self v,writableMembers_eq_self rest]

end

mutual

theorem hasNonFinite_writable : ∀ v : Json, v.writable.hasNonFinite = false
  | null | bool _ | string _ => by simp [writable,hasNonFinite]
  | number n => by
    by_cases finite : n.isNonFinite <;> simp [writable,hasNonFinite,finite]
  | array items => anyNonFinite_writable items
  | object members => anyMemberNonFinite_writable members

theorem anyNonFinite_writable : ∀ items : List Json, anyNonFinite (writableItems items) = false
  | [] => rfl
  | item :: rest => by simp [writableItems,anyNonFinite,hasNonFinite_writable item,anyNonFinite_writable rest]

theorem anyMemberNonFinite_writable :
    ∀ members : List (String × Json), anyMemberNonFinite (writableMembers members) = false
  | [] => rfl
  | (key,v) :: rest => by
    simp [writableMembers,anyMemberNonFinite,hasNonFinite_writable v,anyMemberNonFinite_writable rest]

end

theorem writable_rendered (rendered : Option String) :
    ((rendered.map string).getD null).writable = (rendered.map string).getD null := by
  cases rendered <;> rfl

end Json

/-! ### Events -/

namespace Event
open Json

/-- The event that is left where numbers without a finite value give way to null. -/
def writable : Event → Event
  | snapshot state rendered => snapshot (writableMembers state) rendered
  | event => event

/-- Whether the state of the event holds a number without a finite value. -/
def hasNonFinite : Event → Bool
  | snapshot state _ => (Json.object state).hasNonFinite
  | _ => false

theorem kind_writable (event : Event) : event.writable.kind = event.kind := by cases event <;> rfl

theorem writable_eq_self {event : Event} : event.writable = event ↔ event.hasNonFinite = false := by
  cases event with
  | snapshot state rendered =>
    simp only [writable,hasNonFinite,snapshot.injEq,and_true,Json.hasNonFinite,writableMembers_eq_self]
  | _ => simp [writable,hasNonFinite]

/-- An event is written with the members of what is left of it. -/
theorem toJson_eq (event : Event) : event.toJson = .object event.writable.members := by
  cases event with
  | snapshot state rendered =>
    simp only [toJson,members,fields,kind,writable,Json.writable,writableMembers,writable_rendered]
  | _ => rfl

/-- What is written of a producer's event is read as what is left of it. -/
theorem ofJson_toJson {event : Event} (produced : event.kind ∈ Kind.producers) (form : Form) (path : Path) :
    ofJson form path event.toJson = .pass event.writable := by
  rw [toJson_eq]
  exact ofJson_pass.mpr (denotes_members (kind_writable event ▸ produced))

end Event

/-! ### Shots -/

namespace Entry
open Json

/-- The entry that is left where numbers without a finite value give way to null. -/
def writable : Entry → Entry
  | message text => message text
  | snapshot state rendered => snapshot (writableMembers state) rendered

/-- Whether the state in the entry holds a number without a finite value. -/
def hasNonFinite : Entry → Bool
  | message _ => false
  | snapshot state _ => (Json.object state).hasNonFinite

theorem writable_eq_self {entry : Entry} : entry.writable = entry ↔ entry.hasNonFinite = false := by
  cases entry with
  | message text => simp [writable,hasNonFinite]
  | snapshot state rendered =>
    simp only [writable,hasNonFinite,snapshot.injEq,and_true,Json.hasNonFinite,writableMembers_eq_self]

theorem text_writable (entry : Entry) : entry.writable.text? = entry.text? := by cases entry <;> rfl

theorem ofJson_toJson (entry : Entry) (form : Form) (path : Path) :
    ofJson form path entry.toJson = .pass entry.writable := by
  cases entry with
  | message text => rfl
  | snapshot state rendered =>
    simp only [toJson,Json.writable,writableMembers,writable_rendered]
    cases rendered <;> rfl

end Entry

theorem Event.hasNonFinite_of_entry {event : Event} {entry : Entry} (left : event.entry? = some entry) :
    event.hasNonFinite = entry.hasNonFinite := by
  cases event <;> cases left <;> rfl

theorem Checked.each_map {α β : Type} {check : Nat → Json → Checked β} {write : α → Json} {left : α → β}
    (read : ∀ place a, check place (write a) = .pass (left a)) (as : List α) (start : Nat) :
    each check start (as.map write) = .pass (as.map left) := by
  induction as generalizing start with
  | nil => rfl
  | cons a rest ih =>
    rw [List.map_cons,each,read,ih]
    rfl

namespace ShotLog

/-- All that was observed, in whichever shot. -/
def observed (log : ShotLog) : List Entry := log.shots.flatMap Shot.entries

theorem observed_apply (log : ShotLog) (event : Event) :
    (log.apply event).observed = log.observed ++ event.entry?.toList := by
  cases event <;> cases current : log.current <;>
    simp [observed,shots,apply,observe,close,entries,current,Event.entry?]

theorem observed_foldl (events : List Event) (log : ShotLog) :
    (events.foldl apply log).observed = log.observed ++ events.filterMap Event.entry? := by
  induction events generalizing log with
  | nil => simp
  | cons event rest ih =>
    rw [List.foldl_cons,ih,observed_apply]
    cases left : event.entry? <;> simp [left]

end ShotLog

namespace Shot

/-- The record that is left where numbers without a finite value give way to null. -/
def writable (shot : Shot) : Shot := { shot with entries := shot.entries.map Entry.writable }

/-- Whether a state in the record holds a number without a finite value. -/
def hasNonFinite (shot : Shot) : Bool := shot.entries.any Entry.hasNonFinite

theorem writable_eq_self {shot : Shot} : shot.writable = shot ↔ shot.hasNonFinite = false := by
  have entries : shot.writable = shot ↔ shot.entries.map Entry.writable = shot.entries :=
    ⟨congrArg Shot.entries,fun same => by rw [writable,same]⟩
  have each : shot.entries.map Entry.writable = shot.entries ↔ ∀ entry ∈ shot.entries, entry.writable = entry := by
    simpa only [List.map_id,id] using @List.map_inj_left _ _ shot.entries Entry.writable id
  rw [entries,each,hasNonFinite,List.any_eq_false]
  exact forall₂_congr fun entry _ => by rw [Entry.writable_eq_self,Bool.not_eq_true]

theorem messages_writable (shot : Shot) : shot.writable.messages = shot.messages := by
  simp only [messages,writable,List.filterMap_map,Function.comp_def,Entry.text_writable]

/-- What is written of a record is read as what is left of it. -/
theorem ofJson_toJson (shot : Shot) (form : Form) (path : Path) :
    ofJson form path shot.toJson = .pass shot.writable := by
  have entries : ∀ path, Entry.listOfJson form path (.array (shot.entries.map Entry.toJson)) =
      .pass (shot.entries.map Entry.writable) :=
    fun path => Checked.each_map (fun place entry => entry.ofJson_toJson form _) shot.entries 0
  have observed : Field.optional (Entry.listOfJson form) "sub_events" [] path
      [("sub_events",.array (shot.entries.map Entry.toJson)),("success",.bool shot.success),
        ("result",.string shot.result)] = .pass (shot.entries.map Entry.writable) := entries _
  simp only [ofJson,toJson,observed]
  rfl

/-- What was observed in the shots of a stream was observed in one of its events. -/
theorem entry_of_stream {events : List Event} {shot : Shot} (recorded : shot ∈ (events.foldl ShotLog.apply {}).shots)
    {entry : Entry} (among : entry ∈ shot.entries) : ∃ event ∈ events, event.entry? = some entry := by
  have inside : entry ∈ (events.foldl ShotLog.apply {}).observed := List.mem_flatMap.mpr ⟨shot,recorded,among⟩
  rw [ShotLog.observed_foldl] at inside
  exact List.mem_filterMap.mp inside

/-- Whatever the events of a stream hold, each of its records is read from what is written of it, with the same messages.
    It is the same record exactly where all numbers in its states are finite, and so wherever those of the events are. -/
theorem records_are_read_back {events : List Event} {shot : Shot}
    (recorded : shot ∈ (events.foldl ShotLog.apply {}).shots) (form : Form) :
    ofJson form [] shot.toJson = .pass shot.writable ∧ shot.writable.messages = shot.messages ∧
      (shot.writable = shot ↔ shot.hasNonFinite = false) ∧
      ((∀ event ∈ events, event.hasNonFinite = false) → ofJson form [] shot.toJson = .pass shot) := by
  refine ⟨shot.ofJson_toJson form [],shot.messages_writable,writable_eq_self,fun finite => ?_⟩
  have each : shot.hasNonFinite = false := by
    rw [hasNonFinite,List.any_eq_false]
    intro entry among
    obtain ⟨event,inside,left⟩ := entry_of_stream recorded among
    rw [← Event.hasNonFinite_of_entry left,finite event inside]
    simp
  rw [ofJson_toJson,writable_eq_self.mpr each]

/-- A shot with numbers of both forms, and after it one with a number beyond all that are finite. -/
theorem records_are_read_back_of_two :
    let text := "\x7b\"type\":\"StateSnapshot\",\"state\":\x7b\"a\":[0.5,1,-0.0],\"b\":\x7b\"c\":null\x7d\x7d\x7d".toList
    let text' := "\x7b\"type\":\"StateSnapshot\",\"rendered_form\":\"r\",\"state\":\x7b\"k\":[1e999,2]\x7d\x7d".toList
    let event := Event.snapshot [("a",.array [.number (.float 0.5),.number (.int 1),.number (.float (-0.0))]),
      ("b",.object [("c",.null)])] none
    let event' := Event.snapshot [("k",.array [.number (.float Decimal.infinity),.number (.int 2)])] (some "r")
    let before := [event,.message "m",.result true "0"]
    let ended : Shot := { entries := event.entry?.toList ++ [.message "m"], success := true, result := "0" }
    let opened : Shot := { entries := event'.entry?.toList }
    event.Accepted text ∧ event'.Accepted text' ∧ ended ∈ (before.foldl ShotLog.apply {}).shots ∧
      ofJson .value [] ended.toJson = .pass ended ∧ opened ∈ ((before ++ [event']).foldl ShotLog.apply {}).shots ∧
      ofJson .value [] opened.toJson =
        .pass { entries := [.snapshot [("k",.array [.null,.number (.int 2)])] (some "r")] } ∧
      opened.writable.messages = opened.messages := by
  intro text text' event event' before ended opened
  have first : ended ∈ (before.foldl ShotLog.apply {}).shots := .head _
  have second : opened ∈ ((before ++ [event']).foldl ShotLog.apply {}).shots := .tail _ (.head _)
  have finite : ∀ event ∈ before, event.hasNonFinite = false := by decide +kernel
  exact ⟨rfl,rfl,first,(records_are_read_back first .value).2.2.2 finite,second,
    (records_are_read_back second .value).1,(records_are_read_back second .value).2.1⟩

/-- A number too large for its form, and one that is none, are accepted in a state and come back as nothing at all. In a
    body half a pair is accepted too: a key that holds it is shown with replacements, and no other text with it is sent. -/
theorem nonfinite_is_read_as_null :
    let text := "\x7b\"type\":\"StateSnapshot\",\"state\":\x7b\"k\":1e999,\"n\":NaN\x7d\x7d".toList
    let state : Members := [("k",.number (.float Decimal.infinity)),("n",.number (.float Decimal.undefined))]
    let left : Members := [("k",.null),("n",.null)]
    let shot : Shot := { entries := [.snapshot state none] }
    let sent := fun text : String => (Json.readWith .carried Http.maxDepth text.toList).toOption.map (Http.eventOfJson [])
    let half := String.ofList (Halves.ofHalf 0xD800)
    let replaced := "\uFFFD\uFFFD\uFFFD"
    ((Event.snapshot state none).Accepted text ∧ ([.snapshot state none].foldl ShotLog.apply {}).shots = [shot] ∧
        ofJson .value [] shot.toJson = .pass { entries := [.snapshot left none] } ∧
        (Json.object state).same (.object state) ∧ ¬ (Json.object state).same (.object left)) ∧
      (sent "\x7b\"type\":\"StateSnapshot\",\"state\":\x7b\"\\ud800\":1\x7d\x7d" =
          some (.pass (.snapshot [(half,.number (.int 1))] none)) ∧
        Http.visibleKeys (.snapshot [(half,.number (.int 1))] none) = .snapshot [(replaced,.number (.int 1))] none) ∧
      sent "\x7b\"type\":\"Message\",\"text\":\"\\ud800\"\x7d" = some (.pass (.message half)) ∧
        Http.unsendable? (Entry.message half).toJson ≠ none :=
  ⟨⟨rfl,rfl,rfl,by decide +kernel,by decide +kernel⟩,⟨rfl,rfl⟩,rfl,by decide⟩

end Shot

end ShotRecorder
