import ShotRecorder.Event.File
import ShotRecorder.Proofs.BothForms
import ShotRecorder.Proofs.Segments

/-!
An event that is made of a kind and fields, and one that is read from an object with the same fields behind its kind.
Each check of a field says of a value what it says elsewhere (`Field.Steady`), so that both ways pass the same event or
have the same complaints, those of the reader behind the name of the kind (`Event.ofJson_related`). Every event of a
producer makes a difference to the records, unless it ends an open shot with no success and no words
(`ShotLog.shots_apply_eq`).
-/
namespace ShotRecorder
open Checked

/-- Complaints of one name, the second at the same place behind a path. -/
def Complaint.Echoes (front : Path) (c c' : Complaint) : Prop :=
  c'.problem.code = c.problem.code ∧ c'.path = front ++ c.path

namespace Checked

variable {α : Type} {R : Complaint → Complaint → Prop} {first second : Checked α}

theorem Related.pass_iff (related : Related R first second) {a : α} : first = pass a ↔ second = pass a := by
  cases related with
  | passed => rfl
  | refused => exact ⟨nofun,nofun⟩

theorem Related.refused_of_error (related : Related R first second) {fault : Fault}
    (failed : first.orFault = .error fault) :
    ∃ told told', fault = .invalid told ∧ second = Except.error told' ∧ List.Forall₂ R told told' := by
  cases related with
  | passed => cases failed
  | refused each => exact ⟨_,_,(Except.error.inj failed).symm,rfl,each⟩

end Checked

namespace Field

variable {α : Type} {front : Path} {check : Path → Json → Checked α}

theorem fail_related (problem : Problem) (path : Path) (v v' : Json) :
    Related (Complaint.Echoes front) (fail problem path v : Checked α) (fail problem (front ++ path) v') :=
  .refused (.cons ⟨rfl,rfl⟩ .nil)

theorem Steady.related (steady : Steady check) (path : Path) (v : Json) :
    Related (Complaint.Echoes front) (check path v) (check (front ++ path) v) := by
  rcases steady v with ⟨a,passed⟩ | ⟨problem,failed⟩
  · rw [passed,passed]
    exact .passed a
  · rw [failed,failed]
    exact fail_related problem path v v

variable {name key : String} (other : name ≠ key) (tag : Json) (path : Path) (members : Members)
include other

theorem get?_behind : Members.get? ((key,tag) :: members) name = members.get? name := by
  rw [Members.get?,List.lookup_cons,beq_eq_false_iff_ne.mpr other]
  rfl

theorem Steady.required_related (steady : Steady check) :
    Related (Complaint.Echoes front) (required check name path members)
      (required check name (front ++ path) ((key,tag) :: members)) := by
  unfold required
  rw [get?_behind other,List.append_assoc]
  cases members.get? name with
  | none => exact fail_related ..
  | some v => exact steady.related _ v

theorem Steady.optional_related (steady : Steady check) (absent : α) :
    Related (Complaint.Echoes front) (optional check name absent path members)
      (optional check name absent (front ++ path) ((key,tag) :: members)) := by
  unfold optional
  rw [get?_behind other,List.append_assoc]
  cases members.get? name with
  | none => exact .passed absent
  | some v => exact steady.related _ v

omit other in
/-- A member in front that is a field is no other one. -/
theorem noOthers_related {names : List String} (known : key ∈ names) :
    Related (Complaint.Echoes front) (noOthers names path members)
      (noOthers names (front ++ path) ((key,tag) :: members)) := by
  have front : (((key,tag) :: members).filter fun pair => !names.contains pair.1) =
      members.filter fun pair => !names.contains pair.1 := by
    simp [known]
  unfold noOthers
  rw [front]
  cases members.filter fun pair => !names.contains pair.1 with
  | nil => exact .passed ()
  | cons pair pairs =>
    refine .refused (List.forall₂_map_left_iff.mpr (List.forall₂_map_right_iff.mpr (List.forall₂_same.mpr ?_)))
    exact fun pair _ => ⟨rfl,List.append_assoc ..⟩

end Field

/-! ### Events -/

namespace Event

variable {front : Path}

theorem ofFields_related (form : Form) (kind : Kind) (tag : Json) (path : Path) (members : Members) :
    Related (Complaint.Echoes front) (ofFields form kind path members)
      (ofFields form kind (front ++ path) (("type",tag) :: members)) := by
  cases kind with
  | message => exact apply_related (.passed _) (Field.string_steady.required_related (by decide) ..)
  | snapshot =>
    refine apply_related (apply_related (.passed _) ?_) ?_
    · exact (Field.state_steady form).optional_related (by decide) ..
    · exact Field.optionalString_steady.optional_related (by decide) ..
  | result =>
    refine apply_related (apply_related (.passed _) ?_) ?_
    · exact Field.bool_steady.required_related (by decide) ..
    · exact Field.string_steady.required_related (by decide) ..
  | refresh => exact .passed refresh

/-- Members without a type are taken for an event of a kind as they are with the type of that kind in front. -/
theorem ofMembers_related (form : Form) (kind : Kind) (path : Path) {members : Members}
    (untyped : members.get? "type" = none) :
    Related (Complaint.Echoes front) (ofMembers form kind path members)
      (ofMembers form kind (front ++ path) (("type",.string kind.name) :: members)) := by
  refine apply_related (apply_related (apply_related (.passed _) ?_) ?_) ?_
  · have absent : Field.optional (Field.exactly kind.name) "type" () path members = pass () := by
      rw [Field.optional,untyped]
    have named : Field.optional (Field.exactly kind.name) "type" () (front ++ path)
        (("type",.string kind.name) :: members) = pass () :=
      Field.optional_pass.mpr (.inr ⟨_,rfl,Field.exactly_pass.mpr rfl⟩)
    rw [absent,named]
    exact .passed ()
  · exact ofFields_related form kind _ path members
  · exact Field.noOthers_related _ path members (by cases kind <;> decide)

/-- What is made of the fields of a producer's event is what is read of them behind its kind. -/
theorem ofJson_related {kind : Kind} (producer : kind ∈ Kind.producers) {members : Members}
    (untyped : members.get? "type" = none) (form : Form) :
    Related (Complaint.Echoes [.key kind.name]) (ofMembers form kind [] members)
      (ofJson form [] (.object (("type",.string kind.name) :: members))) := by
  have known := Kind.ofTag_producers.mpr ⟨producer,rfl⟩
  have found : (Json.object (("type",.string kind.name) :: members)).get? "type" = some (.string kind.name) := rfl
  simp only [ofJson,found,known]
  exact ofMembers_related form kind [] untyped

theorem kind_ofFields {form : Form} {kind : Kind} {path : Path} {members : Members} {event : Event}
    (made : ofFields form kind path members = pass event) : event.kind = kind := by
  cases kind with
  | message =>
    obtain ⟨text,-,rfl⟩ := ofFields_message.mp made
    rfl
  | snapshot =>
    obtain ⟨state,rendered,-,-,rfl⟩ := ofFields_snapshot.mp made
    rfl
  | result =>
    obtain ⟨_,success,value,-,-,-,rfl⟩ := ofFields_result.mp made
    rfl
  | refresh =>
    obtain rfl := pass_inj.mp made
    rfl

theorem kind_ofMembers {form : Form} {kind : Kind} {path : Path} {members : Members} {event : Event}
    (made : ofMembers form kind path members = pass event) : event.kind = kind := by
  obtain ⟨_,_,first,-,rfl⟩ := seq_pass.mp made
  obtain ⟨_,event,typed,fields,rfl⟩ := seq_pass.mp first
  obtain ⟨_,-,rfl⟩ := map_pass.mp typed
  exact kind_ofFields fields

theorem make_name {kind : Kind} {fields : Members} (unnamed : fields.get? "kind" = none) :
    make (.string kind.name) fields = (ofMembers .value kind [] fields).orFault := by
  have known : Kind.ofTag? Kind.all (.string kind.name) = some kind := by cases kind <;> rfl
  simp only [make,unnamed,known]
  rfl

end Event

/-! ### Records -/

namespace ShotLog

/-- Only where it ends an open shot as an open shot is shown anyway does an event of a producer leave the records as
    they were. -/
theorem shots_apply_eq {log : ShotLog} {event : Event} (producer : event.kind ∈ Kind.producers) :
    (log.apply event).shots = log.shots ↔ log.isOpen ∧ event = .result false "" := by
  have observed : ∀ entry, (log.observe entry).shots ≠ log.shots := by
    intro entry same
    cases current : log.current with
    | none =>
      have longer := congrArg List.length same
      simp [shots,observe,current] at longer
    | some entries =>
      simp [shots,observe,current,ShotLog.entries] at same
  cases event with
  | message text => simp [apply,observed]
  | snapshot state rendered => simp [apply,observed]
  | result success value =>
    cases current : log.current with
    | none => simp [apply,close,shots,current,isOpen]
    | some entries => simp [apply,close,shots,current,isOpen,ShotLog.entries]
  | refresh => simp [Event.kind,Kind.producers] at producer

end ShotLog

namespace Hub
open Run

variable {τ : Type} [Clock τ]

/-- What the hub has recorded so far. -/
def HasShots (log : ShotLog) (account : Account τ) : Prop := account.hub.shots = log

omit [Clock τ] in
theorem plain_hasShots (log : ShotLog) : Plain (HasShots (τ := τ) log) := plain_of_parts fun _ => Iff.rfl

theorem keeps_notify_shots (log : ShotLog) : Keeps (HasShots (τ := τ) log) notify :=
  keeps_notify (plain_hasShots log) (fun _ held => held) (fun _ held => held) fun _ held => held

/-- An event of a producer that is brought to the recorder is applied to the shots, whatever becomes of the refresh. -/
theorem record_shots {account : Account τ} (capturing : account.hub.capturing) {event : Event}
    (producer : event.kind ∈ Kind.producers) :
    HasShots (account.hub.shots.apply event) ((record (.event event)).exec account).2 := by
  obtain ⟨recorder,present⟩ := Option.isSome_iff_exists.mp capturing
  refine record_leads (HasShots account.hub.shots) (HasShots (account.hub.shots.apply event)) (plain_hasShots _)
    (plain_hasShots _) (Signal.produced_event producer) ?_ ?_ present rfl
  · intro before recorder present held
    simp only [HasShots,shots,present,Option.map_some,Option.getD_some] at held ⊢
    rw [held]
  · intro after recorder _ held
    split
    · exact (keeps_notify_shots _).discard after held
    · exact held

theorem handled_shots {hub : Hub τ} (capturing : hub.capturing) {event : Event} (producer : event.kind ∈ Kind.producers)
    (cast : Cast τ) (depth : Nat) :
    (afterAll cast depth [.handle (.fresh (.ok (.event event)))] hub).shots = hub.shots.apply event := by
  let ready : Account τ := { hub := { hub with signals := hub.signals.push (.event event) } }
  have recorded : HasShots (hub.shots.apply event) ((record (.event event)).exec ready).2 :=
    record_shots capturing producer
  have handled : HasShots (hub.shots.apply event)
      (afterAll cast depth [.handle (.fresh (.ok (.event event)))] ({ hub } : Account τ)) := by
    simp only [afterAll,List.foldl_cons,List.foldl_nil,act]
    rw [exec_bind,exec_place]
    dsimp only
    rw [exec_bind,exec_signalAt]
    simp only [Array.getElem?_push_size]
    exact leads_bind recorded fun _ => keeps_pure _
  rwa [HasShots,afterAll_hub] at handled

end Hub

namespace Event
open Hub

variable {τ : Type} [Clock τ]

/-- Made of the kind of a producer and fields, or read of an object with these fields behind the kind, an event is the
    same, and so are the complaints, but for the name of the kind that is in front of their places when it is read.
    Brought to a recorder, the event changes its records, unless it ends an open shot with no success and no words: then
    they are the same, and there is one more that has ended, as after every result. -/
theorem made_as_read {kind : Kind} (producer : kind ∈ Kind.producers) {fields : Members}
    (untyped : fields.get? "type" = none) (unnamed : fields.get? "kind" = none) :
    let made := make (.string kind.name) fields
    let read := ofJson .value [] (.object (("type",.string kind.name) :: fields))
    (∀ event, made = .ok event ↔ read = .pass event) ∧
      (∀ fault, made = .error fault → ∃ told told', fault = .invalid told ∧ read = Except.error told' ∧
        List.Forall₂ (Complaint.Echoes [.key kind.name]) told told') ∧
      ∀ event, made = .ok event → event.kind = kind ∧
        ∀ (hub : Hub τ) (cast : Cast τ) (depth : Nat), hub.capturing →
          let after := (afterAll cast depth [.handle (.fresh (.ok (.event event)))] hub).shots
          (after.shots = hub.shots.shots ↔ hub.shots.isOpen ∧ event = .result false "") ∧
            (event = .result false "" → after.closedCount = hub.shots.closedCount + 1 ∧ after.isOpen = false) := by
  intro made read
  have same : made = (ofMembers .value kind [] fields).orFault := make_name unnamed
  have related := ofJson_related producer untyped .value
  refine ⟨fun event => ?_,fun fault failed => related.refused_of_error (same ▸ failed),?_⟩
  · rw [same,orFault_ok]
    exact related.pass_iff
  · intro event succeeded
    have passed : ofMembers .value kind [] fields = pass event := orFault_ok.mp (same ▸ succeeded)
    obtain rfl := kind_ofMembers passed
    refine ⟨rfl,fun hub cast depth capturing => ?_⟩
    dsimp only
    rw [handled_shots capturing producer]
    refine ⟨ShotLog.shots_apply_eq producer,?_⟩
    rintro rfl
    exact ⟨by simp [ShotLog.apply,ShotLog.close,ShotLog.closedCount],rfl⟩

/-- A result whose outcome is told by a word, for an open shot and for none, and fields that are no message's. -/
theorem made_as_read_of_two :
    let read := fun (kind : Kind) (fields : Members) =>
      ofJson .value [] (.object (("type",.string kind.name) :: fields))
    let fields : Members := [("value",.string ""),("success",.string "NO")]
    let wrong : Members := [("x",.null),("text",.number (.int 1))]
    let hub := fun current : Option (List Entry) =>
      ({ recorder := some { shots := { current } }, scheduler := { delay := 1 }, timer := { device := .manual .new } } :
        Hub Rat)
    let after := fun current => (afterAll [] maxCalls [.handle (.fresh (.ok (.event (.result false ""))))] (hub current)).shots
    (make (.string "Result") fields = .ok (.result false "") ∧ read .result fields = .pass (.result false "") ∧
        (after none).shots ≠ (hub none).shots.shots ∧
        (after (some [.message "m"])).shots = (hub (some [.message "m"])).shots.shots ∧
        (after (some [.message "m"])).closedCount = 1) ∧
      ∃ told told', make (.string "Message") wrong = .error (.invalid told) ∧ read .message wrong = Except.error told' ∧
        List.Forall₂ (Complaint.Echoes [.key "Message"]) told told' ∧
        told.map Complaint.path = [[.key "text"],[.key "x"]] ∧
        told.map (·.problem.code) = ["string_type","extra_forbidden"] := by
  intro read fields wrong hub after
  have made : make (.string Kind.result.name) fields = .ok (.result false "") := by cbv
  have result := @made_as_read Rat _ .result (by decide) fields rfl rfl
  have changed := fun current => (result.2.2 _ made).2 (hub current) [] maxCalls rfl
  refine ⟨⟨made,(result.1 _).mp made,?_,(changed _).1.mpr ⟨rfl,rfl⟩,((changed _).2 rfl).1⟩,?_⟩
  · intro same
    cases ((changed none).1.mp same).1
  · have message := @made_as_read Rat _ .message (by decide) wrong rfl rfl
    obtain ⟨told,told',shown,refused,echoed⟩ := message.2.1 (.invalid (ofMembers .value .message [] wrong).complaints) rfl
    obtain rfl := Fault.invalid.inj shown
    exact ⟨_,told',rfl,refused,echoed,by decide +kernel,by decide +kernel⟩

/-- A result without success and words is made and recorded, and the records of all shots are what they were. -/
theorem empty_result_changes_no_record :
    let hub : Hub Rat := { recorder := some {}, scheduler := { delay := 1 }, timer := { device := .manual .new } }
    let before : List (Action Rat) := [.handle (.fresh (.ok (.event (.message "m"))))]
    let made := make (.string "Result") [("success",.bool false),("value",.string "")]
    made = .ok (.result false "") ∧ (afterAll [] maxCalls before hub).shots.shots = [{ entries := [.message "m"] }] ∧
      (afterAll [] maxCalls (before ++ [.handle (.fresh (made.map .event))]) hub).shots.shots =
        (afterAll [] maxCalls before hub).shots.shots :=
  ⟨rfl,rfl,rfl⟩

end Event

end ShotRecorder
