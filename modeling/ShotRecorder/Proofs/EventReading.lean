import Mathlib.Data.List.Forall2
import ShotRecorder.Event.Reading
import ShotRecorder.Fault

/-!
Which values are events. A check that gathers complaints passes exactly when all of its parts do (`Checked.seq_pass`,
`Checked.each_pass`), so that reading an event comes down to a relation between values and events (`Json.Denotes`)
which knows nothing of places, of wordings or of the order of the checks (`Event.ofJson_pass`).
-/
namespace ShotRecorder

namespace Checked

variable {α β : Type}

theorem pass_ne_fail {a : α} {problem : Problem} {path : Path} {input : Json} : fail problem path input ≠ pass a := nofun

theorem pass_inj {a b : α} : (pass a : Checked α) = pass b ↔ a = b := ⟨Except.ok.inj,congrArg pass⟩

theorem toExcept_ok {c : Checked α} {a : α} : c.toExcept = .ok a ↔ c = pass a := Iff.rfl

theorem orFault_inj {first second : Checked α} : first.orFault = second.orFault ↔ first = second := by
  refine ⟨fun same => ?_,congrArg orFault⟩
  cases first <;> cases second <;> cases same <;> rfl

theorem orFault_ok {c : Checked α} {a : α} : c.orFault = .ok a ↔ c = pass a := @orFault_inj α c (pass a)

theorem apply_pass {f : Checked (α → β)} {a : Checked α} {b : β} :
    apply f a = pass b ↔ ∃ g x, f = pass g ∧ a = pass x ∧ g x = b := by
  constructor
  · intro passed
    cases f with
    | error found => cases a <;> cases passed
    | ok g =>
      cases a with
      | error found => cases passed
      | ok x => exact ⟨g,x,rfl,rfl,Except.ok.inj passed⟩
  · rintro ⟨g,x,rfl,rfl,rfl⟩
    rfl

theorem seq_pass {f : Checked (α → β)} {a : Checked α} {b : β} :
    f <*> a = pass b ↔ ∃ g x, f = pass g ∧ a = pass x ∧ g x = b := apply_pass

theorem map_pass {f : α → β} {a : Checked α} {b : β} : f <$> a = pass b ↔ ∃ x, a = pass x ∧ f x = b := by
  constructor
  · intro passed
    obtain ⟨g,x,same,read,value⟩ := apply_pass.mp passed
    obtain rfl := pass_inj.mp same
    exact ⟨x,read,value⟩
  · rintro ⟨x,read,value⟩
    exact apply_pass.mpr ⟨f,x,rfl,read,value⟩

theorem unlessAny_pass {found : List Complaint} : unlessAny found = pass () ↔ found = [] := by
  cases found with
  | nil => exact ⟨fun _ => rfl,fun _ => rfl⟩
  | cons first rest => exact ⟨nofun,nofun⟩

/-- Every item is checked, and one that does not pass is enough for the list not to pass. -/
theorem each_pass {check : Nat → Json → Checked α} {R : Json → α → Prop}
    (checked : ∀ place item a, check place item = pass a ↔ R item a) {start : Nat} {items : List Json} {values : List α} :
    each check start items = pass values ↔ List.Forall₂ R items values := by
  induction items generalizing start values with
  | nil => simp [each,pass_inj,eq_comm]
  | cons item rest ih =>
    have parts : each check start (item :: rest) = pass values ↔
        ∃ a others, check start item = pass a ∧ each check (start + 1) rest = pass others ∧ a :: others = values := by
      constructor
      · intro passed
        obtain ⟨g,others,first,next,value⟩ := apply_pass.mp passed
        obtain ⟨put,a,same,read,made⟩ := apply_pass.mp first
        obtain rfl := pass_inj.mp same
        exact ⟨a,others,read,next,made ▸ value⟩
      · rintro ⟨a,others,read,next,value⟩
        exact apply_pass.mpr ⟨_,others,apply_pass.mpr ⟨_,a,rfl,read,rfl⟩,next,value⟩
    rw [parts,List.forall₂_cons_left_iff]
    constructor
    · rintro ⟨a,others,read,next,rfl⟩
      exact ⟨a,others,(checked start item a).mp read,ih.mp next,rfl⟩
    · rintro ⟨a,others,read,next,rfl⟩
      exact ⟨a,others,(checked start item a).mpr read,ih.mpr next,rfl⟩

end Checked

open Checked

/-! ### Fields -/

/-- The truth value that a value is read as: itself, zero or one in either form, or a word in any case. -/
def Json.truth? (v : Json) : Option Bool :=
  match (Field.bool [] v).toExcept with
  | .ok truth => some truth
  | .error _ => none

namespace Field

variable {α : Type}

/-- A check that makes of a value the same wherever it stands. -/
def Steady (check : Path → Json → Checked α) : Prop :=
  ∀ v, (∃ a, ∀ path, check path v = pass a) ∨ ∃ problem, ∀ path, check path v = fail problem path v

theorem string_steady : Steady string := by
  intro v
  cases v with
  | string s => exact .inl ⟨s,fun _ => rfl⟩
  | _ => exact .inr ⟨.notString,fun _ => rfl⟩

theorem optionalString_steady : Steady optionalString := by
  intro v
  cases v with
  | null => exact .inl ⟨none,fun _ => rfl⟩
  | string s => exact .inl ⟨some s,fun _ => rfl⟩
  | _ => exact .inr ⟨.notString,fun _ => rfl⟩

theorem state_steady (form : Form) : Steady (state form) := by
  intro v
  cases v with
  | object members => exact .inl ⟨members,fun _ => rfl⟩
  | _ => exact .inr ⟨.notState form,fun _ => rfl⟩

theorem exactly_steady (text : String) : Steady (exactly text) := by
  intro v
  cases v with
  | string s =>
    by_cases same : s = text
    · exact .inl ⟨(),fun _ => by simp only [exactly,if_pos same]⟩
    · exact .inr ⟨.notOneOf [text],fun _ => by simp only [exactly,if_neg same]⟩
  | _ => exact .inr ⟨.notOneOf [text],fun _ => rfl⟩

theorem bool_steady : Steady bool := by
  intro v
  cases v with
  | bool b => exact .inl ⟨b,fun _ => rfl⟩
  | string s =>
    by_cases yes : trueWords.contains s.toLower
    · exact .inl ⟨true,fun _ => by simp only [bool,if_pos yes]⟩
    · by_cases no : falseWords.contains s.toLower
      · exact .inl ⟨false,fun _ => by simp only [bool,if_neg yes,if_pos no]⟩
      · exact .inr ⟨.unclearBool,fun _ => by simp only [bool,if_neg yes,if_neg no]⟩
  | number n =>
    cases n with
    | int n =>
      by_cases nought : n = 0
      · exact .inl ⟨false,fun _ => by simp only [bool,if_pos nought]⟩
      · by_cases one : n = 1
        · exact .inl ⟨true,fun _ => by simp only [bool,if_neg nought,if_pos one]⟩
        · by_cases short : isInt64 n
          · exact .inr ⟨.unclearBool,fun _ => by simp only [bool,if_neg nought,if_neg one,if_pos short]⟩
          · exact .inr ⟨.notBool,fun _ => by simp only [bool,if_neg nought,if_neg one,if_neg short]⟩
    | float x =>
      by_cases nought : x == 0.0
      · exact .inl ⟨false,fun _ => by simp only [bool,if_pos nought]⟩
      · by_cases one : x == 1.0
        · exact .inl ⟨true,fun _ => by simp only [bool,if_neg nought,if_pos one]⟩
        · exact .inr ⟨.notBool,fun _ => by simp only [bool,if_neg nought,if_neg one]⟩
  | _ => exact .inr ⟨.notBool,fun _ => rfl⟩

theorem string_pass {path : Path} {v : Json} {text : String} : string path v = .pass text ↔ v = .string text := by
  cases v with
  | string s => simp [string,pass_inj]
  | _ => simp [string,pass_ne_fail]

theorem optionalString_pass {path : Path} {v : Json} {text : Option String} :
    optionalString path v = .pass text ↔ v = (text.map Json.string).getD .null := by
  cases text <;> cases v <;> simp [optionalString,pass_inj,pass_ne_fail]

theorem state_pass {form : Form} {path : Path} {v : Json} {members : Members} :
    state form path v = .pass members ↔ v = .object members := by
  cases v with
  | object members => simp [state,pass_inj]
  | _ => simp [state,pass_ne_fail]

theorem bool_pass {path : Path} {v : Json} {truth : Bool} : bool path v = .pass truth ↔ v.truth? = some truth := by
  unfold Json.truth?
  rcases bool_steady v with ⟨b,passed⟩ | ⟨problem,failed⟩
  · rw [passed,passed]
    exact pass_inj.trans Option.some_inj.symm
  · rw [failed,failed]
    exact ⟨nofun,nofun⟩

theorem exactly_pass {text : String} {path : Path} {v : Json} : exactly text path v = .pass () ↔ v = .string text := by
  cases v with
  | string s => by_cases same : s = text <;> simp [exactly,same,pass_ne_fail]
  | _ => simp [exactly,pass_ne_fail]

theorem required_pass {check : Path → Json → Checked α} {name : String} {path : Path} {members : Members} {a : α} :
    required check name path members = .pass a ↔
      ∃ v, members.get? name = some v ∧ check (path ++ [.key name]) v = .pass a := by
  unfold required
  cases members.get? name <;> simp [pass_ne_fail]

theorem optional_pass {check : Path → Json → Checked α} {name : String} {absent : α} {path : Path} {members : Members}
    {a : α} :
    optional check name absent path members = .pass a ↔
      members.get? name = none ∧ a = absent ∨
        ∃ v, members.get? name = some v ∧ check (path ++ [.key name]) v = .pass a := by
  unfold optional
  cases members.get? name with
  | none => simpa [pass_inj] using eq_comm
  | some v => simp

theorem noOthers_pass {names : List String} {path : Path} {members : Members} :
    noOthers names path members = .pass () ↔ ∀ pair ∈ members, pair.1 ∈ names := by
  unfold noOthers
  rw [unlessAny_pass]
  simp

end Field

/-! ### Events -/

/-- A value denotes an event: an object with the name of the event's kind, with the fields of that kind, of which the
    parts of a snapshot may be left out, and with no other members. -/
inductive Json.Denotes : Json → Event → Prop
  | message {members : Members} {text : String} (kind : members.get? "type" = some (.string Kind.message.name))
    (given : members.get? "text" = some (.string text))
    (only : ∀ pair ∈ members, pair.1 ∈ Event.fieldNames .message) : Denotes (.object members) (.message text)
  | snapshot {members state : Members} {rendered : Option String}
    (kind : members.get? "type" = some (.string Kind.snapshot.name))
    (dump : (members.get? "state").getD (.object []) = .object state)
    (form : (members.get? "rendered_form").getD .null = (rendered.map Json.string).getD .null)
    (only : ∀ pair ∈ members, pair.1 ∈ Event.fieldNames .snapshot) :
    Denotes (.object members) (.snapshot state rendered)
  | result {members : Members} {outcome : Json} {success : Bool} {value : String}
    (kind : members.get? "type" = some (.string Kind.result.name))
    (given : members.get? "success" = some outcome) (truth : outcome.truth? = some success)
    (told : members.get? "value" = some (.string value))
    (only : ∀ pair ∈ members, pair.1 ∈ Event.fieldNames .result) :
    Denotes (.object members) (.result success value)

theorem Json.Denotes.produced {v : Json} {event : Event} (denotes : v.Denotes event) : event.kind ∈ Kind.producers := by
  cases denotes <;> simp [Event.kind,Kind.producers]

theorem Event.denotes_members {event : Event} (produced : event.kind ∈ Kind.producers) :
    (Json.object event.members).Denotes event := by
  cases event with
  | message text => exact .message rfl rfl (by simp [members,fields,fieldNames])
  | snapshot state rendered => exact .snapshot rfl rfl rfl (by simp [members,fields,fieldNames])
  | result success value => exact .result rfl rfl (by cases success <;> rfl) rfl (by simp [members,fields,fieldNames])
  | refresh => simp [kind,Kind.producers] at produced

theorem Kind.ofTag_producers {tag : Json} {kind : Kind} :
    Kind.ofTag? Kind.producers tag = some kind ↔ kind ∈ Kind.producers ∧ tag = .string kind.name := by
  constructor
  · intro found
    cases tag with
    | string name =>
      have same := List.find?_some found
      have member := List.mem_of_find?_eq_some found
      exact ⟨member,by simpa using (beq_iff_eq.mp same).symm⟩
    | _ => simp [Kind.ofTag?] at found
  · rintro ⟨member,rfl⟩
    cases kind with
    | refresh => simp [Kind.producers] at member
    | _ => rfl

namespace Event

theorem ofFields_message {form : Form} {path : Path} {members : Members} {event : Event} :
    ofFields form .message path members = .pass event ↔
      ∃ text, members.get? "text" = some (.string text) ∧ event = .message text := by
  simp only [ofFields,map_pass,Field.required_pass,Field.string_pass]
  constructor
  · rintro ⟨text,⟨_,given,rfl⟩,rfl⟩
    exact ⟨text,given,rfl⟩
  · rintro ⟨text,given,rfl⟩
    exact ⟨text,⟨_,given,rfl⟩,rfl⟩

theorem ofFields_snapshot {form : Form} {path : Path} {members : Members} {event : Event} :
    ofFields form .snapshot path members = .pass event ↔
      ∃ state rendered, (members.get? "state").getD (.object []) = .object state ∧
        (members.get? "rendered_form").getD .null = (rendered.map Json.string).getD .null ∧
        event = .snapshot state rendered := by
  have dump : ∀ {state : Members}, Field.optional (Field.state form) "state" [] path members = .pass state ↔
      (members.get? "state").getD (.object []) = .object state := by
    intro state
    rw [Field.optional_pass]
    cases members.get? "state" with
    | none => simp [eq_comm]
    | some v => simp [Field.state_pass]
  have shown : ∀ {rendered : Option String},
      Field.optional Field.optionalString "rendered_form" none path members = .pass rendered ↔
        (members.get? "rendered_form").getD .null = (rendered.map Json.string).getD .null := by
    intro rendered
    rw [Field.optional_pass]
    cases members.get? "rendered_form" with
    | none => cases rendered <;> simp
    | some v => simp [Field.optionalString_pass]
  simp only [ofFields,seq_pass,map_pass,dump,shown]
  constructor
  · rintro ⟨_,rendered,⟨state,read,rfl⟩,told,rfl⟩
    exact ⟨state,rendered,read,told,rfl⟩
  · rintro ⟨state,rendered,read,told,rfl⟩
    exact ⟨_,rendered,⟨state,read,rfl⟩,told,rfl⟩

theorem ofFields_result {form : Form} {path : Path} {members : Members} {event : Event} :
    ofFields form .result path members = .pass event ↔
      ∃ outcome success value, members.get? "success" = some outcome ∧ outcome.truth? = some success ∧
        members.get? "value" = some (.string value) ∧ event = .result success value := by
  simp only [ofFields,seq_pass,map_pass,Field.required_pass,Field.bool_pass,Field.string_pass]
  constructor
  · rintro ⟨_,value,⟨success,⟨outcome,given,truth⟩,rfl⟩,⟨_,told,rfl⟩,rfl⟩
    exact ⟨outcome,success,value,given,truth,told,rfl⟩
  · rintro ⟨outcome,success,value,given,truth,told,rfl⟩
    exact ⟨_,value,⟨success,⟨outcome,given,truth⟩,rfl⟩,⟨_,told,rfl⟩,rfl⟩

theorem ofMembers_pass {form : Form} {kind : Kind} {path : Path} {members : Members}
    (tagged : members.get? "type" = some (.string kind.name)) {event : Event} :
    ofMembers form kind path members = .pass event ↔
      ofFields form kind path members = .pass event ∧ ∀ pair ∈ members, pair.1 ∈ fieldNames kind := by
  have named : Field.optional (Field.exactly kind.name) "type" () path members = .pass () := by
    rw [Field.optional_pass]
    exact .inr ⟨_,tagged,Field.exactly_pass.mpr rfl⟩
  simp only [ofMembers,seq_pass,map_pass,named]
  constructor
  · rintro ⟨_,_,⟨_,read,⟨_,_,rfl⟩,given,rfl⟩,only,rfl⟩
    exact ⟨given,Field.noOthers_pass.mp only⟩
  · rintro ⟨given,only⟩
    exact ⟨_,(),⟨_,event,⟨(),trivial,rfl⟩,given,rfl⟩,Field.noOthers_pass.mpr only,rfl⟩

/-- Reading a producer's event gives the event that the value denotes, and passes no value that denotes none. -/
theorem ofJson_pass {form : Form} {path : Path} {v : Json} {event : Event} :
    ofJson form path v = .pass event ↔ v.Denotes event := by
  constructor
  · intro read
    cases v with
    | object members =>
      simp only [ofJson] at read
      cases tagged : (Json.object members).get? "type" with
      | none => simp [tagged,pass_ne_fail] at read
      | some tag =>
        cases known : Kind.ofTag? Kind.producers tag with
        | none => simp [tagged,known,pass_ne_fail] at read
        | some kind =>
          obtain ⟨producer,rfl⟩ := Kind.ofTag_producers.mp known
          simp only [tagged,known] at read
          obtain ⟨fields,only⟩ := (ofMembers_pass tagged).mp read
          cases kind with
          | message =>
            obtain ⟨text,given,rfl⟩ := ofFields_message.mp fields
            exact .message tagged given only
          | snapshot =>
            obtain ⟨state,rendered,dump,shown,rfl⟩ := ofFields_snapshot.mp fields
            exact .snapshot tagged dump shown only
          | result =>
            obtain ⟨outcome,success,value,given,truth,told,rfl⟩ := ofFields_result.mp fields
            exact .result tagged given truth told only
          | refresh => simp [Kind.producers] at producer
    | _ => simp [ofJson,pass_ne_fail] at read
  · intro denotes
    have known : ∀ kind ∈ Kind.producers, Kind.ofTag? Kind.producers (.string kind.name) = some kind :=
      fun kind member => Kind.ofTag_producers.mpr ⟨member,rfl⟩
    have ofKind : ∀ {members : Members} {kind : Kind}, kind ∈ Kind.producers →
        members.get? "type" = some (.string kind.name) →
        ofFields form kind (path ++ [.key kind.name]) members = .pass event →
        (∀ pair ∈ members, pair.1 ∈ fieldNames kind) → ofJson form path (.object members) = .pass event := by
      intro members kind member tagged fields only
      have found : (Json.object members).get? "type" = some (.string kind.name) := tagged
      simp only [ofJson,found,known kind member]
      exact (ofMembers_pass tagged).mpr ⟨fields,only⟩
    cases denotes with
    | message kind given only => exact ofKind (by simp [Kind.producers]) kind (ofFields_message.mpr ⟨_,given,rfl⟩) only
    | snapshot kind dump shown only =>
      exact ofKind (by simp [Kind.producers]) kind (ofFields_snapshot.mpr ⟨_,_,dump,shown,rfl⟩) only
    | result kind given truth told only =>
      exact ofKind (by simp [Kind.producers]) kind (ofFields_result.mpr ⟨_,_,_,given,truth,told,rfl⟩) only

end Event

end ShotRecorder
