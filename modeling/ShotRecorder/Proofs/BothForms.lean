import ShotRecorder.Proofs.SentResults
import ShotRecorder.Proofs.WrittenEvents

/-!
A text of an event and the value that it spells bring the same event, or complaints that answer each other one by one
(`Complaint.Answers`): of the same name and at the same place, but for an event that is no object, for which the two
forms have a name each. Every check is one of parts, and what holds of the parts holds of the whole
(`Checked.apply_alike`), so that reading comes down to its fields (`Event.ofJson_alike`). The bodies of requests are
read as values too (`Event.text_and_value_alike`). Not every value that is taken has a text that is taken: its
numbers may be too long, and the text may hide what is nested too deep (`Event.value_taken_without_text`).
-/
namespace ShotRecorder

/-- Two complaints about one value, the second made where the value stands behind a path, and in the form of a value.
    An event that is no object is called by another name in either form. -/
inductive Complaint.Answers (front : Path) : Complaint → Complaint → Prop
  | same {problem problem' : Problem} {path : Path} {v : Json} (named : problem'.code = problem.code) :
    Answers front ⟨problem,path,v⟩ ⟨problem',front ++ path,v⟩
  | notObject {path : Path} {v : Json} (shape : ∀ members, v ≠ .object members) :
    Answers front ⟨.notObject .text,path,v⟩ ⟨.notObject .value,front ++ path,v⟩

namespace Checked

variable {α β : Type} {front : Path}

/-- Two checks that pass the same thing, or whose complaints are related one by one. -/
inductive Related (R : Complaint → Complaint → Prop) : Checked α → Checked α → Prop
  | passed (a : α) : Related R (pass a) (pass a)
  | refused {told told' : List Complaint} (each : List.Forall₂ R told told') :
    Related R (Except.error told) (Except.error told')

theorem apply_related {R : Complaint → Complaint → Prop} {f f' : Checked (α → β)} {a a' : Checked α}
    (first : Related R f f') (second : Related R a a') : Related R (apply f a) (apply f' a') := by
  cases first with
  | passed g =>
    cases second with
    | passed x => exact .passed (g x)
    | refused each => exact .refused each
  | refused each =>
    cases second with
    | passed x => exact .refused each
    | refused each' => exact .refused (List.rel_append each each')

/-- Two checks that pass the same thing, or whose complaints answer each other in order. -/
inductive Alike (front : Path) : Checked α → Checked α → Prop
  | passed (a : α) : Alike front (pass a) (pass a)
  | refused {told told' : List Complaint} (each : List.Forall₂ (Complaint.Answers front) told told') :
    Alike front (Except.error told) (Except.error told')

theorem alike_iff {a a' : Checked α} : Alike front a a' ↔ Related (Complaint.Answers front) a a' := by
  constructor
  · rintro (a | each)
    · exact .passed a
    · exact .refused each
  · rintro (a | each)
    · exact .passed a
    · exact .refused each

theorem fail_alike {problem problem' : Problem} (named : problem'.code = problem.code) (path : Path) (v : Json) :
    Alike front (fail problem path v : Checked α) (fail problem' (front ++ path) v) :=
  .refused (.cons (.same named) .nil)

theorem apply_alike {f f' : Checked (α → β)} {a a' : Checked α} (first : Alike front f f')
    (second : Alike front a a') : Alike front (apply f a) (apply f' a') :=
  alike_iff.mpr (apply_related (alike_iff.mp first) (alike_iff.mp second))

theorem seq_alike {f f' : Checked (α → β)} {a a' : Checked α} (first : Alike front f f')
    (second : Alike front a a') : Alike front (f <*> a) (f' <*> a') := apply_alike first second

theorem map_alike (f : α → β) {a a' : Checked α} (alike : Alike front a a') : Alike front (f <$> a) (f <$> a') :=
  apply_alike (.passed f) alike

theorem each_alike {check check' : Nat → Json → Checked α}
    (alike : ∀ place item, Alike front (check place item) (check' place item)) (items : List Json) (start : Nat) :
    Alike front (each check start items) (each check' start items) := by
  induction items generalizing start with
  | nil => exact .passed []
  | cons item rest ih => exact apply_alike (apply_alike (.passed _) (alike start item)) (ih (start + 1))

theorem each_congr {check check' : Nat → Json → Checked α} {items : List Json}
    (same : ∀ place, ∀ item ∈ items, check place item = check' place item) (start : Nat) :
    each check start items = each check' start items := by
  induction items generalizing start with
  | nil => rfl
  | cons item rest ih =>
    simp only [each]
    rw [same start item List.mem_cons_self,ih fun place item among => same place item (.tail _ among)]

end Checked

open Checked

namespace Field

variable {α : Type} {front : Path}

/-- What a check makes of a value wherever it stands is made of it behind a path too. -/
theorem Steady.alike {check : Path → Json → Checked α} (steady : Steady check) (path : Path) (v : Json) :
    Alike front (check path v) (check (front ++ path) v) := by
  rcases steady v with ⟨a,passed⟩ | ⟨problem,failed⟩
  · rw [passed,passed]
    exact .passed a
  · rw [failed,failed]
    exact fail_alike rfl _ _

theorem state_alike (path : Path) (v : Json) : Alike front (state .text path v) (state .value (front ++ path) v) := by
  cases v with
  | object members => exact .passed members
  | _ => exact fail_alike (by rfl) _ _

section

variable {check check' : Path → Json → Checked α}
  (alike : ∀ path v, Alike front (check path v) (check' (front ++ path) v))
include alike

theorem required_alike (name : String) (path : Path) (members : Members) :
    Alike front (required check name path members) (required check' name (front ++ path) members) := by
  unfold required
  rw [List.append_assoc]
  cases members.get? name with
  | none => exact fail_alike (by rfl) _ _
  | some v => exact alike _ v

theorem optional_alike (name : String) (absent : α) (path : Path) (members : Members) :
    Alike front (optional check name absent path members) (optional check' name absent (front ++ path) members) := by
  unfold optional
  rw [List.append_assoc]
  cases members.get? name with
  | none => exact .passed absent
  | some v => exact alike _ v

end

theorem noOthers_alike (names : List String) (path : Path) (members : Members) :
    Alike front (noOthers names path members) (noOthers names (front ++ path) members) := by
  unfold noOthers
  cases members.filter fun pair => !names.contains pair.1 with
  | nil => exact .passed ()
  | cons pair pairs =>
    refine .refused (List.forall₂_map_left_iff.mpr (List.forall₂_map_right_iff.mpr (List.forall₂_same.mpr ?_)))
    rintro ⟨name,v⟩ _
    dsimp only
    rw [List.append_assoc]
    exact .same rfl

end Field

/-! ### Events -/

namespace Event
open Json

variable {front : Path}

theorem ofFields_alike (kind : Kind) (path : Path) (members : Members) :
    Alike front (ofFields .text kind path members) (ofFields .value kind (front ++ path) members) := by
  cases kind with
  | message => exact map_alike _ (Field.required_alike Field.string_steady.alike _ _ _)
  | snapshot =>
    refine seq_alike (map_alike _ ?_) ?_
    · exact Field.optional_alike Field.state_alike _ _ _ _
    · exact Field.optional_alike Field.optionalString_steady.alike _ _ _ _
  | result =>
    refine seq_alike (map_alike _ ?_) ?_
    · exact Field.required_alike Field.bool_steady.alike _ _ _
    · exact Field.required_alike Field.string_steady.alike _ _ _
  | refresh => exact .passed refresh

theorem ofMembers_alike (kind : Kind) (path : Path) (members : Members) :
    Alike front (ofMembers .text kind path members) (ofMembers .value kind (front ++ path) members) := by
  refine seq_alike (seq_alike (map_alike _ ?_) ?_) (Field.noOthers_alike _ _ _)
  · exact Field.optional_alike (Field.exactly_steady _).alike _ _ _ _
  · exact ofFields_alike _ _ _

/-- An event that is no object has one complaint in either form. -/
theorem ofJson_notObject {v : Json} (shape : ∀ members, v ≠ .object members) (form : Form) (path : Path) :
    ofJson form path v = .fail (.notObject form) path v := by
  cases v with
  | object members => exact absurd rfl (shape members)
  | _ => rfl

theorem ofJson_alike (path : Path) (v : Json) :
    Alike front (ofJson .text path v) (ofJson .value (front ++ path) v) := by
  by_cases shape : ∀ members, v ≠ .object members
  · rw [ofJson_notObject shape,ofJson_notObject shape]
    exact .refused (.cons (.notObject shape) .nil)
  · obtain ⟨members,rfl⟩ := not_forall_not.mp shape
    simp only [ofJson]
    cases (Json.object members).get? "type" with
    | none => exact fail_alike (by rfl) _ _
    | some tag =>
      dsimp only
      cases Kind.ofTag? Kind.producers tag with
      | none => exact fail_alike (by rfl) _ _
      | some kind =>
        dsimp only
        rw [List.append_assoc]
        exact ofMembers_alike kind _ members

theorem listOfJson_alike (path : Path) (v : Json) :
    Alike front (listOfJson .text path v) (listOfJson .value (front ++ path) v) := by
  cases v with
  | array items =>
    refine each_alike (fun place item => ?_) items 0
    rw [List.append_assoc]
    exact ofJson_alike _ item
  | _ => exact fail_alike (by rfl) _ _

end Event

/-! ### Bodies -/

namespace Http
open Json

/-- Events without halves are read from a body like other values. -/
theorem eventOfJson_whole {v : Json} (whole : v.Whole) (path : Path) :
    eventOfJson path v = Event.ofJson .value path v := by
  unfold eventOfJson
  cases v with
  | object members =>
    have noHalf : (members.find? fun pair => holdsHalf pair.1) = none := by
      rw [List.find?_eq_none]
      intro pair among
      simp [((whole_object.mp whole) pair among).1]
    cases (Json.object members).get? "type" with
    | none => rfl
    | some tag =>
      dsimp only
      rw [noHalf]
      cases Kind.ofTag? Kind.producers tag <;> rfl
  | _ => rfl

theorem eventsOfJson_whole {v : Json} (whole : v.Whole) (path : Path) :
    eventsOfJson path v = Event.listOfJson .value path v := by
  cases v with
  | array items =>
    exact Checked.each_congr (fun place item among => eventOfJson_whole (whole_array.mp whole item among) _) 0
  | _ => rfl

end Http

namespace Event
open Json

/-- A text that spells a value is taken for an event, or for a list of events, exactly where the value is: they bring
    the same, or complaints that answer each other. So does a body that holds the value as its events, if the value
    holds no half of a surrogate pair. -/
theorem text_and_value_alike {text : List Char} {v : Json} (spelt : Padded (Spells maxDepth) text v) :
    Alike [] (ofText (ofJson .text) text) (ofJson .value [] v) ∧
      Alike [] (ofText (listOfJson .text) text) (listOfJson .value [] v) ∧
      (v.Whole → Alike (Http.bodyPath ++ [.key "events"]) (ofText (listOfJson .text) text)
        (Http.batchOfJson (.object [("events",v)]))) := by
  have read : Json.read maxDepth text = .ok v := read_iff.mpr spelt
  have ofText_read : ∀ {α : Type} (check : Path → Json → Checked α), ofText check text = check [] v := by
    intro α check
    unfold ofText
    rw [read]
  rw [ofText_read,ofText_read]
  refine ⟨ofJson_alike [] v,listOfJson_alike [] v,fun whole => ?_⟩
  have batch : Http.batchOfJson (.object [("events",v)]) =
      listOfJson .value (Http.bodyPath ++ [.key "events"] ++ []) v := by
    rw [List.append_nil,← Http.eventsOfJson_whole whole]
    rfl
  rw [batch]
  exact listOfJson_alike [] v

/-- Of four items one is an event, and the others have their complaints, the third by a name in either form. -/
theorem text_and_value_alike_of_four :
    let text :=
      "[\x7b\"type\":\"Result\",\"value\":\"a\",\"success\":\"Yes\"\x7d,\x7b\"x\":0,\"type\":\"Message\",\"text\":1\x7d,[],\x7b\x7d]".toList
    let v := Json.array [
      .object [("type",.string "Result"),("value",.string "a"),("success",.string "Yes")],
      .object [("x",.number (.int 0)),("type",.string "Message"),("text",.number (.int 1))],.array [],.object []]
    let places : Path → List Path := fun front => [[.index 1,.key "Message",.key "text"],
      [.index 1,.key "Message",.key "x"],[.index 2],[.index 3]].map (front ++ ·)
    let found := (ofText (listOfJson .text) text).complaints
    let found' := (Http.batchOfJson (.object [("events",v)])).complaints
    Padded (Spells maxDepth) text v ∧ Alike [] (ofText (ofJson .text) text) (ofJson .value [] v) ∧
      Alike [] (ofText (listOfJson .text) text) (listOfJson .value [] v) ∧
      Alike (Http.bodyPath ++ [.key "events"]) (ofText (listOfJson .text) text)
        (Http.batchOfJson (.object [("events",v)])) ∧
      found.map Complaint.path = places [] ∧
      found.map (·.problem.code) = ["string_type","extra_forbidden","dict_type","union_tag_not_found"] ∧
      found'.map Complaint.path = places [.key "body",.key "events"] ∧
      found'.map (·.problem.code) = ["string_type","extra_forbidden","model_attributes_type","union_tag_not_found"] := by
  intro text v places found found'
  have spelt : Padded (Spells maxDepth) text v := read_iff.mp (by rfl)
  have whole : v.Whole := by
    unfold Json.Whole
    decide +kernel
  obtain ⟨one,list,batch⟩ := text_and_value_alike spelt
  refine ⟨spelt,one,list,batch whole,?_,?_,?_,?_⟩
  all_goals decide +kernel

/-- A message whose text is given twice, first as lists within lists. -/
def overwritten (depth : Nat) : List Char :=
  "\x7b\"type\":\"Message\",\"text\":".toList ++ List.replicate depth '[' ++ List.replicate depth ']' ++
    ",\"text\":\"a\"\x7d".toList

set_option maxRecDepth 4000 in
theorem overwritten_denotes :
    Json.readWith .carried Http.maxDepth (overwritten 201) = .ok (.object (message "a").members) ∧
      (Json.read maxDepth (overwritten 201)).isOk = false := by
  constructor <;> rfl

/-- A value that is taken need not have a text that is: not if it holds a number that is a digit too long, and not if
    the text hides, under a key that is given again, what is nested too deep. -/
theorem value_taken_without_text :
    (∃ event : Event, (Json.object event.members).nesting < maxDepth ∧
      ofJson .value [] (.object event.members) = pass event ∧ ∀ text, ofText (ofJson .text) text ≠ pass event) ∧
    ∃ text v, Json.readWith .carried Http.maxDepth text = .ok v ∧ v.nesting < maxDepth ∧
      ofJson .value [] v = pass (message "a") ∧ ∀ event, ofText (ofJson .text) text ≠ pass event := by
  refine ⟨⟨counting (10 ^ Reader.maxDigits),counting_shallow _,ofJson_pass.mpr (denotes_members (counting_produced _)),?_⟩,?_⟩
  · intro text taken
    obtain ⟨w,read,denotes⟩ := accepted_iff.mp taken
    have held : (Json.object [("n",.number (.int (10 ^ Reader.maxDigits : Nat)))]).Holds
        (10 ^ Reader.maxDigits : Nat) := .member List.mem_cons_self .number
    have short := read_short read (denotes.holds held)
    rw [Int.natAbs_natCast] at short
    exact Nat.lt_irrefl _ short
  · obtain ⟨carried,refused⟩ := overwritten_denotes
    refine ⟨overwritten 201,_,carried,by decide +kernel,rfl,?_⟩
    intro event taken
    obtain ⟨w,read,-⟩ := accepted_iff.mp taken
    rw [read] at refused
    cases refused

end Event
end ShotRecorder
