import ShotRecorder.Proofs.FreeSpelling
import ShotRecorder.Proofs.LineSpelling
import ShotRecorder.Proofs.ReadBack

/-!
The file of shots is a JSON text that spells the shots and nothing else (`Shot.file_spells_shots`), as long as no number
in their states is written with a fraction. Over many lines as on one, a value is spelt by what is written of it
(`indentedChars_spells`): what is between its parts are blanks, whatever the depth.
-/
namespace ShotRecorder

namespace Json
open Reader

/-! ### Values without fractions -/

mutual

/-- Whether no number in a value is written with a fraction, and no object has a key twice. -/
def fractionless : Json → Bool
  | number (.float _) => false
  | array items => fractionlessItems items
  | object members => decide (members.map Prod.fst).Nodup && fractionlessMembers members
  | _ => true

def fractionlessItems : List Json → Bool
  | [] => true
  | item :: rest => fractionless item && fractionlessItems rest

def fractionlessMembers : List (String × Json) → Bool
  | [] => true
  | (_,value) :: rest => fractionless value && fractionlessMembers rest

end

mutual

theorem finite_of_fractionless : ∀ v : Json, v.fractionless → v.hasNonFinite = false
  | null,_ | bool _,_ | string _,_ => by simp [hasNonFinite]
  | number (.int n),_ => by simp [hasNonFinite,Number.isNonFinite]
  | number (.float _),plain => by simp [fractionless] at plain
  | array items,plain => anyFinite_of_fractionless items (by simpa only [fractionless] using plain)
  | object members,plain => by
    simp only [fractionless,Bool.and_eq_true] at plain
    exact memberFinite_of_fractionless members plain.2

theorem anyFinite_of_fractionless : ∀ items : List Json, fractionlessItems items → anyNonFinite items = false
  | [],_ => rfl
  | item :: rest,plain => by
    simp only [fractionlessItems,Bool.and_eq_true] at plain
    rw [anyNonFinite,finite_of_fractionless item plain.1,anyFinite_of_fractionless rest plain.2,Bool.or_false]

theorem memberFinite_of_fractionless : ∀ members : List (String × Json), fractionlessMembers members →
    anyMemberNonFinite members = false
  | [],_ => rfl
  | (key,v) :: rest,plain => by
    simp only [fractionlessMembers,Bool.and_eq_true] at plain
    rw [anyMemberNonFinite,finite_of_fractionless v plain.1,memberFinite_of_fractionless rest plain.2,Bool.or_false]

end

theorem exact_of_mem {items : List Json} (exact : ExactItems items) : ∀ item ∈ items, item.Exact := by
  induction items with
  | nil => simp
  | cons item rest ih => exact List.forall_mem_cons.mpr ⟨exact.1,ih exact.2⟩

theorem exact_of_member {members : List (String × Json)} (exact : ExactMembers members) :
    ∀ pair ∈ members, pair.2.Exact := by
  induction members with
  | nil => simp
  | cons pair rest ih => exact List.forall_mem_cons.mpr ⟨exact.1,ih exact.2⟩

theorem Exact.short {v : Json} (exact : v.Exact) {n : Int} (held : v.Holds n) : n.natAbs < 10 ^ maxDigits := by
  induction held with
  | number => simpa only [Exact] using exact
  | item among _ ih => exact ih (exact_of_mem (by simpa only [Exact] using exact) _ among)
  | member among _ ih =>
    simp only [Exact] at exact
    exact ih (exact_of_member exact.2 _ among)

/-! ### Over many lines -/

/-- A grammar, level by level, that has all scalars and some whole numbers, and at the next level what is made of
    them. -/
structure Admits (Item : Nat → List Char → Json → Prop) (Short : Int → Prop) : Prop where
  scalar : ∀ {cs v}, SpellsScalar cs v → ∀ depth, Item depth cs v
  whole : ∀ {n}, Short n → ∀ depth, Item depth (intText n) (.number (.int n))
  nested : ∀ {depth cs v}, SpellsOver (Item depth) cs v → Item (depth + 1) cs v

theorem newLine_blank (depth : Nat) : Blanks (newLine depth) := by
  refine List.forall_mem_cons.mpr ⟨by decide,fun c inside => ?_⟩
  rw [List.eq_of_mem_replicate inside]
  decide

section

variable {Item : Nat → List Char → Json → Prop} {Short : Int → Prop}

mutual

/-- A value over many lines spells that value, at whatever depth it stands. -/
theorem indentedChars_spells (admits : Admits Item Short) : ∀ (v : Json) (depth level : Nat), v.fractionless →
    (∀ n, v.Holds n → Short n) → v.nesting ≤ level → Item level (v.indentedChars depth) v
  | .null,_,level,_,_,_ => admits.scalar (.word (by simp [words,indentedChars])) level
  | .bool true,_,level,_,_,_ => admits.scalar (.word (by simp [words,indentedChars])) level
  | .bool false,_,level,_,_,_ => admits.scalar (.word (by simp [words,indentedChars])) level
  | .number (.int n),_,level,_,short,_ => admits.whole (short n .number) level
  | .number (.float _),_,_,plain,_,_ => by simp [fractionless] at plain
  | .string text,_,level,_,_,_ => by
    obtain ⟨cs,written,spelt⟩ := stringText_spells false text
    have scalar := SpellsScalar.string spelt
    rw [String.ofList_toList,← written] at scalar
    exact admits.scalar scalar level
  | .array items,_,0,_,_,shallow => by simp [nesting] at shallow
  | .array [],_,_ + 1,_,_,_ => admits.nested (.array (.none Blanks.nil))
  | .array (item :: rest),depth,level + 1,plain,short,shallow => by
    simp only [fractionless] at plain
    simp only [nesting,Nat.add_le_add_iff_right] at shallow
    have spelt := indentedItems_spells admits (item :: rest) (depth + 1) level depth (by simp) plain
      (fun item among n held => short n (.item among held)) shallow
    have whole := admits.nested (.array (.some (newLine_blank (depth + 1)) spelt))
    simpa only [indentedChars,List.append_assoc,List.cons_append] using whole
  | .object members,_,0,_,_,shallow => by simp [nesting] at shallow
  | .object [],_,_ + 1,_,_,_ => admits.nested (.object (.none Blanks.nil))
  | .object (pair :: rest),depth,level + 1,plain,short,shallow => by
    simp only [fractionless,Bool.and_eq_true,decide_eq_true_eq] at plain
    simp only [nesting,Nat.add_le_add_iff_right] at shallow
    have spelt := indentedMembers_spells admits (pair :: rest) (depth + 1) level depth (by simp) plain.2
      (fun pair among n held => short n (.member among held)) shallow
    have whole := admits.nested (.object (.some (newLine_blank (depth + 1)) spelt))
    rw [Members.ofList_distinct plain.1] at whole
    simpa only [indentedChars,List.append_assoc,List.cons_append] using whole

theorem indentedItems_spells (admits : Admits Item Short) : ∀ (items : List Json) (depth level outer : Nat),
    items ≠ [] → fractionlessItems items → (∀ item ∈ items, ∀ n, item.Holds n → Short n) →
      nestingOfItems items ≤ level →
        SpellsFrom ']' (Item level) (indentedItems depth items ++ (newLine outer ++ [']'])) items
  | [],_,_,_,notNone,_,_,_ => absurd rfl notNone
  | [item],depth,level,outer,_,plain,short,shallow => by
    simp only [fractionlessItems,Bool.and_true] at plain
    have spelt := indentedChars_spells admits item depth level plain (short item List.mem_cons_self)
      (by simpa [nestingOfItems] using shallow)
    exact .last spelt (newLine_blank outer)
  | item :: next :: rest,depth,level,outer,_,plain,short,shallow => by
    rw [fractionlessItems,Bool.and_eq_true] at plain
    rw [nestingOfItems] at shallow
    have spelt := indentedChars_spells admits item depth level plain.1 (short item List.mem_cons_self) (by omega)
    have others := indentedItems_spells admits (next :: rest) depth level outer (by simp) plain.2
      (fun item among => short item (.tail _ among)) (by omega)
    have more := SpellsFrom.more spelt .nil (newLine_blank depth) others
    simpa [indentedItems] using more

theorem indentedMembers_spells (admits : Admits Item Short) : ∀ (members : List (String × Json))
    (depth level outer : Nat), members ≠ [] → fractionlessMembers members →
      (∀ pair ∈ members, ∀ n, pair.2.Holds n → Short n) → nestingOfMembers members ≤ level →
        SpellsFrom '}' (SpellsMember (Item level)) (indentedMembers depth members ++ (newLine outer ++ ['}'])) members
  | [],_,_,_,notNone,_,_,_ => absurd rfl notNone
  | [(key,v)],depth,level,outer,_,plain,short,shallow => by
    simp only [fractionlessMembers,Bool.and_true] at plain
    have spelt := indentedChars_spells admits v depth level plain (short _ List.mem_cons_self)
      (by simpa [nestingOfMembers] using shallow)
    have blank : Blanks [' '] := List.forall_mem_singleton.mpr rfl
    have last := @SpellsFrom.last _ '}' _ _ _ _ (member_spells false key blank spelt) (newLine_blank outer)
    simpa [indentedMembers] using last
  | (key,v) :: next :: rest,depth,level,outer,_,plain,short,shallow => by
    rw [fractionlessMembers,Bool.and_eq_true] at plain
    rw [nestingOfMembers] at shallow
    have spelt := indentedChars_spells admits v depth level plain.1 (short _ List.mem_cons_self) (by omega)
    have others := indentedMembers_spells admits (next :: rest) depth level outer (by simp) plain.2
      (fun pair among => short pair (.tail _ among)) (by omega)
    have blank : Blanks [' '] := List.forall_mem_singleton.mpr rfl
    have more := SpellsFrom.more (member_spells false key blank spelt) .nil (newLine_blank depth) others
    simpa [indentedMembers] using more

end

end

end Json

open Json Reader

/-- Whether no number in the state of an entry is written with a fraction, and no object in it has a key twice. -/
def Entry.fractionless : Entry → Bool
  | message _ => true
  | snapshot state _ => (Json.object state).fractionless

namespace Shot

/-- Whether that holds of every state in a record. -/
def fractionless (shot : Shot) : Bool := shot.entries.all Entry.fractionless

theorem finite_of_fractionless {shot : Shot} (plain : shot.fractionless) : shot.hasNonFinite = false := by
  rw [hasNonFinite,List.any_eq_false]
  intro entry among
  have state := List.all_eq_true.mp plain entry among
  cases entry with
  | message text => simp [Entry.hasNonFinite]
  | snapshot members rendered => simp [Entry.hasNonFinite,Json.finite_of_fractionless _ state]

end Shot

end ShotRecorder
