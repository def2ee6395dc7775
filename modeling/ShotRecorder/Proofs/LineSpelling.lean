import ShotRecorder.Json.Writer
import ShotRecorder.Proofs.Spelling

/-!
What is written on one line is read again: it spells the value that was written (`lineChars_spells`), as long as no
number in it is written with a fraction, no whole number is too long to be read, and no object has a key twice. If it is
written in ASCII, all of its characters can be printed (`lineChars_printable`).
-/
namespace ShotRecorder

namespace Digits

/-- A written number starts with a zero only if it is nought. -/
theorem head?_write {n : Nat} (positive : 0 < n) : (write n).head? ≠ some '0' := by
  induction n using write.induct with
  | case1 n small =>
    rw [write,if_pos small]
    revert n
    decide
  | case2 n large ih =>
    rw [write,if_neg large]
    have above := ih (by omega)
    obtain ⟨c,rest,same⟩ := List.exists_cons_of_ne_nil (write_ne_nil (n / 10))
    rw [same] at above ⊢
    simpa using above

/-- A number below a power of ten takes at most as many digits as its exponent says, and at least one. -/
theorem length_write {n k : Nat} (positive : 0 < k) (below : n < 10 ^ k) : (write n).length ≤ k := by
  induction k generalizing n with
  | zero => omega
  | succ k ih =>
    rw [write]
    split
    · simp
    · have more : k ≠ 0 := by
        rintro rfl
        omega
      have above := @ih (n / 10) (by omega) (by omega)
      simp only [List.length_append,List.length_singleton]
      omega

end Digits

namespace Members

theorem set_new {members : Members} {key : String} (new : key ∉ members.map Prod.fst) (v : Json) :
    members.set key v = members ++ [(key,v)] := by
  induction members with
  | nil => rfl
  | cons pair rest ih =>
    obtain ⟨k,w⟩ := pair
    simp only [List.map_cons,List.mem_cons,not_or] at new
    rw [set,if_neg (Ne.symm new.1),ih new.2]
    rfl

/-- Members of an object that has no key twice are kept as they are. -/
theorem ofList_distinct {pairs : List (String × Json)} (distinct : (pairs.map Prod.fst).Nodup) :
    ofList pairs = pairs := by
  have step : ∀ (rest before : List (String × Json)), ((before ++ rest).map Prod.fst).Nodup →
      rest.foldl (fun members pair => set members pair.1 pair.2) before = before ++ rest := by
    intro rest
    induction rest with
    | nil => simp
    | cons pair rest ih =>
      intro before distinct
      have new : pair.1 ∉ before.map Prod.fst := by
        rw [List.map_append,List.nodup_append] at distinct
        exact fun inside => distinct.2.2 _ inside _ (by simp) rfl
      rw [List.foldl_cons,set_new new,ih _ (by simpa using distinct)]
      simp
  exact step pairs [] distinct

end Members

namespace Json
open Reader

/-! ### Numbers and strings -/

theorem write_isWhole (n : Nat) : IsWhole (Digits.write n) := by
  rcases Nat.eq_zero_or_pos n with rfl | positive
  · left
    rw [Digits.write,if_pos (by decide)]
    rfl
  · exact .inr ⟨⟨Digits.write_ne_nil n,List.all_eq_true.mp (Digits.all_isDigit_write n)⟩,Digits.head?_write positive⟩

/-- A whole number is written with a minus if it has to be, and with the digits of its distance from nought. -/
theorem intText_eq (n : Int) : ∃ negative, intText n = minusText negative ++ Digits.write n.natAbs ∧
    (if negative then -(Digits.value (Digits.write n.natAbs) : Int) else Digits.value (Digits.write n.natAbs)) = n := by
  rw [Digits.value_write]
  by_cases below : n < 0
  · exact ⟨true,by simp [intText,minusText,below],by rw [if_pos rfl]; omega⟩
  · exact ⟨false,by simp [intText,minusText,below],by rw [if_neg (by simp)]; omega⟩

/-- A whole number is spelt by its digits, if it is not too long. -/
theorem intText_spells {n : Int} (short : n.natAbs < 10 ^ maxDigits) : SpellsNumber (intText n) (.int n) := by
  obtain ⟨negative,written,same⟩ := intText_eq n
  have spelt := @SpellsNumber.int negative _ (write_isWhole n.natAbs) (Digits.length_write (by decide) short)
  rwa [same,← written] at spelt

theorem hexValue?_hexDigit : ∀ d < 16, Digits.hexValue? (Quoted.hexDigit d) = some d := by decide

theorem hex_spells {n : Nat} (small : n < 0x10000) : SpellsUnit (Quoted.hex 4 n) n := by
  have digit := fun m => hexValue?_hexDigit (m % 16) (Nat.mod_lt m (by decide))
  have spelt := SpellsUnit.digits (digit (n / 16 / 16 / 16)) (digit (n / 16 / 16)) (digit (n / 16)) (digit n)
  have same : ((n / 16 / 16 / 16 % 16 * 16 + n / 16 / 16 % 16) * 16 + n / 16 % 16) * 16 + n % 16 = n := by omega
  rw [same] at spelt
  exact spelt

/-- An escape spells the character, which is no half of a pair. -/
theorem charEscape_spells (c : Char) : SpellsChar (charEscape c) c := by
  have valid : c.toNat < 0xD800 ∨ 0xDFFF < c.toNat ∧ c.toNat < 0x110000 := c.valid
  unfold charEscape
  split
  · rename_i small
    have spelt := SpellsChar.unit (hex_spells small) (by simp [isHighSurrogate]; omega)
      (by simp [isLowSurrogate]; omega)
    rwa [Char.ofNat_toNat] at spelt
  · -- The two halves of the pair are joined to the character again.
    rename_i large
    dsimp only
    have spelt := SpellsChar.pair (hex_spells (n := 0xD800 + (c.toNat - 0x10000) / 0x400) (by omega))
      (by simp [isHighSurrogate]; omega) (hex_spells (n := 0xDC00 + (c.toNat - 0x10000) % 0x400) (by omega))
      (by simp [isLowSurrogate]; omega)
    have same :
        joinSurrogates (0xD800 + (c.toNat - 0x10000) / 0x400) (0xDC00 + (c.toNat - 0x10000) % 0x400) = c.toNat := by
      unfold joinSurrogates
      omega
    rwa [same,Char.ofNat_toNat] at spelt

theorem charText_spells (ascii : Bool) (c : Char) : SpellsChar (charText ascii c) c := by
  unfold charText
  split
  iterate 7 exact .letter rfl
  rename_i notQuote notBackslash _ _ _ _ _
  split
  · exact charEscape_spells c
  · rename_i printable
    simp only [Bool.or_eq_true,decide_eq_true_eq,not_or] at printable
    exact .plain notQuote notBackslash (by omega)

/-- A string in quotes is spelt behind the first of them. -/
theorem stringText_spells (ascii : Bool) (text : String) :
    ∃ cs, stringText ascii text = '"' :: cs ∧ SpellsString cs text.toList := by
  refine ⟨text.toList.flatMap (charText ascii) ++ ['"'],rfl,?_⟩
  induction text.toList with
  | nil => exact .close
  | cons c rest ih =>
    rw [List.flatMap_cons,List.append_assoc]
    exact .char (charText_spells ascii c) ih

/-! ### Values -/

mutual

/-- Nothing in a value is lost in a text: no number is written with a fraction, no whole number is too long to be read,
    and no object has a key twice. -/
def Exact : Json → Prop
  | number (.int n) => n.natAbs < 10 ^ maxDigits
  | number (.float _) => False
  | array items => ExactItems items
  | object members => (members.map Prod.fst).Nodup ∧ ExactMembers members
  | _ => True

def ExactItems : List Json → Prop
  | [] => True
  | item :: rest => Exact item ∧ ExactItems rest

def ExactMembers : List (String × Json) → Prop
  | [] => True
  | (_,value) :: rest => Exact value ∧ ExactMembers rest

end

mutual

/-- How deep arrays and objects are nested in a value, which counts as one of them. -/
def nesting : Json → Nat
  | array items => nestingOfItems items + 1
  | object members => nestingOfMembers members + 1
  | _ => 0

def nestingOfItems : List Json → Nat
  | [] => 0
  | item :: rest => max (nesting item) (nestingOfItems rest)

def nestingOfMembers : List (String × Json) → Nat
  | [] => 0
  | (_,value) :: rest => max (nesting value) (nestingOfMembers rest)

end

/-- A layout in which commas and colons are followed by nothing but blanks. -/
structure LineStyle.Blanked (style : LineStyle) : Prop where
  comma : ∃ blanks, style.comma = ',' :: blanks ∧ Blanks blanks
  colon : ∃ blanks, style.colon = ':' :: blanks ∧ Blanks blanks

theorem blanked_spaced : LineStyle.spaced.Blanked :=
  have blank : Blanks [' '] := List.forall_mem_singleton.mpr rfl
  ⟨⟨[' '],rfl,blank⟩,⟨[' '],rfl,blank⟩⟩

theorem SpellsScalar.spells {cs : List Char} {v : Json} (spelt : SpellsScalar cs v) (depth : Nat) :
    Spells depth cs v := by
  cases depth with
  | zero => exact spelt
  | succ depth => exact .scalar spelt

theorem member_spells (ascii : Bool) (key : String) {Item : List Char → Json → Prop} {blanks cs : List Char} {v : Json}
    (blank : Blanks blanks) (spelt : Item cs v) :
    SpellsMember Item (stringText ascii key ++ ':' :: (blanks ++ cs)) (key,v) := by
  obtain ⟨text,written,named⟩ := stringText_spells ascii key
  have member := SpellsMember.mk named .nil blank spelt
  rw [String.ofList_toList] at member
  simpa [written] using member

mutual

/-- A value on one line spells that value. -/
theorem lineChars_spells {style : LineStyle} (blanked : style.Blanked) : ∀ (v : Json) (depth : Nat), v.Exact →
    v.nesting ≤ depth → Spells depth (v.lineChars style) v
  | .null,depth,_,_ => SpellsScalar.spells (.word (by simp [words,lineChars])) depth
  | .bool true,depth,_,_ => SpellsScalar.spells (.word (by simp [words,lineChars])) depth
  | .bool false,depth,_,_ => SpellsScalar.spells (.word (by simp [words,lineChars])) depth
  | .number (.int n),depth,kept,_ => SpellsScalar.spells (.number (intText_spells (by simpa [Exact] using kept))) depth
  | .number (.float x),_,kept,_ => by simp [Exact] at kept
  | .string text,depth,_,_ => by
    obtain ⟨cs,written,spelt⟩ := stringText_spells style.ascii text
    have scalar := SpellsScalar.string spelt
    rw [String.ofList_toList,← written] at scalar
    exact scalar.spells depth
  | .array items,0,_,shallow => by simp [nesting] at shallow
  | .array [],depth + 1,_,_ => .array (.none Blanks.nil)
  | .array (item :: rest),depth + 1,kept,shallow => by
    simp only [Exact] at kept
    simp only [nesting,Nat.add_le_add_iff_right] at shallow
    have spelt : SpellsOver (Spells depth) _ _ :=
      .array (.some .nil (lineItems_spells blanked (item :: rest) depth (by simp) kept shallow))
    exact spelt
  | .object members,0,_,shallow => by simp [nesting] at shallow
  | .object [],depth + 1,_,_ => .object (.none Blanks.nil)
  | .object (pair :: rest),depth + 1,kept,shallow => by
    simp only [Exact] at kept
    simp only [nesting,Nat.add_le_add_iff_right] at shallow
    have spelt : SpellsOver (Spells depth) _ _ :=
      .object (.some .nil (lineMembers_spells blanked (pair :: rest) depth (by simp) kept.2 shallow))
    rwa [Members.ofList_distinct kept.1] at spelt

theorem lineItems_spells {style : LineStyle} (blanked : style.Blanked) : ∀ (items : List Json) (depth : Nat),
    items ≠ [] → ExactItems items → nestingOfItems items ≤ depth →
      SpellsFrom ']' (Spells depth) (lineItems style items ++ [']']) items
  | [],_,notNone,_,_ => absurd rfl notNone
  | [item],depth,_,kept,shallow => by
    have spelt := lineChars_spells blanked item depth kept.1 (by simpa [nestingOfItems] using shallow)
    exact .last spelt .nil
  | item :: next :: rest,depth,_,kept,shallow => by
    simp only [nestingOfItems] at shallow
    have spelt := lineChars_spells blanked item depth kept.1 (by omega)
    have others := lineItems_spells blanked (next :: rest) depth (by simp) kept.2 (by simp only [nestingOfItems]; omega)
    obtain ⟨blanks,comma,blank⟩ := blanked.comma
    have more := SpellsFrom.more spelt .nil blank others
    simpa [lineItems,comma] using more

theorem lineMembers_spells {style : LineStyle} (blanked : style.Blanked) : ∀ (members : List (String × Json))
    (depth : Nat), members ≠ [] → ExactMembers members → nestingOfMembers members ≤ depth →
      SpellsFrom '}' (SpellsMember (Spells depth)) (lineMembers style members ++ ['}']) members
  | [],_,notNone,_,_ => absurd rfl notNone
  | [(key,v)],depth,_,kept,shallow => by
    have spelt := lineChars_spells blanked v depth kept.1 (by simpa [nestingOfMembers] using shallow)
    obtain ⟨blanks,colon,blank⟩ := blanked.colon
    have last := @SpellsFrom.last _ '}' _ _ _ _ (member_spells style.ascii key blank spelt) .nil
    simpa [lineMembers,colon] using last
  | (key,v) :: next :: rest,depth,_,kept,shallow => by
    simp only [nestingOfMembers] at shallow
    have spelt := lineChars_spells blanked v depth kept.1 (by omega)
    have others := lineMembers_spells blanked (next :: rest) depth (by simp) kept.2
      (by simp only [nestingOfMembers]; omega)
    obtain ⟨blanks,comma,blank⟩ := blanked.comma
    obtain ⟨blanks',colon,blank'⟩ := blanked.colon
    have more := SpellsFrom.more (member_spells style.ascii key blank' spelt) .nil blank others
    simpa [lineMembers,comma,colon] using more

end

/-! ### Printable ASCII -/

/-- A printable ASCII character. -/
def IsPrintable (c : Char) : Prop := 0x20 ≤ c.toNat ∧ c.toNat ≤ 0x7E

instance (c : Char) : Decidable (IsPrintable c) := inferInstanceAs (Decidable (_ ∧ _))

theorem hex_printable (width n : Nat) : ∀ c ∈ Quoted.hex width n, IsPrintable c := by
  have digit : ∀ d < 16, IsPrintable (Quoted.hexDigit d) := by decide
  induction width generalizing n with
  | zero => simp [Quoted.hex]
  | succ width ih =>
    rw [Quoted.hex,List.forall_mem_append,List.forall_mem_singleton]
    exact ⟨ih _,digit _ (Nat.mod_lt n (by decide))⟩

theorem unitEscape_printable (n : Nat) : ∀ c ∈ unitEscape n, IsPrintable c :=
  List.forall_mem_cons.mpr ⟨by decide,List.forall_mem_cons.mpr ⟨by decide,hex_printable 4 n⟩⟩

theorem charText_printable (c : Char) : ∀ d ∈ charText true c, IsPrintable d := by
  unfold charText
  split
  iterate 7 exact forall_mem_of_all (by decide)
  split
  · unfold charEscape
    split
    · exact unitEscape_printable _
    · exact List.forall_mem_append.mpr ⟨unitEscape_printable _,unitEscape_printable _⟩
  · rename_i printable
    simp only [Bool.true_and,Bool.or_eq_true,decide_eq_true_eq,not_or] at printable
    rw [List.forall_mem_singleton]
    exact ⟨by omega,by omega⟩

theorem stringText_printable (text : String) : ∀ c ∈ stringText true text, IsPrintable c := by
  unfold stringText
  simp only [List.cons_append,List.forall_mem_cons,List.forall_mem_append]
  refine ⟨by decide,fun c inside => ?_,by decide,List.forall_mem_nil _⟩
  obtain ⟨d,-,inside⟩ := List.mem_flatMap.mp inside
  exact charText_printable d c inside

theorem intText_printable (n : Int) : ∀ c ∈ intText n, IsPrintable c := by
  have digits : ∀ c ∈ Digits.write n.natAbs, IsPrintable c := by
    intro c inside
    have digit := List.all_eq_true.mp (Digits.all_isDigit_write _) c inside
    simp only [Digits.isDigit,Bool.and_eq_true,decide_eq_true_eq] at digit
    have last : c.toNat ≤ '9'.toNat := digit.2
    have bound : '9'.toNat ≤ 0x7E := by decide
    exact ⟨isDigit_not_control (by simpa [Digits.isDigit] using digit),Nat.le_trans last bound⟩
  unfold intText
  split
  · exact List.forall_mem_cons.mpr ⟨by decide,digits⟩
  · exact digits

/-- A layout in which all that is between the parts of a value is printable ASCII, and so is every string. -/
structure LineStyle.Printable (style : LineStyle) : Prop where
  ascii : style.ascii = true
  comma : ∀ c ∈ style.comma, IsPrintable c
  colon : ∀ c ∈ style.colon, IsPrintable c

theorem printable_spaced : LineStyle.spaced.Printable :=
  ⟨rfl,forall_mem_of_all (by decide),forall_mem_of_all (by decide)⟩

mutual

theorem lineChars_printable {style : LineStyle} (printable : style.Printable) : ∀ v : Json, v.Exact →
    ∀ c ∈ v.lineChars style, IsPrintable c
  | .null,_ | .bool true,_ | .bool false,_ => forall_mem_of_all (by simp only [lineChars]; decide)
  | .number (.int n),_ => intText_printable n
  | .number (.float _),kept => by simp [Exact] at kept
  | .string text,_ => by
    rw [lineChars,printable.ascii]
    exact stringText_printable text
  | .array items,kept => by
    simp only [Exact] at kept
    simp only [lineChars,List.cons_append,List.forall_mem_cons,List.forall_mem_append]
    exact ⟨by decide,lineItems_printable printable items kept,by decide,List.forall_mem_nil _⟩
  | .object members,kept => by
    simp only [Exact] at kept
    simp only [lineChars,List.cons_append,List.forall_mem_cons,List.forall_mem_append]
    exact ⟨by decide,lineMembers_printable printable members kept.2,by decide,List.forall_mem_nil _⟩

theorem lineItems_printable {style : LineStyle} (printable : style.Printable) : ∀ items : List Json, ExactItems items →
    ∀ c ∈ lineItems style items, IsPrintable c
  | [],_ => by simp [lineItems]
  | [item],kept => lineChars_printable printable item kept.1
  | item :: next :: rest,kept => by
    rw [lineItems,List.forall_mem_append,List.forall_mem_append]
    · exact ⟨⟨lineChars_printable printable item kept.1,printable.comma⟩,
        lineItems_printable printable (next :: rest) kept.2⟩
    · simp

theorem lineMembers_printable {style : LineStyle} (printable : style.Printable) :
    ∀ members : List (String × Json), ExactMembers members → ∀ c ∈ lineMembers style members, IsPrintable c
  | [],_ => by simp [lineMembers]
  | [(key,v)],kept => by
    rw [lineMembers,List.forall_mem_append,List.forall_mem_append,printable.ascii]
    exact ⟨⟨stringText_printable key,printable.colon⟩,lineChars_printable printable v kept.1⟩
  | (key,v) :: next :: rest,kept => by
    rw [lineMembers,List.forall_mem_append,List.forall_mem_append,List.forall_mem_append,List.forall_mem_append,
      printable.ascii]
    · exact ⟨⟨⟨⟨stringText_printable key,printable.colon⟩,lineChars_printable printable v kept.1⟩,printable.comma⟩,
        lineMembers_printable printable (next :: rest) kept.2⟩
    · simp

end

end Json

end ShotRecorder
