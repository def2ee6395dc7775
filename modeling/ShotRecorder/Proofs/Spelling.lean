import ShotRecorder.Proofs.NumberSpelling
import ShotRecorder.Proofs.StringSpelling

/-!
The grammar of JSON texts, apart from how they are read: which texts spell a value whose nesting is bounded (`Spells`).
It follows the bound, level by level, and arrays and objects are the same list of parts between a bracket and its
closing one (`SpellsParts`). A text is read as a value exactly if it spells that value, with blanks around it
(`read_iff`), so that what is true of every spelling is true of every text that is read: it holds no control characters
(`Spells.plain`), and no whole number in it is too long (`Spells.short`).
-/
namespace ShotRecorder

/-- What holds of the characters of a given text is decided on its characters, not on all that there are. -/
theorem forall_mem_of_all {P : Char → Prop} [DecidablePred P] {cs : List Char}
    (all : cs.all (fun c => decide (P c)) = true) : ∀ c ∈ cs, P c := by
  simpa using all

namespace Members

theorem mem_set {members : Members} {key : String} {v : Json} {pair : String × Json}
    (among : pair ∈ members.set key v) : pair = (key,v) ∨ pair ∈ members := by
  induction members with
  | nil => exact .inl (List.mem_singleton.mp among)
  | cons first rest ih =>
    obtain ⟨k,w⟩ := first
    rw [set] at among
    split at among
    · rename_i same
      rcases List.mem_cons.mp among with rfl | among
      · exact .inl (by rw [same])
      · exact .inr (.tail _ among)
    · rcases List.mem_cons.mp among with rfl | among
      · exact .inr List.mem_cons_self
      · exact (ih among).imp_right (.tail _)

theorem mem_ofList {pairs : List (String × Json)} {pair : String × Json}
    (among : pair ∈ ofList pairs) : pair ∈ pairs := by
  have step : ∀ (rest before : List (String × Json)),
      pair ∈ rest.foldl (fun members pair => set members pair.1 pair.2) before → pair ∈ before ∨ pair ∈ rest := by
    intro rest
    induction rest with
    | nil => exact fun before among => .inl among
    | cons first rest ih =>
      intro before among
      rcases ih _ among with among | among
      · rcases mem_set among with rfl | among
        · exact .inr List.mem_cons_self
        · exact .inl among
      · exact .inr (.tail _ among)
  exact (step pairs [] among).resolve_left List.not_mem_nil

end Members

namespace Json
open Reader

/-- Blanks of a JSON text. -/
def Blanks (cs : List Char) : Prop := ∀ c ∈ cs, Blank.isJsonBlank c = true

/-- A text that spells a value which holds no others. -/
inductive SpellsScalar : List Char → Json → Prop
  | string {cs text : List Char} (spelt : SpellsString cs text) :
    SpellsScalar ('"' :: cs) (.string (String.ofList text))
  | word {word : List Char} {v : Json} (known : (word,v) ∈ words) : SpellsScalar word v
  | number {cs : List Char} {n : Number} (spelt : SpellsNumber cs n) : SpellsScalar cs (.number n)

section

variable {α : Type} (closing : Char) (Part : List Char → α → Prop)

/-- Parts with commas between them, from the first of them up to and with the closing bracket. -/
inductive SpellsFrom : List Char → List α → Prop
  | last {cs blanks : List Char} {part : α} (spelt : Part cs part) (blank : Blanks blanks) :
    SpellsFrom (cs ++ (blanks ++ [closing])) [part]
  | more {cs blanks blanks' rest : List Char} {part : α} {parts : List α} (spelt : Part cs part) (blank : Blanks blanks)
    (blank' : Blanks blanks') (others : SpellsFrom rest parts) :
    SpellsFrom (cs ++ (blanks ++ ',' :: (blanks' ++ rest))) (part :: parts)

/-- Parts behind an opening bracket. -/
inductive SpellsParts : List Char → List α → Prop
  | none {blanks : List Char} (blank : Blanks blanks) : SpellsParts (blanks ++ [closing]) []
  | some {blanks cs : List Char} {parts : List α} (blank : Blanks blanks) (spelt : SpellsFrom closing Part cs parts) :
    SpellsParts (blanks ++ cs) parts

end

/-- A key, a colon and a value. -/
inductive SpellsMember (Item : List Char → Json → Prop) : List Char → String × Json → Prop
  | mk {key text blanks blanks' cs : List Char} {v : Json} (named : SpellsString key text) (blank : Blanks blanks)
    (blank' : Blanks blanks') (spelt : Item cs v) :
    SpellsMember Item ('"' :: (key ++ (blanks ++ ':' :: (blanks' ++ cs)))) (String.ofList text,v)

/-- A text that spells a value whose items, or the values of whose members, are spelt in a given way. -/
inductive SpellsOver (Item : List Char → Json → Prop) : List Char → Json → Prop
  | scalar {cs : List Char} {v : Json} (spelt : SpellsScalar cs v) : SpellsOver Item cs v
  | array {cs : List Char} {items : List Json} (spelt : SpellsParts ']' Item cs items) :
    SpellsOver Item ('[' :: cs) (.array items)
  | object {cs : List Char} {members : List (String × Json)} (spelt : SpellsParts '}' (SpellsMember Item) cs members) :
    SpellsOver Item ('{' :: cs) (.object (Members.ofList members))

/-- A text that spells a value whose nesting has at most the given depth. -/
def Spells : (depth : Nat) → List Char → Json → Prop
  | 0 => SpellsScalar
  | depth + 1 => SpellsOver (Spells depth)

/-! ### Blanks -/

theorem Blanks.nil : Blanks [] := by simp [Blanks]

theorem skipBlanks_sound (cs : List Char) : ∃ blanks, cs = blanks ++ skipBlanks cs ∧ Blanks blanks :=
  ⟨cs.takeWhile Blank.isJsonBlank,(List.takeWhile_append_dropWhile ..).symm,
    fun _ inside => List.mem_takeWhile_imp inside⟩

theorem skipBlanks_complete {blanks : List Char} (blank : Blanks blanks) (rest : List Char)
    (starts : ∀ c ∈ rest.head?, Blank.isJsonBlank c = false) : skipBlanks (blanks ++ rest) = rest := by
  rw [skipBlanks,List.dropWhile_append_of_pos blank]
  cases rest with
  | nil => rfl
  | cons c rest => simp [starts c rfl]

/-! ### Scalars -/

theorem prolongs_of_blank {c : Char} (isBlank : Blank.isJsonBlank c = true) : prolongs c = false := by
  simp only [Blank.isJsonBlank,Bool.or_eq_true,decide_eq_true_eq] at isBlank
  rcases isBlank with ((rfl | rfl) | rfl) | rfl <;> decide

/-- Blanks make no number longer, nor does what ends a value behind them. -/
theorem Stops.of_blanks {blanks rest : List Char} (blank : Blanks blanks) (stops : Stops rest) :
    Stops (blanks ++ rest) := by
  cases blanks with
  | nil => exact stops
  | cons b blanks => simpa [Stops] using prolongs_of_blank (blank b List.mem_cons_self)

theorem Stops.cons {c : Char} (ends : prolongs c = false) (rest : List Char) : Stops (c :: rest) := by
  simpa [Stops] using ends

/-- A value that holds no others and is read is spelt by the front of the text. -/
theorem scalar_sound {cs rest : List Char} {v : Json} (read : scalar .refused cs = .ok (v,rest)) :
    ∃ front, cs = front ++ rest ∧ SpellsScalar front v := by
  unfold scalar at read
  split at read
  · rename_i behind
    cases found : stringBody .refused behind with
    | error refusal => simp [found,Except.map] at read
    | ok outcome =>
      obtain ⟨text,rest'⟩ := outcome
      simp only [found,Except.map,Except.ok.injEq,Prod.mk.injEq] at read
      obtain ⟨rfl,rfl⟩ := read
      obtain ⟨front,rfl,spelt⟩ := stringBody_sound found
      exact ⟨'"' :: front,rfl,by simpa using SpellsScalar.string spelt⟩
  · split at read
    · rename_i word v' found
      obtain ⟨rfl,rfl⟩ := Prod.mk.inj (Except.ok.inj read)
      have known := List.mem_of_find?_eq_some found
      have inFront := List.find?_some found
      obtain ⟨rest,rfl⟩ := List.isPrefixOf_iff_prefix.mp inFront
      exact ⟨word,by simp,.word known⟩
    · cases found : Reader.number cs with
      | error refusal => simp [found,Except.map] at read
      | ok outcome =>
        obtain ⟨n,rest'⟩ := outcome
        simp only [found,Except.map,Except.ok.injEq,Prod.mk.injEq] at read
        obtain ⟨rfl,rfl⟩ := read
        obtain ⟨front,rfl,spelt⟩ := number_sound found
        exact ⟨front,rfl,.number spelt⟩

/-- No word stands at the front of a number. -/
theorem words_find?_digit {c : Char} (digit : Digits.isDigit c = true) (negative : Bool) (rest : List Char) :
    (words.find? fun (word,_) => word.isPrefixOf (minusText negative ++ c :: rest)) = none := by
  have others : 'n' ≠ c ∧ 't' ≠ c ∧ 'f' ≠ c ∧ 'N' ≠ c ∧ 'I' ≠ c ∧ '-' ≠ c := by
    refine ⟨?_,?_,?_,?_,?_,?_⟩ <;> (rintro rfl; exact absurd digit (by decide))
  have spelt : words.map Prod.fst = [['n','u','l','l'],['t','r','u','e'],['f','a','l','s','e'],['N','a','N'],
      ['I','n','f','i','n','i','t','y'],['-','I','n','f','i','n','i','t','y']] := rfl
  rw [List.find?_eq_none]
  rintro ⟨word,v⟩ known
  have inside := spelt ▸ List.mem_map_of_mem (f := Prod.fst) known
  simp only [List.mem_cons,List.not_mem_nil,or_false] at inside
  cases negative <;> rcases inside with rfl | rfl | rfl | rfl | rfl | rfl <;> simp [minusText,others]

/-- A number starts with a digit or a minus, so that neither a string nor a word is found in its place. -/
theorem scalar_numeral {c : Char} (digit : Digits.isDigit c = true) (negative : Bool) (rest : List Char) :
    scalar .refused (minusText negative ++ c :: rest) =
      (Reader.number (minusText negative ++ c :: rest)).map fun (n,rest) => (.number n,rest) := by
  have noWord := words_find?_digit digit negative rest
  have noQuote : (minusText negative ++ c :: rest).head? ≠ some '"' := by
    cases negative with
    | true => simp [minusText]
    | false =>
      rintro quote
      obtain rfl := Option.some.inj quote
      exact absurd digit (by decide)
  unfold scalar
  split
  · rename_i same
    rw [same] at noQuote
    exact absurd rfl noQuote
  · rw [noWord]

/-- What spells a value that holds no others is read as that value where it stops. -/
theorem scalar_complete {front rest : List Char} {v : Json} (spelt : SpellsScalar front v) (stops : Stops rest) :
    scalar .refused (front ++ rest) = .ok (v,rest) := by
  cases spelt with
  | string spelt =>
    simp only [List.cons_append,scalar,stringBody_complete spelt,Except.map]
  | word known =>
    simp only [words,List.mem_cons,List.not_mem_nil,or_false,Prod.mk.injEq] at known
    rcases known with ⟨rfl,rfl⟩ | ⟨rfl,rfl⟩ | ⟨rfl,rfl⟩ | ⟨rfl,rfl⟩ | ⟨rfl,rfl⟩ | ⟨rfl,rfl⟩
    all_goals rfl
  | number spelt =>
    have read := number_complete spelt stops
    obtain ⟨negative,c,more,rfl,digit⟩ := spelt.head
    have numeral := scalar_numeral digit negative (more ++ rest)
    simp only [List.append_assoc,List.cons_append] at read ⊢
    rw [numeral,read]
    rfl

/-! ### Parts between brackets -/

section

variable {α : Type} {closing : Char} {exhausted : Flaw} {part : Reads α} {Part : List Char → α → Prop}

/-- The common form of items and members: parts up to the closing bracket, read at the first of them. -/
def partsFrom (closing : Char) (exhausted : Flaw) (part : Reads α) : (fuel : Nat) → Reads (List α)
  | 0, cs => .error ⟨exhausted,cs⟩
  | fuel + 1, cs => do
    let (first,rest) ← part cs
    match skipBlanks rest with
    | [] => .error ⟨.expectedComma,[]⟩
    | c :: rest =>
      if c = closing then .ok ([first],rest)
      else if c = ',' then do
        let (others,rest) ← partsFrom closing exhausted part fuel (skipBlanks rest)
        .ok (first :: others,rest)
      else .error ⟨.expectedComma,c :: rest⟩

/-- Parts behind the opening bracket. -/
def parts (closing : Char) (exhausted : Flaw) (part : Reads α) : Reads (List α) := fun cs =>
  let rest := skipBlanks cs
  if rest.head? = some closing then .ok ([],rest.drop 1) else partsFrom closing exhausted part (rest.length + 1) rest

theorem itemsFrom_eq (item : Reads Json) (fuel : Nat) (cs : List Char) :
    itemsFrom item fuel cs = partsFrom ']' .expectedValue item fuel cs := by
  induction fuel generalizing cs with
  | zero => rfl
  | succ fuel ih =>
    rw [itemsFrom,partsFrom]
    cases item cs with
    | error refusal => rfl
    | ok found =>
      simp only [bind,Except.bind]
      cases skipBlanks found.2 with
      | nil => rfl
      | cons c rest =>
        by_cases isClosing : c = ']'
        · subst isClosing
          rfl
        · by_cases isComma : c = ','
          · subst isComma
            simp only [ih]
            rfl
          · simp [isClosing,isComma]

theorem membersFrom_eq (item : Reads Json) (fuel : Nat) (cs : List Char) :
    membersFrom .refused item fuel cs = partsFrom '}' .expectedName (member .refused item) fuel cs := by
  induction fuel generalizing cs with
  | zero => rfl
  | succ fuel ih =>
    rw [membersFrom,partsFrom]
    cases member .refused item cs with
    | error refusal => rfl
    | ok found =>
      simp only [bind,Except.bind]
      cases skipBlanks found.2 with
      | nil => rfl
      | cons c rest =>
        by_cases isClosing : c = '}'
        · subst isClosing
          rfl
        · by_cases isComma : c = ','
          · subst isComma
            simp only [ih]
            rfl
          · simp [isClosing,isComma]

theorem items_eq (item : Reads Json) (cs : List Char) : items item cs = parts ']' .expectedValue item cs := by
  unfold items parts
  cases skipBlanks cs with
  | nil => exact itemsFrom_eq item _ _
  | cons c rest =>
    by_cases isClosing : c = ']'
    · subst isClosing
      rfl
    · simp [isClosing,itemsFrom_eq]

theorem members_eq (item : Reads Json) (cs : List Char) :
    members .refused item cs = parts '}' .expectedName (member .refused item) cs := by
  unfold members parts
  cases skipBlanks cs with
  | nil => exact membersFrom_eq item _ _
  | cons c rest =>
    by_cases isClosing : c = '}'
    · subst isClosing
      rfl
    · simp [isClosing,membersFrom_eq]

/-- Where what is read of a part is spelt by the front of the text, so are the parts. -/
theorem partsFrom_sound
    (sound : ∀ {cs rest : List Char} {a : α}, part cs = .ok (a,rest) → ∃ front, cs = front ++ rest ∧ Part front a)
    {fuel : Nat} {cs rest : List Char} {as : List α} (read : partsFrom closing exhausted part fuel cs = .ok (as,rest)) :
    ∃ front, cs = front ++ rest ∧ SpellsFrom closing Part front as := by
  induction fuel generalizing cs as with
  | zero => cases read
  | succ fuel ih =>
    rw [partsFrom] at read
    cases first : part cs with
    | error refusal => simp [first,bind,Except.bind] at read
    | ok found =>
      obtain ⟨a,behind⟩ := found
      obtain ⟨front,rfl,spelt⟩ := sound first
      obtain ⟨blanks,apart,blank⟩ := skipBlanks_sound behind
      simp only [first,bind,Except.bind] at read
      split at read
      · cases read
      · rename_i c rest' next
        rw [next] at apart
        subst apart
        -- The closing bracket ends the list; a comma goes on with it.
        split at read
        · rename_i isClosing
          subst isClosing
          obtain ⟨rfl,rfl⟩ := Prod.mk.inj (Except.ok.inj read)
          exact ⟨front ++ (blanks ++ [c]),by simp,.last spelt blank⟩
        · split at read
          · rename_i isComma
            subst isComma
            cases more : partsFrom closing exhausted part fuel (skipBlanks rest') with
            | error refusal => simp [more] at read
            | ok found =>
              obtain ⟨others,last⟩ := found
              simp only [more,Except.ok.injEq,Prod.mk.injEq] at read
              obtain ⟨rfl,rfl⟩ := read
              obtain ⟨blanks',apart',blank'⟩ := skipBlanks_sound rest'
              obtain ⟨front',same,spelt'⟩ := ih more
              refine ⟨front ++ (blanks ++ ',' :: (blanks' ++ front')),?_,.more spelt blank blank' spelt'⟩
              rw [apart',same]
              simp
          · cases read

theorem parts_sound
    (sound : ∀ {cs rest : List Char} {a : α}, part cs = .ok (a,rest) → ∃ front, cs = front ++ rest ∧ Part front a)
    {cs rest : List Char} {as : List α} (read : parts closing exhausted part cs = .ok (as,rest)) :
    ∃ front, cs = front ++ rest ∧ SpellsParts closing Part front as := by
  obtain ⟨blanks,apart,blank⟩ := skipBlanks_sound cs
  unfold parts at read
  dsimp only at read
  split at read
  · rename_i isClosing
    obtain ⟨more,next⟩ := List.head?_eq_some_iff.mp isClosing
    rw [next] at read apart
    obtain ⟨rfl,rfl⟩ := Prod.mk.inj (Except.ok.inj read)
    exact ⟨blanks ++ [closing],by simpa using apart,.none blank⟩
  · obtain ⟨front,same,spelt⟩ := partsFrom_sound sound read
    rw [same] at apart
    exact ⟨blanks ++ front,by simpa using apart,.some blank spelt⟩

/-- How a part starts: neither with a blank nor with the closing bracket. -/
def PartStarts (closing : Char) (front : List Char) : Prop :=
  ∃ c rest, front = c :: rest ∧ Blank.isJsonBlank c = false ∧ c ≠ closing

theorem SpellsFrom.starts (starts : ∀ {front : List Char} {a : α}, Part front a → PartStarts closing front)
    {front : List Char} {as : List α} (spelt : SpellsFrom closing Part front as) : PartStarts closing front := by
  cases spelt with
  | last spelt | more spelt =>
    obtain ⟨c,rest,rfl,start⟩ := starts spelt
    exact ⟨c,_,rfl,start⟩

section

variable (exhausted) (ends : prolongs closing = false ∧ Blank.isJsonBlank closing = false ∧ closing ≠ ',')
  (starts : ∀ {front : List Char} {a : α}, Part front a → PartStarts closing front)
  (complete : ∀ {front : List Char} {a : α}, Part front a → ∀ {rest : List Char}, Stops rest →
    part (front ++ rest) = .ok (a,rest))
include ends starts complete

/-- Where a part is read for what it spells, so are the parts, with fuel for each character. -/
theorem partsFrom_complete {front : List Char} {as : List α} (spelt : SpellsFrom closing Part front as) {fuel : Nat}
    (enough : front.length ≤ fuel) (rest : List Char) :
    partsFrom closing exhausted part fuel (front ++ rest) = .ok (as,rest) := by
  induction spelt generalizing fuel with
  | last spelt blank =>
    rename_i cs blanks a
    rw [List.length_append,List.length_append,List.length_singleton] at enough
    obtain ⟨fuel,rfl⟩ := Nat.exists_eq_succ_of_ne_zero (n := fuel) (by omega)
    have read := complete spelt (.of_blanks blank (.cons ends.1 rest))
    have next := skipBlanks_complete blank (closing :: rest) (by simp [ends])
    simp only [List.append_assoc,List.singleton_append]
    rw [partsFrom,read]
    simp only [bind,Except.bind,next,if_true]
  | more spelt blank blank' others ih =>
    rename_i cs blanks blanks' rest' a as
    rw [List.length_append,List.length_append,List.length_cons,List.length_append] at enough
    obtain ⟨fuel,rfl⟩ := Nat.exists_eq_succ_of_ne_zero (n := fuel) (by omega)
    obtain ⟨c,more,start,notBlank,-⟩ := others.starts starts
    have read := complete spelt (.of_blanks blank (.cons (c := ',') (by decide) (blanks' ++ (rest' ++ rest))))
    have next := skipBlanks_complete blank (',' :: (blanks' ++ (rest' ++ rest))) (by simp; decide)
    have next' := skipBlanks_complete blank' (rest' ++ rest) (by simp [start,notBlank])
    -- The comma is a character less for the others, and a unit of fuel less.
    have behind := @ih fuel (by omega)
    simp only [List.append_assoc,List.cons_append]
    rw [partsFrom,read]
    simp only [bind,Except.bind,next,if_neg (Ne.symm ends.2.2),if_true,next',behind]

theorem parts_complete {front : List Char} {as : List α} (spelt : SpellsParts closing Part front as)
    (rest : List Char) :
    parts closing exhausted part (front ++ rest) = .ok (as,rest) := by
  cases spelt with
  | none blank =>
    have next := skipBlanks_complete blank (closing :: rest) (by simp [ends])
    simp only [List.append_assoc,List.singleton_append,parts,next]
    simp
  | some blank spelt =>
    rename_i blanks cs
    obtain ⟨c,more,start,notBlank,notClosing⟩ := spelt.starts starts
    have next := skipBlanks_complete blank (cs ++ rest) (by simp [start,notBlank])
    have others : (cs ++ rest).head? ≠ some closing := by simpa [start] using notClosing
    have enough : cs.length ≤ (cs ++ rest).length + 1 := by
      rw [List.length_append]
      omega
    simp only [List.append_assoc,parts,next,if_neg others]
    exact partsFrom_complete exhausted ends starts complete spelt enough rest

end

end

/-! ### Values -/

theorem member_sound {item : Reads Json} {Item : List Char → Json → Prop}
    (sound : ∀ {cs rest : List Char} {v : Json}, item cs = .ok (v,rest) → ∃ front, cs = front ++ rest ∧ Item front v)
    {cs rest : List Char} {pair : String × Json} (read : member .refused item cs = .ok (pair,rest)) :
    ∃ front, cs = front ++ rest ∧ SpellsMember Item front pair := by
  unfold member at read
  split at read
  · rename_i behind
    cases named : stringBody .refused behind with
    | error refusal => simp [named,bind,Except.bind] at read
    | ok found =>
      obtain ⟨key,rest'⟩ := found
      obtain ⟨keyText,rfl,spelt⟩ := stringBody_sound named
      obtain ⟨blanks,apart,blank⟩ := skipBlanks_sound rest'
      simp only [named,bind,Except.bind] at read
      split at read
      · rename_i more next
        obtain ⟨blanks',apart',blank'⟩ := skipBlanks_sound more
        cases valued : item (skipBlanks more) with
        | error refusal => simp [valued] at read
        | ok found =>
          obtain ⟨v,last⟩ := found
          simp only [valued,Except.ok.injEq,Prod.mk.injEq] at read
          obtain ⟨rfl,rfl⟩ := read
          obtain ⟨front,same,spelt'⟩ := sound valued
          have member := SpellsMember.mk spelt blank blank' spelt'
          rw [String.ofList_toList] at member
          refine ⟨_,?_,member⟩
          rw [apart,next,apart',same]
          simp
      · cases read
  · cases read

theorem member_complete {item : Reads Json} {Item : List Char → Json → Prop}
    (starts : ∀ {front : List Char} {v : Json}, Item front v → PartStarts ']' front)
    (complete : ∀ {front : List Char} {v : Json}, Item front v → ∀ {rest : List Char}, Stops rest →
      item (front ++ rest) = .ok (v,rest))
    {front : List Char} {pair : String × Json} (spelt : SpellsMember Item front pair) {rest : List Char}
    (stops : Stops rest) : member .refused item (front ++ rest) = .ok (pair,rest) := by
  cases spelt with
  | mk named blank blank' spelt =>
    rename_i key text blanks blanks' cs v
    obtain ⟨c,more,start,notBlank,-⟩ := starts spelt
    have next := skipBlanks_complete blank (':' :: (blanks' ++ (cs ++ rest))) (by simp; decide)
    have next' := skipBlanks_complete blank' (cs ++ rest) (by simp [start,notBlank])
    simp only [List.cons_append,List.append_assoc,member,stringBody_complete named,bind,Except.bind,next,next',
      complete spelt stops]

/-- A number starts with neither a blank nor a bracket. -/
theorem numeral_head {c : Char} (digit : Digits.isDigit c = true) (negative : Bool) (rest : List Char) :
    ∃ d more, minusText negative ++ c :: rest = d :: more ∧ Blank.isJsonBlank d = false ∧ d ≠ ']' ∧ d ≠ '[' ∧
      d ≠ '{' := by
  cases negative with
  | true => exact ⟨'-',_,rfl,by decide⟩
  | false =>
    have other : ∀ d, Digits.isDigit d = false → c ≠ d := by
      rintro d noDigit rfl
      simp [digit] at noDigit
    refine ⟨c,rest,rfl,?_,other _ (by decide),other _ (by decide),other _ (by decide)⟩
    simp [Blank.isJsonBlank,other ' ' (by decide),other '\t' (by decide),other '\n' (by decide),
      other '\r' (by decide)]

theorem SpellsScalar.head {front : List Char} {v : Json} (spelt : SpellsScalar front v) :
    ∃ c rest, front = c :: rest ∧ Blank.isJsonBlank c = false ∧ c ≠ ']' ∧ c ≠ '[' ∧ c ≠ '{' := by
  cases spelt with
  | string => exact ⟨'"',_,rfl,by decide⟩
  | word known =>
    simp only [words,List.mem_cons,List.not_mem_nil,or_false,Prod.mk.injEq] at known
    rcases known with ⟨rfl,rfl⟩ | ⟨rfl,rfl⟩ | ⟨rfl,rfl⟩ | ⟨rfl,rfl⟩ | ⟨rfl,rfl⟩ | ⟨rfl,rfl⟩
    all_goals exact ⟨_,_,rfl,by decide⟩
  | number spelt =>
    obtain ⟨negative,c,rest,rfl,digit⟩ := spelt.head
    exact numeral_head digit negative rest

theorem SpellsScalar.starts {front : List Char} {v : Json} (spelt : SpellsScalar front v) : PartStarts ']' front := by
  obtain ⟨c,rest,start,notBlank,notClosing,-⟩ := spelt.head
  exact ⟨c,rest,start,notBlank,notClosing⟩

theorem SpellsOver.starts {Item : List Char → Json → Prop} {front : List Char} {v : Json}
    (spelt : SpellsOver Item front v) : PartStarts ']' front := by
  cases spelt with
  | scalar spelt => exact spelt.starts
  | array => exact ⟨'[',_,rfl,by decide⟩
  | object => exact ⟨'{',_,rfl,by decide⟩

theorem Spells.starts {depth : Nat} {front : List Char} {v : Json} (spelt : Spells depth front v) :
    PartStarts ']' front := by
  cases depth with
  | zero => exact SpellsScalar.starts spelt
  | succ depth => exact SpellsOver.starts spelt

theorem SpellsMember.starts {Item : List Char → Json → Prop} {front : List Char} {pair : String × Json}
    (spelt : SpellsMember Item front pair) : PartStarts '}' front := by
  cases spelt with
  | mk => exact ⟨'"',_,rfl,by decide⟩

/-- A value that is read is spelt by the front of the text. -/
theorem value_sound {depth : Nat} {cs rest : List Char} {v : Json}
    (read : Reader.value .refused depth cs = .ok (v,rest)) :
    ∃ front, cs = front ++ rest ∧ Spells depth front v := by
  induction depth generalizing cs rest v with
  | zero =>
    unfold Reader.value at read
    split at read
    · cases read
    · cases read
    · exact scalar_sound read
  | succ depth ih =>
    unfold Reader.value at read
    split at read
    · rename_i behind
      cases found : items (Reader.value .refused depth) behind with
      | error refusal => simp [found,Except.map] at read
      | ok outcome =>
        obtain ⟨vs,rest'⟩ := outcome
        simp only [found,Except.map,Except.ok.injEq,Prod.mk.injEq] at read
        obtain ⟨rfl,rfl⟩ := read
        obtain ⟨front,rfl,spelt⟩ := parts_sound ih (items_eq _ _ ▸ found)
        exact ⟨'[' :: front,rfl,.array spelt⟩
    · rename_i behind
      cases found : members .refused (Reader.value .refused depth) behind with
      | error refusal => simp [found,Except.map] at read
      | ok outcome =>
        obtain ⟨pairs,rest'⟩ := outcome
        simp only [found,Except.map,Except.ok.injEq,Prod.mk.injEq] at read
        obtain ⟨rfl,rfl⟩ := read
        obtain ⟨front,rfl,spelt⟩ := parts_sound (member_sound ih) (members_eq _ _ ▸ found)
        exact ⟨'{' :: front,rfl,.object spelt⟩
    · obtain ⟨front,rfl,spelt⟩ := scalar_sound read
      exact ⟨front,rfl,.scalar spelt⟩

theorem value_scalar (depth : Nat) {front : List Char} {v : Json} (spelt : SpellsScalar front v) (rest : List Char) :
    Reader.value .refused depth (front ++ rest) = scalar .refused (front ++ rest) := by
  obtain ⟨c,more,rfl,-,-,notArray,notObject⟩ := spelt.head
  cases depth <;> simp [Reader.value,notArray,notObject]

section

variable {item : Reads Json} {Item : List Char → Json → Prop}
  (starts : ∀ {front : List Char} {v : Json}, Item front v → PartStarts ']' front)
  (complete : ∀ {front : List Char} {v : Json}, Item front v → ∀ {rest : List Char}, Stops rest →
    item (front ++ rest) = .ok (v,rest))
include starts complete

theorem items_complete {front : List Char} {found : List Json} (spelt : SpellsParts ']' Item front found)
    (rest : List Char) : items item (front ++ rest) = .ok (found,rest) :=
  (items_eq _ _).trans (parts_complete .expectedValue (by decide) starts complete spelt rest)

theorem members_complete {front : List Char} {found : List (String × Json)}
    (spelt : SpellsParts '}' (SpellsMember Item) front found) (rest : List Char) :
    members .refused item (front ++ rest) = .ok (found,rest) :=
  (members_eq _ _).trans (parts_complete .expectedName (by decide) SpellsMember.starts
    (member_complete starts complete) spelt rest)

end

/-- What spells a value is read as that value where it stops. -/
theorem value_complete {depth : Nat} {front : List Char} {v : Json} (spelt : Spells depth front v) {rest : List Char}
    (stops : Stops rest) : Reader.value .refused depth (front ++ rest) = .ok (v,rest) := by
  induction depth generalizing front rest v with
  | zero => exact (value_scalar 0 spelt rest).trans (scalar_complete spelt stops)
  | succ depth ih =>
    cases spelt with
    | scalar spelt => exact (value_scalar _ spelt rest).trans (scalar_complete spelt stops)
    | array spelt =>
      simp only [List.cons_append,Reader.value,items_complete Spells.starts ih spelt,Except.map]
    | object spelt =>
      simp only [List.cons_append,Reader.value,members_complete Spells.starts ih spelt,Except.map]

/-- A text is read as a value exactly if it spells the value, with blanks around it. -/
theorem read_iff {depth : Nat} {text : List Char} {v : Json} :
    Json.read depth text = .ok v ↔
      ∃ blanks front blanks', text = blanks ++ (front ++ blanks') ∧ Blanks blanks ∧ Spells depth front v ∧
        Blanks blanks' := by
  unfold Json.read readWith
  constructor
  · intro read
    obtain ⟨blanks,apart,blank⟩ := skipBlanks_sound text
    cases found : Reader.value .refused depth (skipBlanks text) with
    | error refusal => simp [found,bind,Except.bind] at read
    | ok outcome =>
      obtain ⟨v',rest⟩ := outcome
      obtain ⟨front,same,spelt⟩ := value_sound found
      obtain ⟨blanks',apart',blank'⟩ := skipBlanks_sound rest
      simp only [found,bind,Except.bind] at read
      split at read
      · rename_i nothing
        obtain rfl := Except.ok.inj read
        rw [nothing,List.append_nil] at apart'
        exact ⟨blanks,front,blanks',by rw [← apart',← same,← apart],blank,spelt,blank'⟩
      · cases read
  · rintro ⟨blanks,front,blanks',rfl,blank,spelt,blank'⟩
    obtain ⟨c,more,start,notBlank,-⟩ := spelt.starts
    have next := skipBlanks_complete blank (front ++ blanks') (by simp [start,notBlank])
    have last := skipBlanks_complete blank' [] (by simp)
    have stops : Stops (blanks' ++ []) := .of_blanks blank' (by simp [Stops])
    rw [List.append_nil] at last stops
    simp only [next,value_complete spelt stops,bind,Except.bind,last]

/-! ### Nesting and control characters -/

section

variable {α : Type} {closing : Char} {Part Part' : List Char → α → Prop}

theorem SpellsFrom.mono {cs : List Char} {as : List α} (spelt : SpellsFrom closing Part cs as)
    (also : ∀ cs, ∀ a ∈ as, Part cs a → Part' cs a) : SpellsFrom closing Part' cs as := by
  induction spelt with
  | last spelt blank => exact .last (also _ _ List.mem_cons_self spelt) blank
  | more spelt blank blank' _ ih =>
    exact .more (also _ _ List.mem_cons_self spelt) blank blank' (ih fun cs a among => also cs a (.tail _ among))

theorem SpellsParts.mono {cs : List Char} {as : List α} (spelt : SpellsParts closing Part cs as)
    (also : ∀ cs, ∀ a ∈ as, Part cs a → Part' cs a) : SpellsParts closing Part' cs as := by
  cases spelt with
  | none blank => exact .none blank
  | some blank spelt => exact .some blank (spelt.mono also)

end

theorem SpellsMember.mono {Item Item' : List Char → Json → Prop} (also : ∀ {cs v}, Item cs v → Item' cs v)
    {cs : List Char} {pair : String × Json} (spelt : SpellsMember Item cs pair) : SpellsMember Item' cs pair := by
  cases spelt with
  | mk named blank blank' spelt => exact .mk named blank blank' (also spelt)

theorem SpellsOver.mono {Item Item' : List Char → Json → Prop} (also : ∀ {cs v}, Item cs v → Item' cs v)
    {cs : List Char} {v : Json} (spelt : SpellsOver Item cs v) : SpellsOver Item' cs v := by
  cases spelt with
  | scalar spelt => exact .scalar spelt
  | array spelt => exact .array (spelt.mono fun _ _ _ => also)
  | object spelt => exact .object (spelt.mono fun _ _ _ => SpellsMember.mono also)

/-- What spells a value with a bound on its nesting spells it with a wider bound. -/
theorem Spells.succ {depth : Nat} {cs : List Char} {v : Json} (spelt : Spells depth cs v) :
    Spells (depth + 1) cs v := by
  induction depth generalizing cs v with
  | zero => exact .scalar spelt
  | succ depth ih => exact SpellsOver.mono ih spelt

/-- A character of a JSON text: no control character unless it is a blank. -/
def IsPlain (c : Char) : Prop := 0x20 ≤ c.toNat ∨ Blank.isJsonBlank c = true

instance (c : Char) : Decidable (IsPlain c) := inferInstanceAs (Decidable (_ ∨ _))

theorem SpellsScalar.plain {cs : List Char} {v : Json} (spelt : SpellsScalar cs v) : ∀ c ∈ cs, IsPlain c := by
  cases spelt with
  | string spelt =>
    exact List.forall_mem_cons.mpr ⟨.inl (by decide),fun c inside => .inl (spelt.not_control c inside)⟩
  | word known =>
    simp only [words,List.mem_cons,List.not_mem_nil,or_false,Prod.mk.injEq] at known
    rcases known with ⟨rfl,rfl⟩ | ⟨rfl,rfl⟩ | ⟨rfl,rfl⟩ | ⟨rfl,rfl⟩ | ⟨rfl,rfl⟩ | ⟨rfl,rfl⟩
    all_goals exact forall_mem_of_all (by decide)
  | number spelt => exact fun c inside => .inl (spelt.not_control c inside)

theorem Blanks.plain {cs : List Char} (blank : Blanks cs) : ∀ c ∈ cs, IsPlain c := fun c inside => .inr (blank c inside)

section

variable {α : Type} {closing : Char} {Part : List Char → α → Prop} (closes : IsPlain closing)
  (each : ∀ {cs a}, Part cs a → ∀ c ∈ cs, IsPlain c)
include closes each

theorem SpellsFrom.plain {cs : List Char} {as : List α} (spelt : SpellsFrom closing Part cs as) :
    ∀ c ∈ cs, IsPlain c := by
  induction spelt with
  | last spelt blank =>
    simp only [List.forall_mem_append,List.forall_mem_singleton]
    exact ⟨each spelt,blank.plain,closes⟩
  | more spelt blank blank' _ ih =>
    simp only [List.forall_mem_append,List.forall_mem_cons]
    exact ⟨each spelt,blank.plain,by decide,blank'.plain,ih⟩

theorem SpellsParts.plain {cs : List Char} {as : List α} (spelt : SpellsParts closing Part cs as) :
    ∀ c ∈ cs, IsPlain c := by
  cases spelt with
  | none blank =>
    simp only [List.forall_mem_append,List.forall_mem_singleton]
    exact ⟨blank.plain,closes⟩
  | some blank spelt => exact List.forall_mem_append.mpr ⟨blank.plain,spelt.plain closes each⟩

end

theorem SpellsMember.plain {Item : List Char → Json → Prop} (plain : ∀ {cs v}, Item cs v → ∀ c ∈ cs, IsPlain c)
    {cs : List Char} {pair : String × Json} (spelt : SpellsMember Item cs pair) : ∀ c ∈ cs, IsPlain c := by
  cases spelt with
  | mk named blank blank' spelt =>
    simp only [List.forall_mem_append,List.forall_mem_cons]
    exact ⟨by decide,fun c inside => .inl (named.not_control c inside),blank.plain,by decide,blank'.plain,plain spelt⟩

/-- No control character is part of a JSON text, except for those that are blanks. -/
theorem Spells.plain {depth : Nat} {cs : List Char} {v : Json} (spelt : Spells depth cs v) : ∀ c ∈ cs, IsPlain c := by
  induction depth generalizing cs v with
  | zero => exact SpellsScalar.plain spelt
  | succ depth ih =>
    cases spelt with
    | scalar spelt => exact spelt.plain
    | array spelt => exact List.forall_mem_cons.mpr ⟨by decide,spelt.plain (by decide) ih⟩
    | object spelt => exact List.forall_mem_cons.mpr ⟨by decide,spelt.plain (by decide) (SpellsMember.plain ih)⟩

/-! ### Whole numbers -/

/-- A whole number is somewhere in a value. -/
inductive Holds : Json → Int → Prop
  | number {n : Int} : Holds (.number (.int n)) n
  | item {items : List Json} {item : Json} {n : Int} (among : item ∈ items) (held : Holds item n) :
    Holds (.array items) n
  | member {members : List (String × Json)} {key : String} {v : Json} {n : Int} (among : (key,v) ∈ members)
    (held : Holds v n) : Holds (.object members) n

section

variable {α : Type} {closing : Char} {Part : List Char → α → Prop}

theorem SpellsFrom.each {cs : List Char} {as : List α} (spelt : SpellsFrom closing Part cs as) :
    ∀ a ∈ as, ∃ text, Part text a := by
  induction spelt with
  | last spelt => exact List.forall_mem_cons.mpr ⟨⟨_,spelt⟩,by simp⟩
  | more spelt _ _ _ ih => exact List.forall_mem_cons.mpr ⟨⟨_,spelt⟩,ih⟩

theorem SpellsParts.each {cs : List Char} {as : List α} (spelt : SpellsParts closing Part cs as) :
    ∀ a ∈ as, ∃ text, Part text a := by
  cases spelt with
  | none => simp
  | some _ spelt => exact spelt.each

end

theorem SpellsScalar.short {cs : List Char} {v : Json} (spelt : SpellsScalar cs v) {n : Int} (held : v.Holds n) :
    n.natAbs < 10 ^ maxDigits := by
  cases held with
  | number =>
    rcases spelt with _ | known | spelt
    · simp [words] at known
    · exact spelt.short
  | item =>
    rcases spelt with _ | known | _
    simp [words] at known
  | member =>
    rcases spelt with _ | known | _
    simp [words] at known

/-- No whole number that is read is too long, wherever it stands. -/
theorem Spells.short {depth : Nat} {cs : List Char} {v : Json} (spelt : Spells depth cs v) {n : Int}
    (held : v.Holds n) : n.natAbs < 10 ^ maxDigits := by
  induction depth generalizing cs v with
  | zero => exact SpellsScalar.short spelt held
  | succ depth ih =>
    cases spelt with
    | scalar spelt => exact spelt.short held
    | array spelt =>
      obtain _ | ⟨among,held⟩ := held
      obtain ⟨text,spelt⟩ := spelt.each _ among
      exact ih spelt held
    | object spelt =>
      obtain _ | _ | ⟨among,held⟩ := held
      obtain ⟨text,spelt⟩ := spelt.each _ (Members.mem_ofList among)
      cases spelt with
      | mk _ _ _ spelt => exact ih spelt held

end Json

end ShotRecorder
