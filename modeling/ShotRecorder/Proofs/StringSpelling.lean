import ShotRecorder.Json.Reader

/-!
How the strings of a JSON text are spelt. A character stands for itself or is escaped, by a letter or by one or two
UTF-16 units, and a string goes on up to its quote (`SpellsString`). The reader of strings takes exactly such a front of
the text (`stringBody_sound`), and reads it for what it spells whatever follows (`stringBody_complete`).
-/
namespace ShotRecorder.Json
open Reader

/-- Four hexadecimal digits that spell a UTF-16 unit. -/
inductive SpellsUnit : List Char → Nat → Prop
  | digits {a b c d : Char} {w x y z : Nat} (first : Digits.hexValue? a = some w) (second : Digits.hexValue? b = some x)
    (third : Digits.hexValue? c = some y) (fourth : Digits.hexValue? d = some z) :
    SpellsUnit [a,b,c,d] (((w * 16 + x) * 16 + y) * 16 + z)

/-- A text that spells one character of a string. -/
inductive SpellsChar : List Char → Char → Prop
  | plain {c : Char} (notQuote : c ≠ '"') (notBackslash : c ≠ '\\') (noControl : 0x20 ≤ c.toNat) : SpellsChar [c] c
  | letter {letter c : Char} (meaning : shortEscape? letter = some c) : SpellsChar ['\\',letter] c
  | unit {digits : List Char} {n : Nat} (spelt : SpellsUnit digits n) (notHigh : isHighSurrogate n = false)
    (notLow : isLowSurrogate n = false) : SpellsChar ('\\' :: 'u' :: digits) (Char.ofNat n)
  | pair {first second : List Char} {high low : Nat} (spelt : SpellsUnit first high) (isHigh : isHighSurrogate high)
    (spelt' : SpellsUnit second low) (isLow : isLowSurrogate low) :
    SpellsChar ('\\' :: 'u' :: first ++ '\\' :: 'u' :: second) (Char.ofNat (joinSurrogates high low))

/-- A text that spells the characters of a string behind its opening quote, up to and with its closing one. -/
inductive SpellsString : List Char → List Char → Prop
  | close : SpellsString ['"'] []
  | char {front rest : List Char} {c : Char} {text : List Char} (first : SpellsChar front c)
    (others : SpellsString rest text) : SpellsString (front ++ rest) (c :: text)

/-! ### Units -/

theorem unit?_sound {cs rest : List Char} {n : Nat} (read : unit? cs = some (n,rest)) :
    rest ≠ [] ∧ ∃ digits, cs = digits ++ rest ∧ SpellsUnit digits n := by
  unfold unit? at read
  split at read
  · rename_i a b c d e more
    simp only [Option.bind_eq_bind,Option.bind_eq_some_iff,Option.some.injEq,Prod.mk.injEq] at read
    obtain ⟨w,first,x,second,y,third,z,fourth,rfl,rfl⟩ := read
    exact ⟨List.cons_ne_nil _ _,[a,b,c,d],rfl,.digits first second third fourth⟩
  · cases read

theorem unit?_complete {digits rest : List Char} {n : Nat} (spelt : SpellsUnit digits n) (more : rest ≠ []) :
    unit? (digits ++ rest) = some (n,rest) := by
  obtain ⟨e,rest,rfl⟩ := List.exists_cons_of_ne_nil more
  cases spelt with
  | digits first second third fourth => simp [unit?,first,second,third,fourth]

theorem SpellsUnit.length {digits : List Char} {n : Nat} (spelt : SpellsUnit digits n) : digits.length = 4 := by
  cases spelt with
  | digits => rfl

/-! ### Characters -/

/-- A pair is taken as one where its second half follows. -/
theorem lowSurrogate?_sound {cs rest : List Char} {low : Nat} (read : lowSurrogate? cs = .ok (some (low,rest))) :
    isLowSurrogate low ∧ ∃ digits, cs = '\\' :: 'u' :: digits ++ rest ∧ SpellsUnit digits low := by
  unfold lowSurrogate? at read
  split at read
  · rename_i digits
    split at read
    · cases read
    · split at read
      · cases read
      · rename_i low' rest' found
        split at read
        · rename_i isLow
          obtain ⟨rfl,rfl⟩ := Prod.mk.inj (Option.some.inj (Except.ok.inj read))
          obtain ⟨-,front,rfl,spelt⟩ := unit?_sound found
          exact ⟨isLow,front,rfl,spelt⟩
        · cases read
  · cases read

theorem unicodeEscape_sound {cs rest text : List Char} (read : unicodeEscape .refused cs = .ok (text,rest)) :
    ∃ front c, text = [c] ∧ '\\' :: 'u' :: cs = front ++ rest ∧ SpellsChar front c := by
  unfold unicodeEscape at read
  split at read
  · cases read
  · rename_i high rest' found
    obtain ⟨-,digits,rfl,spelt⟩ := unit?_sound found
    split at read
    · rename_i isHigh
      cases second : lowSurrogate? rest' with
      | error refusal => simp [second,bind,Except.bind] at read
      | ok next =>
        cases next with
        | none => simp [second,bind,Except.bind,loneHalf] at read
        | some found' =>
          obtain ⟨low,behind⟩ := found'
          simp only [second,bind,Except.bind,Except.ok.injEq,Prod.mk.injEq] at read
          obtain ⟨rfl,rfl⟩ := read
          obtain ⟨isLow,digits',rfl,spelt'⟩ := lowSurrogate?_sound second
          refine ⟨_,_,rfl,?_,.pair spelt isHigh spelt' isLow⟩
          simp
    · rename_i notHigh
      split at read
      · cases read
      · rename_i notLow
        obtain ⟨rfl,rfl⟩ := Prod.mk.inj (Except.ok.inj read)
        exact ⟨_,_,rfl,rfl,.unit spelt (by simpa using notHigh) (by simpa using notLow)⟩

/-- A character that is read is spelt by the front of the text. -/
theorem character_sound {opening cs rest text : List Char}
    (read : character .refused opening cs = .ok (some text,rest)) :
    ∃ front c, text = [c] ∧ cs = front ++ rest ∧ SpellsChar front c := by
  unfold character at read
  split at read
  · cases read
  · cases read
  · cases read
  · rename_i digits
    cases escape : unicodeEscape .refused digits with
    | error refusal => simp [escape,Except.map] at read
    | ok found =>
      obtain ⟨text',rest'⟩ := found
      simp only [escape,Except.map,Except.ok.injEq,Prod.mk.injEq,Option.some.injEq] at read
      obtain ⟨rfl,rfl⟩ := read
      exact unicodeEscape_sound escape
  · rename_i letter more _ _
    split at read
    · rename_i c meaning
      simp only [Except.ok.injEq,Prod.mk.injEq,Option.some.injEq] at read
      obtain ⟨rfl,rfl⟩ := read
      exact ⟨_,c,rfl,rfl,.letter meaning⟩
    · cases read
  · -- What is neither a quote nor a backslash is read as it is, unless it is a control character.
    rename_i c more notQuote notAlone notUnit notEscape
    split at read
    · cases read
    · rename_i noControl
      simp only [Except.ok.injEq,Prod.mk.injEq,Option.some.injEq] at read
      obtain ⟨rfl,rfl⟩ := read
      refine ⟨[c],c,rfl,rfl,.plain notQuote (fun backslash => ?_) (by omega)⟩
      cases more with
      | nil => exact notAlone backslash rfl
      | cons letter more => exact notEscape _ _ backslash rfl

theorem character_close {halves : Halves.Rule} {opening cs rest : List Char}
    (read : character halves opening cs = .ok (none,rest)) : cs = '"' :: rest := by
  unfold character at read
  split at read
  · cases read
  · obtain rfl := (Prod.mk.inj (Except.ok.inj read)).2
    rfl
  · cases read
  · rename_i digits
    cases escape : unicodeEscape halves digits <;> simp [escape,Except.map] at read
  · split at read <;> cases read
  · split at read <;> cases read

theorem lowSurrogate?_complete {digits rest : List Char} {low : Nat} (spelt : SpellsUnit digits low)
    (isLow : isLowSurrogate low) (more : rest ≠ []) :
    lowSurrogate? ('\\' :: 'u' :: (digits ++ rest)) = .ok (some (low,rest)) := by
  have enough : ¬(digits ++ rest).length < 5 := by
    have := List.length_pos_iff.mpr more
    rw [List.length_append,spelt.length]
    omega
  rw [lowSurrogate?,if_neg enough,unit?_complete spelt more]
  simp [isLow]

/-- What spells a character is read as that character in front of anything. -/
theorem character_complete {opening front rest : List Char} {c : Char} (spelt : SpellsChar front c) (more : rest ≠ []) :
    character .refused opening (front ++ rest) = .ok (some [c],rest) := by
  cases spelt with
  | plain notQuote notBackslash noControl =>
    have notShort : ¬c.toNat < 0x20 := by omega
    simp [character,notBackslash,notShort,plainChar]
  | letter meaning =>
    unfold shortEscape? at meaning
    split at meaning <;> cases meaning <;> rfl
  | unit spelt notHigh notLow =>
    simp [character,unicodeEscape,unit?_complete spelt more,notHigh,notLow,plainChar,Except.map]
  | pair spelt isHigh spelt' isLow =>
    rename_i first second high low
    have behind := unit?_complete spelt (List.cons_ne_nil '\\' ('u' :: (second ++ rest)))
    have paired := lowSurrogate?_complete spelt' isLow more
    simp [character,unicodeEscape,behind,paired,isHigh,plainChar,Except.map,bind,Except.bind]

/-! ### Strings -/

theorem SpellsChar.length_pos {front : List Char} {c : Char} (spelt : SpellsChar front c) : 0 < front.length := by
  cases spelt <;> simp

theorem SpellsString.ne_nil {cs text : List Char} (spelt : SpellsString cs text) : cs ≠ [] := by
  cases spelt with
  | close => simp
  | char first _ => exact List.append_ne_nil_of_left_ne_nil (List.ne_nil_of_length_pos first.length_pos) _

/-- The characters that are read are spelt by the front of the text. -/
theorem characters_sound {opening cs rest text : List Char} {fuel : Nat}
    (read : characters .refused opening fuel cs = .ok (text,rest)) :
    ∃ front, cs = front ++ rest ∧ SpellsString front text := by
  induction fuel generalizing cs text with
  | zero => cases read
  | succ fuel ih =>
    rw [characters] at read
    cases first : character .refused opening cs with
    | error refusal => simp [first,bind,Except.bind] at read
    | ok found =>
      obtain ⟨c?,rest'⟩ := found
      simp only [first,bind,Except.bind] at read
      cases c? with
      | none =>
        obtain ⟨rfl,rfl⟩ := Prod.mk.inj (Except.ok.inj read)
        exact ⟨_,character_close first,.close⟩
      | some c =>
        cases others : characters .refused opening fuel rest' with
        | error refusal => simp [others] at read
        | ok found =>
          obtain ⟨more,behind⟩ := found
          simp only [others,Except.ok.injEq,Prod.mk.injEq] at read
          obtain ⟨rfl,rfl⟩ := read
          obtain ⟨front,c',rfl,rfl,spelt⟩ := character_sound first
          obtain ⟨front',rfl,spelt'⟩ := ih others
          exact ⟨front ++ front',(List.append_assoc _ _ _).symm,.char spelt spelt'⟩

/-- What spells a string is read as it is, with fuel for each of its characters. -/
theorem characters_complete {opening front rest text : List Char} (spelt : SpellsString front text) {fuel : Nat}
    (enough : front.length ≤ fuel) : characters .refused opening fuel (front ++ rest) = .ok (text,rest) := by
  induction spelt generalizing fuel with
  | close =>
    obtain ⟨fuel,rfl⟩ := Nat.exists_eq_succ_of_ne_zero (Nat.ne_of_gt enough)
    rfl
  | char first others ih =>
    rename_i front' rest' c text
    have positive := first.length_pos
    rw [List.length_append] at enough
    obtain ⟨fuel,rfl⟩ := Nat.exists_eq_succ_of_ne_zero (n := fuel) (by omega)
    have more : rest' ++ rest ≠ [] := List.append_ne_nil_of_left_ne_nil others.ne_nil _
    have behind := @ih fuel (by omega)
    rw [List.append_assoc,characters,character_complete first more]
    simp only [bind,Except.bind,behind,List.singleton_append]

/-- A string that is read is spelt by the front of the text. -/
theorem stringBody_sound {cs rest : List Char} {text : String} (read : stringBody .refused cs = .ok (text,rest)) :
    ∃ front, cs = front ++ rest ∧ SpellsString front text.toList := by
  unfold stringBody at read
  cases found : characters .refused ('"' :: cs) (cs.length + 1) cs with
  | error refusal => simp [found,Except.map] at read
  | ok outcome =>
    obtain ⟨chars,rest'⟩ := outcome
    simp only [found,Except.map,Except.ok.injEq,Prod.mk.injEq] at read
    obtain ⟨rfl,rfl⟩ := read
    simpa using characters_sound found

/-- What spells a string is read as that string in front of anything. -/
theorem stringBody_complete {front rest text : List Char} (spelt : SpellsString front text) :
    stringBody .refused (front ++ rest) = .ok (String.ofList text,rest) := by
  have enough : front.length ≤ (front ++ rest).length + 1 := by
    rw [List.length_append]
    omega
  rw [stringBody,characters_complete spelt enough]
  rfl

/-! ### No control characters -/

theorem hexValue?_not_control {c : Char} {n : Nat} (digit : Digits.hexValue? c = some n) : 0x20 ≤ c.toNat := by
  have printableFrom : ∀ first : Char, 0x20 ≤ first.toNat → first ≤ c → 0x20 ≤ c.toNat :=
    fun first printable after => Nat.le_trans printable after
  unfold Digits.hexValue? Digits.isDigit at digit
  split at digit
  · rename_i inside
    exact printableFrom '0' (by decide) (by simp_all)
  · split at digit
    · rename_i inside
      exact printableFrom 'a' (by decide) (by simp_all)
    · split at digit
      · rename_i inside
        exact printableFrom 'A' (by decide) (by simp_all)
      · cases digit

theorem SpellsUnit.not_control {digits : List Char} {n : Nat} (spelt : SpellsUnit digits n) :
    ∀ c ∈ digits, 0x20 ≤ c.toNat := by
  cases spelt with
  | digits first second third fourth =>
    simp [hexValue?_not_control first,hexValue?_not_control second,hexValue?_not_control third,
      hexValue?_not_control fourth]

theorem shortEscape?_not_control {letter c : Char} (meaning : shortEscape? letter = some c) : 0x20 ≤ letter.toNat := by
  unfold shortEscape? at meaning
  split at meaning <;> first | decide | cases meaning

theorem SpellsChar.not_control {front : List Char} {c : Char} (spelt : SpellsChar front c) :
    ∀ d ∈ front, 0x20 ≤ d.toNat := by
  have marks : 0x20 ≤ '\\'.toNat ∧ 0x20 ≤ 'u'.toNat := by decide
  cases spelt with
  | plain _ _ noControl => simpa using noControl
  | letter meaning => simp [shortEscape?_not_control meaning]
  | unit spelt => simpa using spelt.not_control
  | pair spelt _ spelt' =>
    have first := spelt.not_control
    have second := spelt'.not_control
    simp only [List.cons_append,List.mem_cons,List.mem_append]
    rintro d (rfl | rfl | inside | rfl | rfl | inside)
    · exact marks.1
    · exact marks.2
    · exact first d inside
    · exact marks.1
    · exact marks.2
    · exact second d inside

/-- No control character is part of a string. -/
theorem SpellsString.not_control {cs text : List Char} (spelt : SpellsString cs text) : ∀ c ∈ cs, 0x20 ≤ c.toNat := by
  induction spelt with
  | close => simp
  | char first _ ih =>
    intro c inside
    rcases List.mem_append.mp inside with inside | inside
    · exact first.not_control c inside
    · exact ih c inside

end ShotRecorder.Json
