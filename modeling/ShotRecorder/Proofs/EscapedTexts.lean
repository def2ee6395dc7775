import Mathlib.Data.List.TakeWhile
import ShotRecorder.Terminal.Markup

/-!
Escaped texts on a terminal. In an escaped text each tag stands behind an odd number of backslashes (`escapes_escape`),
so that showing it never fails, whatever the text (`shownText_escape`). What is shown is the text, character for
character, unless it holds backslashes, control characters or the name of an emoji (`shownText_escape_of_literal`).
-/
namespace ShotRecorder.Terminal

/-! ### Tags -/

/-- What may stand between the brackets of a tag. -/
def IsTag (inside : List Char) : Prop :=
  ∃ c more, inside = c :: more ∧ startsTag c = true ∧ ∀ d ∈ more, d ≠ ']' ∧ d ≠ '['

theorem tag?_eq_some {cs inside rest : List Char} :
    tag? cs = some (inside,rest) ↔ IsTag inside ∧ cs = '[' :: (inside ++ ']' :: rest) := by
  constructor
  · intro found
    unfold tag? at found
    split at found
    · rename_i c more
      split at found
      · rename_i starts
        have clean : ∀ d ∈ more.takeWhile fun c => c != ']' && c != '[', d ≠ ']' ∧ d ≠ '[' := by
          intro d member
          simpa using List.mem_takeWhile_imp member
        have whole : more.takeWhile (fun c => c != ']' && c != '[') ++
            more.drop (more.takeWhile fun c => c != ']' && c != '[').length = more := by
          have parts := @List.drop_left _ (more.takeWhile fun c => c != ']' && c != '[')
            (more.dropWhile fun c => c != ']' && c != '[')
          rw [List.takeWhile_append_dropWhile] at parts
          rw [parts,List.takeWhile_append_dropWhile]
        dsimp only at found
        split at found
        · rename_i after behind
          obtain ⟨rfl,rfl⟩ := Prod.mk.inj (Option.some.inj found)
          rw [behind] at whole
          exact ⟨⟨c,_,rfl,starts,clean⟩,by rw [List.cons_append,whole]⟩
        · cases found
      · cases found
    · cases found
  · rintro ⟨⟨c,more,rfl,starts,clean⟩,rfl⟩
    have inside : (more ++ ']' :: rest).takeWhile (fun c => c != ']' && c != '[') = more := by
      rw [List.takeWhile_append_of_pos fun d member => by simpa using clean d member]
      simp
    simp only [List.cons_append,tag?,starts,↓reduceIte,inside,List.drop_left]

/-- One of the two brackets. -/
def isBracket (c : Char) : Bool := c = '[' || c = ']'

theorem notBracket_of_startsTag {c : Char} (starts : startsTag c = true) : isBracket c = false := by
  refine Bool.eq_false_iff.mpr fun bracket => ?_
  have either : c = '[' ∨ c = ']' := by simpa [isBracket] using bracket
  rcases either with rfl | rfl <;> exact absurd starts (by decide)

/-- A bracket opens a tag just if a character follows that may start one, and the next bracket closes it. -/
theorem tag?_isSome {cs : List Char} :
    (tag? ('[' :: cs)).isSome ↔ (∃ c ∈ cs.head?, startsTag c = true) ∧ cs.find? isBracket = some ']' := by
  rw [Option.isSome_iff_exists]
  constructor
  · rintro ⟨⟨inside,rest⟩,found⟩
    obtain ⟨⟨c,more,rfl,starts,clean⟩,whole⟩ := tag?_eq_some.mp found
    obtain rfl := (List.cons.inj whole).2
    refine ⟨⟨c,rfl,starts⟩,?_⟩
    have none : (c :: more).find? isBracket = none := by
      refine List.find?_eq_none.mpr fun d member => ?_
      rcases List.mem_cons.mp member with rfl | later
      · simp [notBracket_of_startsTag starts]
      · simp [isBracket,clean d later]
    rw [List.find?_append,none]
    rfl
  · rintro ⟨⟨c,first,starts⟩,next⟩
    obtain ⟨-,inside,rest,rfl,clean⟩ := List.find?_eq_some_iff_append.mp next
    cases inside with
    | nil =>
      obtain rfl := Option.some.inj first
      exact absurd starts (by decide)
    | cons d more =>
      obtain rfl := Option.some.inj first
      refine ⟨_,tag?_eq_some.mpr ⟨⟨d,more,rfl,starts,fun e member => ?_⟩,rfl⟩⟩
      have notBracket : isBracket e = false := by simpa using clean e (List.mem_cons_of_mem d member)
      constructor <;> rintro rfl <;> exact absurd notBracket (by decide)

/-! ### Backslashes -/

theorem backslashes_row (count : Nat) (cs : List Char) :
    (backslashes (backslashRow count ++ cs)).2 = (backslashes cs).2 :=
  List.dropWhile_append_of_pos fun c member => by simp [List.eq_of_mem_replicate member]

theorem backslashes_row_bracket (count : Nat) (cs : List Char) :
    backslashes (backslashRow count ++ '[' :: cs) = (count,'[' :: cs) := by
  have each : ∀ c ∈ backslashRow count, (c == '\\') = true := fun c member => by
    simp [List.eq_of_mem_replicate member]
  refine Prod.ext ?_ (backslashes_row count ('[' :: cs))
  change ((backslashRow count ++ '[' :: cs).takeWhile (· == '\\')).length = count
  rw [List.takeWhile_append_of_pos each]
  simp [backslashRow]

/-- A text is its backslashes and what follows them. -/
theorem row_backslashes (cs : List Char) : backslashRow (backslashes cs).1 ++ (backslashes cs).2 = cs := by
  have row : cs.takeWhile (· == '\\') = backslashRow (backslashes cs).1 :=
    List.eq_replicate_iff.mpr ⟨rfl,fun c member => by simpa using List.mem_takeWhile_imp member⟩
  rw [← row]
  exact List.takeWhile_append_dropWhile

theorem head_behind_backslashes (cs : List Char) : (backslashes cs).2.head? ≠ some '\\' := by
  intro first
  have stops := List.head?_dropWhile_not (· == '\\') cs
  unfold backslashes at first
  rw [first] at stops
  simp at stops

/-! ### Escaped texts -/

/-- A text with markup but without a tag, and the text that it stands for: where a tag might be, an odd number of
    backslashes stands before it, one of which is its own. -/
inductive Escapes : (shown escaped : List Char) → Prop where
  | nil : Escapes [] []
  | char {c : Char} {shown rest : List Char} : tag? (backslashes (c :: rest)).2 = none → Escapes shown rest →
      Escapes (c :: shown) (c :: rest)
  | tag {count : Nat} {inside shown rest : List Char} : IsTag inside → count % 2 = 1 → Escapes shown rest →
      Escapes (backslashRow (count / 2) ++ '[' :: inside ++ ']' :: shown)
        (backslashRow count ++ '[' :: (inside ++ ']' :: rest))

/-- Backslashes stand for themselves where no tag follows. -/
theorem Escapes.row {shown rest : List Char} (escapes : Escapes shown rest)
    (untagged : tag? (backslashes rest).2 = none) (count : Nat) :
    Escapes (backslashRow count ++ shown) (backslashRow count ++ rest) := by
  induction count with
  | zero => exact escapes
  | succ count ih =>
    refine .char ?_ ih
    exact (congrArg tag? (backslashes_row (count + 1) rest)).trans untagged

section

variable {fuel : Nat} {tail : List Char} (slashes : ∀ c ∈ tail, c = '\\')

/-- How a text is escaped from its front: the tag behind its backslashes, or else its backslashes or its first
    character. -/
theorem escapeTags_cases (fuel : Nat) (c : Char) (rest : List Char) :
    (∃ count inside after, IsTag inside ∧ c :: rest = backslashRow count ++ '[' :: (inside ++ ']' :: after) ∧
      escapeTags (fuel + 1) (c :: rest) =
        backslashRow (2 * count + 1) ++ '[' :: (inside ++ ']' :: escapeTags fuel after)) ∨
    (∃ count after, 0 < count ∧ tag? after = none ∧ after.head? ≠ some '\\' ∧ c :: rest = backslashRow count ++ after ∧
      escapeTags (fuel + 1) (c :: rest) = backslashRow count ++ escapeTags fuel after) ∨
    (tag? (c :: rest) = none ∧ c ≠ '\\' ∧ escapeTags (fuel + 1) (c :: rest) = c :: escapeTags fuel rest) := by
  have whole := row_backslashes (c :: rest)
  have head := head_behind_backslashes (c :: rest)
  rw [escapeTags]
  generalize backslashes (c :: rest) = parts at whole head ⊢
  obtain ⟨count,after⟩ := parts
  dsimp only at whole head ⊢
  cases found : tag? after with
  | some pair =>
    obtain ⟨inside,behind⟩ := pair
    obtain ⟨isTag,rfl⟩ := tag?_eq_some.mp found
    exact .inl ⟨count,inside,behind,isTag,whole.symm,by simp⟩
  | none =>
    by_cases none : count = 0
    · subst none
      obtain rfl : after = c :: rest := whole
      exact .inr (.inr ⟨found,fun same => head (congrArg some same),rfl⟩)
    · exact .inr (.inl ⟨count,after,by omega,found,head,whole.symm,if_neg none⟩)

/-- Escaping puts nothing but backslashes before the first character. -/
theorem head_escapeTags (fuel : Nat) (cs : List Char) :
    (escapeTags fuel cs).head? = cs.head? ∨ (escapeTags fuel cs).head? = some '\\' := by
  match fuel,cs with
  | 0,_ => exact .inl rfl
  | _ + 1,[] => exact .inl rfl
  | fuel + 1,c :: rest =>
    rcases escapeTags_cases fuel c rest with ⟨count,_,_,-,-,escaped⟩ | ⟨count,_,some,-,-,-,escaped⟩ | ⟨-,-,escaped⟩
    · exact .inr (by simp [escaped,backslashRow,List.replicate_succ])
    · obtain ⟨count,rfl⟩ : ∃ n, count = n + 1 := ⟨count - 1,by omega⟩
      exact .inr (by simp [escaped,backslashRow,List.replicate_succ])
    · exact .inl (by rw [escaped]; rfl)

/-- Escaping adds no bracket. -/
theorem find_escapeTags (fuel : Nat) (cs : List Char) : (escapeTags fuel cs).find? isBracket = cs.find? isBracket := by
  have row : ∀ count cs, (backslashRow count ++ cs).find? isBracket = cs.find? isBracket := by
    intro count cs
    have none : (backslashRow count).find? isBracket = none :=
      List.find?_eq_none.mpr fun c member => by simp [List.eq_of_mem_replicate member,isBracket]
    rw [List.find?_append,none,Option.none_or]
  induction fuel generalizing cs with
  | zero => rfl
  | succ fuel ih =>
    cases cs with
    | nil => rfl
    | cons c rest =>
      rcases escapeTags_cases fuel c rest with ⟨_,_,_,-,whole,escaped⟩ | ⟨_,_,-,-,-,whole,escaped⟩ | ⟨-,-,escaped⟩
      · rw [escaped,whole,row,row]
        rfl
      · rw [escaped,whole,row,row,ih]
      · rw [escaped,List.find?_cons,List.find?_cons,ih]

include slashes

theorem find_slashes (cs : List Char) : (cs ++ tail).find? isBracket = cs.find? isBracket := by
  have none : tail.find? isBracket = none :=
    List.find?_eq_none.mpr fun c member => by simp [slashes c member,isBracket]
  rw [List.find?_append,none,Option.or_none]

/-- A bracket that opens no tag opens none when what follows it is escaped. -/
theorem untagged_escapeTags {cs : List Char} (untagged : tag? ('[' :: cs) = none) :
    tag? ('[' :: (escapeTags fuel cs ++ tail)) = none := by
  rw [← Option.not_isSome_iff_eq_none] at untagged ⊢
  refine mt (fun opened => ?_) untagged
  obtain ⟨⟨c,first,starts⟩,next⟩ := tag?_isSome.mp opened
  rw [find_slashes slashes,find_escapeTags] at next
  refine tag?_isSome.mpr ⟨⟨c,?_,starts⟩,next⟩
  have noSlash : c ≠ '\\' := by
    rintro rfl
    exact absurd starts (by decide)
  cases escaped : escapeTags fuel cs with
  | nil =>
    rw [escaped,List.nil_append] at first
    exact absurd (slashes c (List.mem_of_mem_head? first)) noSlash
  | cons d more =>
    have heads := head_escapeTags fuel cs
    rw [escaped] at first heads
    obtain rfl := Option.some.inj first
    rcases heads with same | slash
    · exact same.symm
    · exact absurd (Option.some.inj slash) noSlash

/-- What follows backslashes opens no tag when it is escaped, if it opened none before. -/
theorem untagged_behind {cs : List Char} (untagged : tag? cs = none) (noSlash : cs.head? ≠ some '\\')
    (enough : cs.length < fuel) : tag? (backslashes (escapeTags fuel cs ++ tail)).2 = none := by
  obtain ⟨fuel,rfl⟩ : ∃ n, fuel = n + 1 := ⟨fuel - 1,by omega⟩
  cases cs with
  | nil =>
    have dropped : tail.dropWhile (· == '\\') = [] :=
      List.dropWhile_eq_nil_iff.mpr fun c member => by simp [slashes c member]
    change tag? (tail.dropWhile (· == '\\')) = none
    rw [dropped]
    rfl
  | cons c rest =>
    have other : c ≠ '\\' := fun same => noSlash (congrArg some same)
    rcases escapeTags_cases fuel c rest with
      ⟨count,inside,after,isTag,whole,-⟩ | ⟨count,_,some,-,-,whole,-⟩ | ⟨-,-,escaped⟩
    · cases count with
      | zero =>
        have opened : tag? (c :: rest) = some (inside,after) := tag?_eq_some.mpr ⟨isTag,whole⟩
        rw [opened] at untagged
        cases untagged
      | succ count => exact absurd (List.cons.inj whole).1 other
    · obtain ⟨count,rfl⟩ : ∃ n, count = n + 1 := ⟨count - 1,by omega⟩
      exact absurd (List.cons.inj whole).1 other
    · have kept : (backslashes (c :: (escapeTags fuel rest ++ tail))).2 = c :: (escapeTags fuel rest ++ tail) := by
        change (c :: (escapeTags fuel rest ++ tail)).dropWhile (· == '\\') = _
        simp [other]
      rw [escaped,List.cons_append,kept]
      by_cases bracket : c = '['
      · subst bracket
        exact untagged_escapeTags slashes untagged
      · unfold tag?
        split
        · simp_all
        · rfl

/-- What is escaped stands for the text itself; further backslashes at its end stand for themselves. -/
theorem escapes_escapeTags {cs : List Char} (enough : cs.length < fuel) :
    Escapes (cs ++ tail) (escapeTags fuel cs ++ tail) := by
  induction fuel generalizing cs with
  | zero => exact absurd enough (Nat.not_lt_zero _)
  | succ fuel ih =>
    cases cs with
    | nil =>
      have row : tail = backslashRow tail.length ++ [] := by
        rw [List.append_nil]
        exact List.eq_replicate_iff.mpr ⟨rfl,slashes⟩
      have escapes := Escapes.row .nil rfl tail.length
      rw [← row] at escapes
      exact escapes
    | cons c rest =>
      rcases escapeTags_cases fuel c rest with
        ⟨count,inside,after,isTag,whole,escaped⟩ | ⟨count,after,some,untagged,noSlash,whole,escaped⟩ |
          ⟨untagged,noSlash,escaped⟩
      · have shorter : after.length < fuel := by
          have lengths := congrArg List.length whole
          simp only [List.length_cons,List.length_append] at lengths enough
          omega
        have half : (2 * count + 1) / 2 = count := by omega
        have odd : (2 * count + 1) % 2 = 1 := by omega
        have escapes := Escapes.tag isTag odd (ih shorter)
        rw [half] at escapes
        rw [escaped,whole]
        simpa using escapes
      · have shorter : after.length < fuel := by
          have lengths := congrArg List.length whole
          simp only [List.length_cons,List.length_append,backslashRow,List.length_replicate] at lengths enough
          omega
        rw [escaped,whole,List.append_assoc,List.append_assoc]
        exact (ih shorter).row (untagged_behind slashes untagged noSlash shorter) count
      · have behind := untagged_behind slashes untagged (fun same => noSlash (Option.some.inj same)) enough
        rw [escaped] at behind ⊢
        exact .char behind (ih (Nat.lt_of_succ_lt_succ enough))

end

/-- What stands for a text ends with the same character. -/
theorem Escapes.getLast {shown escaped : List Char} (escapes : Escapes shown escaped) :
    escaped.getLast? = shown.getLast? := by
  induction escapes with
  | nil => rfl
  | char _ _ ih => rw [List.getLast?_cons,List.getLast?_cons,ih]
  | tag _ _ _ ih => simp [List.getLast?_append,List.getLast?_cons,ih]

/-- Escaping a text makes a text that stands for it, but for a backslash that may be added at its end. -/
theorem escapes_escape (cs : List Char) :
    ∃ tail, (∀ c ∈ tail, c = '\\') ∧ Escapes (cs ++ tail) (escape cs) ∧ ('\\' ∉ cs → tail = []) := by
  have escapes : ∀ tail, (∀ c ∈ tail, c = '\\') → Escapes (cs ++ tail) (escapeTags (cs.length + 1) cs ++ tail) :=
    fun tail slashes => escapes_escapeTags slashes (Nat.lt_succ_self _)
  have plain := escapes [] (by simp)
  rw [List.append_nil (escapeTags _ _)] at plain
  unfold escape
  dsimp only
  split
  · exact ⟨[],by simp,plain,fun _ => rfl⟩
  · rename_i last
    refine ⟨['\\'],by simp,escapes _ (by simp),fun none => absurd ?_ none⟩
    have ends := plain.getLast
    rw [← List.head?_reverse,last,List.append_nil] at ends
    exact List.mem_of_getLast? ends.symm
  · exact ⟨[],by simp,plain,fun _ => rfl⟩

/-! ### What is shown -/

/-- What is shown of a text between tags. -/
def shownPart (cs : List Char) : List Char := (Emoji.replace (openBrackets cs)).filter (!isStripped ·)

theorem textOf_parts (parts : List (List Char)) : textOf [] (parts.map .text) = .ok (parts.flatMap shownPart) := by
  induction parts with
  | nil => rfl
  | cons part parts ih =>
    rw [List.map_cons,textOf,ih]
    rfl

theorem cons_parts (c : Char) (parts : List (List Char)) :
    ∃ joined : List (List Char), Piece.cons c (parts.map .text) = joined.map .text ∧
      joined.flatten = c :: parts.flatten := by
  cases parts with
  | nil => exact ⟨[[c]],rfl,rfl⟩
  | cons part parts => exact ⟨(c :: part) :: parts,rfl,rfl⟩

theorem before_parts (cs : List Char) (parts : List (List Char)) :
    ∃ joined : List (List Char), Piece.before cs (parts.map .text) = joined.map .text ∧
      joined.flatten = cs ++ parts.flatten := by
  unfold Piece.before
  split
  · rename_i none
    exact ⟨parts,rfl,by simp [List.isEmpty_iff.mp none]⟩
  · exact ⟨cs :: [] :: parts,rfl,by simp⟩

/-- An escaped text is read as parts of what it stands for, without a tag among them. -/
theorem Escapes.pieces {shown escaped : List Char} (escapes : Escapes shown escaped) {fuel : Nat}
    (enough : escaped.length < fuel) (place : Nat) :
    ∃ parts : List (List Char), Terminal.pieces fuel place escaped = parts.map .text ∧ parts.flatten = shown := by
  induction escapes generalizing fuel place with
  | nil =>
    obtain ⟨fuel,rfl⟩ : ∃ n, fuel = n + 1 := ⟨fuel - 1,by omega⟩
    exact ⟨[],rfl,rfl⟩
  | @char c shown rest untagged escapes ih =>
    obtain ⟨fuel,rfl⟩ : ∃ n, fuel = n + 1 := ⟨fuel - 1,by omega⟩
    obtain ⟨parts,read,whole⟩ := ih (Nat.lt_of_succ_lt_succ enough) (place + 1)
    obtain ⟨joined,put,flat⟩ := cons_parts c parts
    refine ⟨joined,?_,by rw [flat,whole]⟩
    rw [Terminal.pieces]
    dsimp only
    rw [untagged]
    dsimp only
    rw [read,put]
  | @tag count inside shown rest isTag odd escapes ih =>
    obtain ⟨fuel,rfl⟩ : ∃ n, fuel = n + 1 := ⟨fuel - 1,by omega⟩
    have shorter : rest.length < fuel := by
      simp only [List.length_cons,List.length_append] at enough
      omega
    obtain ⟨parts,read,whole⟩ := ih shorter (place + count + inside.length + 2)
    obtain ⟨tagged,put,flat⟩ := before_parts ('[' :: inside ++ [']']) parts
    obtain ⟨joined,put',flat'⟩ := before_parts (backslashRow (count / 2)) tagged
    refine ⟨joined,?_,by rw [flat',flat,whole]; simp⟩
    obtain ⟨c,more,starts⟩ : ∃ c more, backslashRow count ++ '[' :: (inside ++ ']' :: rest) = c :: more := by
      cases count <;> exact ⟨_,_,rfl⟩
    rw [starts,Terminal.pieces,← starts,backslashes_row_bracket]
    dsimp only
    rw [tag?_eq_some.mpr ⟨isTag,rfl⟩]
    dsimp only
    rw [if_pos odd,read,put,put']

/-- An escaped text can always be shown: its parts, with emoji for their names and without control characters. -/
theorem shownText_escape (cs : List Char) :
    ∃ (parts : List (List Char)) (tail : List Char), (∀ c ∈ tail, c = '\\') ∧ ('\\' ∉ cs → tail = []) ∧
      parts.flatten = cs ++ tail ∧ shownText (escape cs) = .ok (parts.flatMap shownPart) := by
  obtain ⟨tail,slashes,escapes,none⟩ := escapes_escape cs
  obtain ⟨parts,read,whole⟩ := escapes.pieces (Nat.lt_succ_self _) 0
  refine ⟨parts,tail,slashes,none,whole,?_⟩
  rw [shownText,read,textOf_parts]

/-! ### Texts that are shown as they are -/

/-- A text that a terminal shows as it is once it is escaped: it holds no backslash and no control character, and not
    the two colons that the name of an emoji stands between. -/
structure Literal (cs : List Char) : Prop where
  noSlash : '\\' ∉ cs
  noControl : ∀ c ∈ cs, isStripped c = false
  fewColons : cs.count ':' ≤ 1

theorem length_partsOf (mark : Char) (cs : List Char) : (Parts.of mark cs).length = cs.count mark + 1 := by
  induction cs with
  | nil => rfl
  | cons c rest ih =>
    rw [Parts.of]
    split
    · rename_i same
      subst same
      simp [ih]
    · rename_i other
      obtain ⟨first,others,parts⟩ := List.exists_cons_of_ne_nil (Parts.of_ne_nil mark rest)
      rw [parts] at ih ⊢
      simpa [other] using ih

/-- A name of an emoji needs two colons. -/
theorem replace_of_fewColons {cs : List Char} (few : cs.count ':' ≤ 1) : Emoji.replace cs = cs := by
  have joined := Parts.intercalate_of ':' cs
  have length := length_partsOf ':' cs
  unfold Emoji.replace
  match parts : Parts.of ':' cs with
  | [] => exact absurd parts (Parts.of_ne_nil ':' cs)
  | [text] =>
    rw [parts] at joined
    simpa [Emoji.joined,List.intercalate] using joined
  | [text,last] =>
    rw [parts] at joined
    simpa [Emoji.joined,List.intercalate,List.intersperse] using joined
  | text :: code :: next :: rest =>
    rw [parts] at length
    simp only [List.length_cons] at length
    omega

theorem openBrackets_of_noSlash {cs : List Char} (noSlash : '\\' ∉ cs) : openBrackets cs = cs := by
  fun_induction openBrackets cs with
  | case1 => rfl
  | case2 rest ih => simp at noSlash
  | case3 c rest other ih => rw [ih fun member => noSlash (List.mem_cons_of_mem c member)]

theorem Literal.shownPart {cs : List Char} (literal : Literal cs) : shownPart cs = cs := by
  rw [Terminal.shownPart,openBrackets_of_noSlash literal.noSlash,replace_of_fewColons literal.fewColons]
  exact List.filter_eq_self.mpr fun c member => by simp [literal.noControl c member]

theorem Literal.part {parts : List (List Char)} (literal : Literal parts.flatten) {part : List Char}
    (member : part ∈ parts) : Literal part := by
  have within := List.sublist_flatten_of_mem member
  exact ⟨fun slash => literal.noSlash (within.subset slash),fun c inside => literal.noControl c (within.subset inside),
    (within.count_le ':').trans literal.fewColons⟩

theorem shownText_escape_of_literal {cs : List Char} (literal : Literal cs) : shownText (escape cs) = .ok cs := by
  obtain ⟨parts,tail,-,none,whole,shown⟩ := shownText_escape cs
  rw [none literal.noSlash,List.append_nil] at whole
  subst whole
  have each : parts.map Terminal.shownPart = parts :=
    (List.map_congr_left fun part member => (literal.part member).shownPart).trans (List.map_id' parts)
  rw [shown,List.flatMap_def,each]

end ShotRecorder.Terminal
