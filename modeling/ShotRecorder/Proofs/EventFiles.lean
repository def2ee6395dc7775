import Mathlib
import ShotRecorder.Proofs.EventReading
import ShotRecorder.Proofs.FileLines
import ShotRecorder.Proofs.Spelling

/-!
The two layouts of an event file. Texts that are accepted one by one are accepted in either layout, and give the same
events (`lines_as_array`), under two conditions. No text holds a line end, of which a JSON text may hold five: outside
of strings line feeds and carriage returns, and inside of them three separators beyond ASCII. And no text is nested as
deep as a text may be, since the brackets of the array are one level more. In either layout no whole number that is
loaded is too long (`load_short`).
-/
namespace ShotRecorder

namespace Json
open Reader

/-! ### Parts that stand for something else -/

section

variable {α β : Type} {closing : Char} {Part : List Char → α → Prop} {Part' : List Char → β → Prop} {R : β → α → Prop}

/-- Parts that spell what stands for some things spell a list that stands for the list of these. -/
theorem SpellsFrom.through {cs : List Char} {as : List α} (spelt : SpellsFrom closing Part cs as)
    (each : ∀ cs, ∀ a ∈ as, Part cs a → ∃ b, Part' cs b ∧ R b a) :
    ∃ bs, SpellsFrom closing Part' cs bs ∧ List.Forall₂ R bs as := by
  induction spelt with
  | last spelt blank =>
    obtain ⟨b,spelt',stands⟩ := each _ _ List.mem_cons_self spelt
    exact ⟨[b],.last spelt' blank,.cons stands .nil⟩
  | more spelt blank blank' _ ih =>
    obtain ⟨b,spelt',stands⟩ := each _ _ List.mem_cons_self spelt
    obtain ⟨bs,others,stands'⟩ := ih fun cs a among => each cs a (.tail _ among)
    exact ⟨b :: bs,.more spelt' blank blank' others,.cons stands stands'⟩

theorem SpellsParts.through {cs : List Char} {as : List α} (spelt : SpellsParts closing Part cs as)
    (each : ∀ cs, ∀ a ∈ as, Part cs a → ∃ b, Part' cs b ∧ R b a) :
    ∃ bs, SpellsParts closing Part' cs bs ∧ List.Forall₂ R bs as := by
  cases spelt with
  | none blank => exact ⟨[],.none blank,.nil⟩
  | some blank spelt =>
    obtain ⟨bs,spelt',stands⟩ := spelt.through each
    exact ⟨bs,.some blank spelt',stands⟩

end

/-- A text that spells something with blanks around it. -/
def Padded {α : Type} (Part : List Char → α → Prop) (text : List Char) (a : α) : Prop :=
  ∃ blanks front blanks', text = blanks ++ (front ++ blanks') ∧ Blanks blanks ∧ Part front a ∧ Blanks blanks'

theorem SpellsFrom.of_padded {α : Type} {closing : Char} {Part : List Char → α → Prop} {texts : List (List Char)}
    {as : List α} (some : texts ≠ []) (padded : List.Forall₂ (Padded Part) texts as) :
    ∃ blanks cs, [','].intercalate texts ++ [closing] = blanks ++ cs ∧ Blanks blanks ∧
      SpellsFrom closing Part cs as := by
  induction padded with
  | nil => exact absurd rfl some
  | @cons text a texts as first others ih =>
    obtain ⟨blanks,front,blanks',rfl,blank,spelt,blank'⟩ := first
    rcases texts with _ | ⟨next,texts⟩
    · cases others
      exact ⟨blanks,front ++ (blanks' ++ [closing]),by simp,blank,.last spelt blank'⟩
    · obtain ⟨more,cs,same,blankMore,spelt'⟩ := ih (by simp)
      refine ⟨blanks,front ++ (blanks' ++ ',' :: (more ++ cs)),?_,blank,.more spelt blank' blankMore spelt'⟩
      rw [List.intercalate_cons_cons,← same]
      simp

/-- Texts with commas between them, up to a closing bracket. -/
theorem SpellsParts.of_padded {α : Type} {closing : Char} {Part : List Char → α → Prop} {texts : List (List Char)}
    {as : List α} (padded : List.Forall₂ (Padded Part) texts as) :
    SpellsParts closing Part ([','].intercalate texts ++ [closing]) as := by
  rcases texts with _ | ⟨text,texts⟩
  · cases padded
    exact .none Blanks.nil
  · obtain ⟨blanks,cs,same,blank,spelt⟩ := SpellsFrom.of_padded (by simp) padded
    rw [same]
    exact .some blank spelt

theorem read_succ {depth : Nat} {text : List Char} {v : Json} (read : Json.read depth text = .ok v) :
    Json.read (depth + 1) text = .ok v := by
  obtain ⟨blanks,front,blanks',same,blank,spelt,blank'⟩ := read_iff.mp read
  exact read_iff.mpr ⟨blanks,front,blanks',same,blank,spelt.succ,blank'⟩

theorem Spells.of_object {depth : Nat} {cs : List Char} {members : Members}
    (spelt : Spells depth cs (.object members)) :
    ∃ rest, cs = '{' :: rest := by
  have noScalar : ¬SpellsScalar cs (.object members) := by
    rintro (_ | known | _)
    simp [words] at known
  cases depth with
  | zero => exact absurd spelt noScalar
  | succ depth =>
    cases spelt with
    | scalar spelt => exact absurd spelt noScalar
    | object => exact ⟨_,rfl⟩

theorem Denotes.holds {v : Json} {state : Members} {rendered : Option String}
    (denotes : v.Denotes (.snapshot state rendered)) {n : Int} (held : (Json.object state).Holds n) : v.Holds n := by
  cases denotes with
  | @snapshot members _ _ _ dump =>
    cases found : members.get? "state" with
    | none =>
      rw [found] at dump
      cases dump
      cases held with
      | member among => cases among
    | some w =>
      rw [found] at dump
      obtain rfl : w = .object state := dump
      obtain ⟨before,after,rfl,-⟩ := List.lookup_eq_some_iff.mp found
      exact .member (List.mem_append_right before List.mem_cons_self) held

/-- No whole number in a text that is read is too long. -/
theorem read_short {depth : Nat} {text : List Char} {v : Json} (read : Json.read depth text = .ok v) {n : Int}
    (held : v.Holds n) : n.natAbs < 10 ^ Reader.maxDigits := by
  obtain ⟨_,_,_,-,-,spelt,-⟩ := read_iff.mp read
  exact spelt.short held

end Json

namespace Event
open Json Lines

/-! ### Texts of events -/

/-- A text that is accepted as the text of an event. -/
def Accepted (text : List Char) (event : Event) : Prop := Checked.ofText (ofJson .text) text = .pass event

/-- A text within the array of a file: the text of an event that leaves the array around it a level of nesting. -/
def SpellsItem (text : List Char) (event : Event) : Prop := ∃ v, Spells (maxDepth - 1) text v ∧ v.Denotes event

theorem ofText_pass {α : Type} {check : Path → Json → Checked α} {text : List Char} {a : α} :
    Checked.ofText check text = .pass a ↔ ∃ v, Json.read maxDepth text = .ok v ∧ check [] v = .pass a := by
  unfold Checked.ofText
  cases Json.read maxDepth text <;> simp [Checked.pass_ne_fail]

theorem accepted_iff {text : List Char} {event : Event} :
    Accepted text event ↔ ∃ v, Json.read maxDepth text = .ok v ∧ v.Denotes event :=
  ofText_pass.trans (exists_congr fun _ => and_congr_right fun _ => ofJson_pass)

/-- The text of an event is an object, perhaps with blanks in front. -/
theorem Accepted.brace {text : List Char} {event : Event} (accepted : Accepted text event) :
    ∃ blanks rest, text = blanks ++ '{' :: rest ∧ Blanks blanks := by
  obtain ⟨v,read,denotes⟩ := accepted_iff.mp accepted
  obtain ⟨blanks,front,blanks',rfl,blank,spelt,-⟩ := read_iff.mp read
  obtain ⟨members,rfl⟩ : ∃ members, v = .object members := by
    cases denotes <;> exact ⟨_,rfl⟩
  obtain ⟨rest,rfl⟩ := spelt.of_object
  exact ⟨blanks,rest ++ blanks',rfl,blank⟩

theorem isBlank_of_isJsonBlank {c : Char} (blank : Blank.isJsonBlank c = true) : Blank.isBlank c = true := by
  simp only [Blank.isJsonBlank,Bool.or_eq_true,decide_eq_true_eq] at blank
  rcases blank with ((rfl | rfl) | rfl) | rfl <;> decide

theorem isArrayText_blanks {blanks : List Char} (blank : Blanks blanks) {c : Char} (notBlank : Blank.isBlank c = false)
    (rest : List Char) : isArrayText (blanks ++ c :: rest) = (c == '[') := by
  rw [isArrayText,List.dropWhile_append_of_pos fun c inside => isBlank_of_isJsonBlank (blank c inside)]
  simp [notBlank]

theorem Accepted.noArray {text : List Char} {event : Event} (accepted : Accepted text event) :
    isArrayText text = false := by
  obtain ⟨blanks,rest,rfl,blank⟩ := accepted.brace
  exact isArrayText_blanks blank (by decide) rest

/-! ### Lines -/

/-- The characters that may be part of the text of an event and end a line: the blanks among them outside of strings,
    the others inside. -/
def lineEnds : List Char := ['\n','\r','\u0085','\u2028','\u2029']

theorem endsLine_of_plain {c : Char} (plain : IsPlain c) (noEnd : c ∉ lineEnds) : endsLine c = false := by
  have other : ∀ d ∈ lineEnds, c.toNat ≠ d.toNat := by
    rintro d among same
    exact noEnd (Char.toNat_inj.mp same ▸ among)
  simp only [lineEnds,List.forall_mem_cons] at other
  obtain ⟨noFeed,noReturn,noNext,noLine,noParagraph,-⟩ := other
  have notControl : 0x20 ≤ c.toNat ∨ c.toNat = 0x9 := by
    refine plain.elim .inl fun blank => ?_
    simp only [Blank.isJsonBlank,Bool.or_eq_true,decide_eq_true_eq] at blank
    rcases blank with ((rfl | rfl) | rfl) | rfl
    · exact .inl (by decide)
    · exact .inr rfl
    · exact absurd rfl noFeed
    · exact absurd rfl noReturn
  have noNext : c.toNat ≠ 0x85 := noNext
  have noLine : c.toNat ≠ 0x2028 := noLine
  have noParagraph : c.toNat ≠ 0x2029 := noParagraph
  simp only [endsLine,Bool.or_eq_false_iff,Bool.and_eq_false_iff,decide_eq_false_iff_not]
  omega

/-- The text of an event on a line of its own. -/
def OnLine (text : List Char) (event : Event) : Prop := Accepted text event ∧ filledLines (unify text) = [text]

theorem Accepted.onLine {text : List Char} {event : Event} (accepted : Accepted text event)
    (noEnds : ∀ c ∈ text, c ∉ lineEnds) : OnLine text event := by
  refine ⟨accepted,filledLines_whole ?_ fun c inside => ?_⟩
  · obtain ⟨blanks,rest,rfl,-⟩ := accepted.brace
    exact ⟨'{',by simp,by decide⟩
  · obtain ⟨v,read,-⟩ := accepted_iff.mp accepted
    obtain ⟨blanks,front,blanks',same,blank,spelt,blank'⟩ := read_iff.mp read
    have plain : ∀ c ∈ text, IsPlain c := by
      rw [same,List.forall_mem_append,List.forall_mem_append]
      exact ⟨blank.plain,spelt.plain,blank'.plain⟩
    exact endsLine_of_plain (plain c inside) (noEnds c inside)

/-- Lines that hold events in order, one each; any others are blank. -/
inductive Lined (Line : List Char → Event → Prop) : List (List Char) → List Event → Prop
  | none : Lined Line [] []
  | blank {line : List Char} {lines : List (List Char)} {events : List Event}
    (blank : ∀ c ∈ line, Blank.isBlank c = true) (others : Lined Line lines events) : Lined Line (line :: lines) events
  | event {line : List Char} {event : Event} {lines : List (List Char)} {events : List Event} (told : Line line event)
    (others : Lined Line lines events) : Lined Line (line :: lines) (event :: events)

theorem Lined.of_each {Line : List Char → Event → Prop} {lines : List (List Char)} {events : List Event}
    (each : List.Forall₂ Line lines events) : Lined Line lines events := by
  induction each with
  | nil => exact .none
  | cons told _ ih => exact .event told ih

theorem Lined.noArray {lines : List (List Char)} {events : List Event} (lined : Lined OnLine lines events) :
    ∀ line ∈ lines, isArrayText line = false := by
  induction lined with
  | none => simp
  | blank blank _ ih =>
    refine List.forall_mem_cons.mpr ⟨?_,ih⟩
    rw [isArrayText,List.dropWhile_eq_nil_iff.mpr blank]
    rfl
  | event told _ ih => exact List.forall_mem_cons.mpr ⟨told.1.noArray,ih⟩

theorem Lined.accepted {lines : List (List Char)} {events : List Event} (lined : Lined OnLine lines events) :
    List.Forall₂ Accepted (lines.flatMap fun line => filledLines (unify line)) events := by
  induction lined with
  | none => exact .nil
  | blank blank _ ih => rwa [List.flatMap_cons,filledLines_blank blank]
  | event told _ ih =>
    rw [List.flatMap_cons,told.2]
    exact .cons told.1 ih

/-- A file of texts with line feeds between them. -/
def linesFile (texts : List (List Char)) : ByteArray := (String.ofList (['\n'].intercalate texts)).toUTF8

theorem mapM_accepted {lines : List (List Char)} {events : List Event} :
    (lines.mapM fun line => (Checked.ofText (ofJson .text) line).orFault) = .ok events ↔
      List.Forall₂ Accepted lines events := by
  induction lines generalizing events with
  | nil => simp [pure,Except.pure,eq_comm]
  | cons line rest ih =>
    rw [List.mapM_cons,List.forall₂_cons_left_iff]
    constructor
    · intro loaded
      cases first : (Checked.ofText (ofJson .text) line).orFault with
      | error fault => simp [first,bind,Except.bind] at loaded
      | ok event =>
        cases others : rest.mapM fun line => (Checked.ofText (ofJson .text) line).orFault with
        | error fault => simp [first,others,bind,Except.bind] at loaded
        | ok events' =>
          simp only [first,others,bind,Except.bind,pure,Except.pure,Except.ok.injEq] at loaded
          exact ⟨event,events',Checked.orFault_ok.mp first,ih.mp others,loaded.symm⟩
    · rintro ⟨event,events',first,others,rfl⟩
      rw [Checked.orFault_ok.mpr first,ih.mpr others]
      rfl

/-- The events that lines hold are those of the file. -/
theorem Lined.load {lines : List (List Char)} {events : List Event} (lined : Lined OnLine lines events) :
    listOfFile (linesFile lines) = .ok events := by
  rw [linesFile,listOfFile_lines lined.noArray]
  exact mapM_accepted.mpr lined.accepted

/-! ### Arrays -/

theorem listOfJson_pass {form : Form} {path : Path} {v : Json} {events : List Event} :
    listOfJson form path v = .pass events ↔ ∃ items, v = .array items ∧ List.Forall₂ Denotes items events := by
  cases v with
  | array items =>
    have passed : Checked.each (fun i item => ofJson form (path ++ [.index i]) item) 0 items = .pass events ↔
        List.Forall₂ Denotes items events := Checked.each_pass (R := Denotes) fun _ _ _ => ofJson_pass
    simpa [listOfJson] using passed
  | _ => simp [listOfJson,Checked.pass_ne_fail]

/-- An array of what spells events is accepted as the list of these. -/
theorem ofText_array {blanks inner blanks' : List Char} {events : List Event} (blank : Blanks blanks)
    (spelt : SpellsParts ']' SpellsItem inner events) (blank' : Blanks blanks') :
    Checked.ofText (listOfJson .text) (blanks ++ ('[' :: inner ++ blanks')) = .pass events := by
  obtain ⟨vs,spelt',denote⟩ := spelt.through fun _ _ _ => id
  have read : Json.read maxDepth (blanks ++ ('[' :: inner ++ blanks')) = .ok (.array vs) :=
    read_iff.mpr ⟨blanks,_,blanks',rfl,blank,SpellsOver.array spelt',blank'⟩
  exact ofText_pass.mpr ⟨_,read,listOfJson_pass.mpr ⟨vs,rfl,denote⟩⟩

/-- The events that are spelt between brackets are those of the file. -/
theorem load_array {blanks inner blanks' : List Char} {events : List Event} (blank : Blanks blanks)
    (spelt : SpellsParts ']' SpellsItem inner events) (blank' : Blanks blanks') {cs : List Char}
    (same : unify cs = blanks ++ ('[' :: inner ++ blanks')) : listOfFile (String.ofList cs).toUTF8 = .ok events := by
  have isArray : isArrayText cs = true := by
    rw [← isArrayText_unify,same]
    exact isArrayText_blanks blank (by decide) _
  rw [listOfFile_array isArray,same,ofText_array blank spelt blank']
  rfl

/-! ### What is loaded -/

private theorem exists_of_mem_right {α β : Type} {R : α → β → Prop} {as : List α} {bs : List β}
    (each : List.Forall₂ R as bs) {b : β} (among : b ∈ bs) : ∃ a ∈ as, R a b := by
  induction each with
  | nil => cases among
  | cons related _ ih =>
    rcases List.mem_cons.mp among with rfl | among
    · exact ⟨_,List.mem_cons_self,related⟩
    · obtain ⟨a,among,related⟩ := ih among
      exact ⟨a,.tail _ among,related⟩

/-- Each event that is loaded is denoted by a value that was read, or by an item of one. -/
theorem denoted_of_loaded {bytes : ByteArray} {events : List Event} (loaded : listOfFile bytes = .ok events)
    {event : Event} (among : event ∈ events) :
    ∃ text v item, Json.read maxDepth text = .ok v ∧ item.Denotes event ∧
      (v = item ∨ ∃ items, v = .array items ∧ item ∈ items) := by
  unfold listOfFile at loaded
  split at loaded
  · unfold listOfText at loaded
    split at loaded
    · obtain ⟨v,read,listed⟩ := ofText_pass.mp (Checked.orFault_ok.mp loaded)
      obtain ⟨items,rfl,denote⟩ := listOfJson_pass.mp listed
      obtain ⟨item,inside,denotes⟩ := exists_of_mem_right denote among
      exact ⟨_,_,item,read,denotes,.inr ⟨items,rfl,inside⟩⟩
    · obtain ⟨line,-,accepted⟩ := exists_of_mem_right (mapM_accepted.mp loaded) among
      obtain ⟨v,read,denotes⟩ := accepted_iff.mp accepted
      exact ⟨line,v,v,read,denotes,.inl rfl⟩
  · cases loaded

/-- No whole number that is loaded is too long. -/
theorem load_short {bytes : ByteArray} {events : List Event} (loaded : listOfFile bytes = .ok events) {state : Members}
    {rendered : Option String} (among : .snapshot state rendered ∈ events) {n : Int}
    (held : (Json.object state).Holds n) : n.natAbs < 10 ^ Reader.maxDigits := by
  obtain ⟨text,v,item,read,denotes,place⟩ := denoted_of_loaded loaded among
  have held' := denotes.holds held
  rcases place with rfl | ⟨items,rfl,inside⟩
  · exact read_short read held'
  · exact read_short read (.item inside held')

/-! ### Both layouts -/

/-- A file of texts in brackets with commas between them. -/
def arrayFile (texts : List (List Char)) : ByteArray := (String.ofList ('[' :: [','].intercalate texts ++ [']'])).toUTF8

theorem Accepted.padded {text : List Char} {event : Event} (accepted : Accepted text event)
    (shallow : (Json.read (maxDepth - 1) text).isOk = true) : Padded SpellsItem text event := by
  obtain ⟨v,read,denotes⟩ := accepted_iff.mp accepted
  cases read' : Json.read (maxDepth - 1) text with
  | error refusal => simp [read',Except.isOk,Except.toBool] at shallow
  | ok v' =>
    -- Within either bound the text is read as the same value.
    obtain rfl := Except.ok.inj ((read_succ read').symm.trans read)
    obtain ⟨blanks,front,blanks',same,blank,spelt,blank'⟩ := read_iff.mp read'
    exact ⟨blanks,front,blanks',same,blank,⟨_,spelt,denotes⟩,blank'⟩

theorem return_notMem_intercalate {texts : List (List Char)} (each : ∀ text ∈ texts, '\r' ∉ text) :
    '\r' ∉ [','].intercalate texts := by
  induction texts with
  | nil => exact List.not_mem_nil
  | cons text rest ih =>
    rw [List.forall_mem_cons] at each
    rcases rest with _ | ⟨next,rest⟩
    · simpa using each.1
    · have others := ih each.2
      simp only [List.intercalate_cons_cons,List.mem_append,List.mem_singleton,not_or]
      exact ⟨⟨each.1,by decide⟩,others⟩

/-- Texts that are each accepted, that hold no line ends, and that are not nested as deep as can be, give the same
    events line by line and as an array. -/
theorem lines_as_array {texts : List (List Char)} {events : List Event} (accepted : List.Forall₂ Accepted texts events)
    (noEnds : ∀ text ∈ texts, ∀ c ∈ text, c ∉ lineEnds)
    (shallow : ∀ text ∈ texts, (Json.read (maxDepth - 1) text).isOk = true) :
    listOfFile (linesFile texts) = .ok events ∧ listOfFile (arrayFile texts) = .ok events := by
  constructor
  · have onLines := (List.forall₂_and_left _ _).mpr ⟨noEnds,accepted⟩
    exact (Lined.of_each (onLines.imp fun _ _ line => line.2.onLine line.1)).load
  · have items := (List.forall₂_and_left _ _).mpr ⟨shallow,accepted⟩
    have spelt : SpellsParts ']' SpellsItem _ events :=
      SpellsParts.of_padded (items.imp fun _ _ item => item.2.padded item.1)
    refine load_array .nil spelt .nil ?_
    have noReturn := return_notMem_intercalate fun text among inside => noEnds text among '\r' inside (by decide)
    rw [unify_same (by simpa using noReturn)]
    simp

theorem lines_as_array_of_two :
    let texts := [" \x7b\"text\": \"h\\u00e9 – é\", \"type\": \"Message\"\x7d\t".toList,
      "\x7b\"type\":\"Result\",\"success\":true,\"value\":\"0\"\x7d".toList]
    let events := [message "hé – é",result true "0"]
    listOfFile (linesFile texts) = .ok events ∧ listOfFile (arrayFile texts) = .ok events :=
  have noEnds := List.forall_mem_cons.mpr ⟨forall_mem_of_all (by decide +kernel),
    List.forall_mem_singleton.mpr (forall_mem_of_all (by decide +kernel))⟩
  lines_as_array (.cons (by unfold Accepted; cbv) (.cons (by unfold Accepted; cbv) .nil)) noEnds (by decide +kernel)

/-- A message with a line separator inside its string. -/
def separated : List Char := "\x7b\"type\":\"Message\",\"text\":\"a\u2028b\"\x7d".toList

/-- A snapshot that is nested as deep as a text may be. -/
def deepest : List Char :=
  "\x7b\"type\":\"StateSnapshot\",\"state\":\x7b\"k\":".toList ++
    List.replicate 198 '[' ++ '0' :: List.replicate 198 ']' ++ ['}','}']

/-- Without the two conditions the layouts differ: a separator cuts the line that it is in, and brackets around what is
    nested as deep as can be are too much. -/
theorem layouts_apart :
    (Accepted separated (.message "a\u2028b") ∧ '\n' ∉ separated ∧ '\r' ∉ separated ∧
      (listOfFile (linesFile [separated])).isOk = false ∧
      listOfFile (arrayFile [separated]) = .ok [.message "a\u2028b"]) ∧
    ∃ event, Accepted deepest event ∧ '\n' ∉ deepest ∧ '\r' ∉ deepest ∧
      listOfFile (linesFile [deepest]) = .ok [event] ∧ (listOfFile (arrayFile [deepest])).isOk = false := by
  constructor
  · refine ⟨by unfold Accepted; cbv,by decide +kernel,by decide +kernel,?_,?_⟩
    · rw [linesFile,listOfFile_text]
      cbv
    · rw [arrayFile,listOfFile_text]
      cbv
  · cases read : Checked.ofText (ofJson .text) deepest with
    | error found =>
      have passes : (Checked.ofText (ofJson .text) deepest).isOk = true := by decide +kernel
      rw [read] at passes
      cases passes
    -- Which event it is does not matter here, only that there is one.
    | ok event =>
      have accepted : Accepted deepest event := read
      refine ⟨event,accepted,by decide +kernel,by decide +kernel,?_,?_⟩
      · exact (Lined.event (accepted.onLine (forall_mem_of_all (by decide +kernel))) .none).load
      · rw [arrayFile,listOfFile_text]
        decide +kernel

end Event

end ShotRecorder
