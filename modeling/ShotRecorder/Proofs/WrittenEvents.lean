import ShotRecorder.Proofs.EventFiles
import ShotRecorder.Proofs.LineSpelling

/-!
Events that are written are loaded again, from lines as from an array, and with whatever blanks JSON allows around them
(`load_written`). What they hold has to have a text of its own: no fractions, no whole number that is too long, and no
nesting as deep as a text may have. The bound on whole numbers is no matter of the layout: no file gives back a longer
one (`load_short`).
-/
namespace ShotRecorder

namespace Json
open Reader Lines

/-! ### What is written out -/

mutual

theorem writable_exact : ∀ v : Json, v.Exact → v.writable = v
  | .null,_ | .bool _,_ | .string _,_ => by rw [writable] <;> simp
  | .number (.int n),_ => by simp [writable,Number.isNonFinite]
  | .number (.float x),kept => by simp [Exact] at kept
  | .array items,kept => by
    rw [writable,writableItems_exact items (by simpa [Exact] using kept)]
  | .object members,kept => by
    simp only [Exact] at kept
    rw [writable,writableMembers_exact members kept.2]

theorem writableItems_exact : ∀ items : List Json, ExactItems items → writableItems items = items
  | [],_ => rfl
  | item :: rest,kept => by
    rw [writableItems,writable_exact item kept.1,writableItems_exact rest kept.2]

theorem writableMembers_exact : ∀ members : List (String × Json), ExactMembers members →
    writableMembers members = members
  | [],_ => rfl
  | (key,v) :: rest,kept => by
    rw [writableMembers,writable_exact v kept.1,writableMembers_exact rest kept.2]

end

/-! ### Line ends within an array -/

section

variable {α : Type} {closing : Char} {Part : List Char → α → Prop}

theorem Blanks.unify {blanks : List Char} (blank : Blanks blanks) : Blanks (unify blanks) :=
  forall_mem_unify (by decide) blank

theorem unify_notBlank {c : Char} (notBlank : Blank.isJsonBlank c = false) (y : List Char) :
    unify (c :: y) = c :: unify y := by
  refine unify_cons ?_ y
  rintro rfl
  cases notBlank

/-- In front of what is no blank, line ends are read apart. -/
theorem unify_append_notBlank {c : Char} (notBlank : Blank.isJsonBlank c = false) (x y : List Char) :
    unify (x ++ c :: y) = unify x ++ unify (c :: y) := by
  refine unify_append fun _ next => ?_
  obtain rfl := Option.some.inj next
  cases notBlank

/-- Behind a text without carriage returns too. -/
theorem unify_solid_append {x : List Char} (noReturn : '\r' ∉ x) (y : List Char) : unify (x ++ y) = x ++ unify y := by
  rw [unify_append fun ends => absurd (List.mem_of_getLast? ends) noReturn,unify_same noReturn]

theorem SpellsFrom.closed {cs : List Char} {as : List α} (spelt : SpellsFrom closing Part cs as) :
    ∃ front, cs = front ++ [closing] := by
  induction spelt with
  | @last cs blanks part spelt blank => exact ⟨cs ++ blanks,by simp⟩
  | @more cs blanks blanks' rest part parts spelt blank blank' others ih =>
    obtain ⟨front,rfl⟩ := ih
    exact ⟨cs ++ (blanks ++ ',' :: (blanks' ++ front)),by simp⟩

theorem SpellsParts.closed {cs : List Char} {as : List α} (spelt : SpellsParts closing Part cs as) :
    ∃ front, cs = front ++ [closing] := by
  cases spelt with
  | none blank => exact ⟨_,rfl⟩
  | some blank spelt =>
    obtain ⟨front,rfl⟩ := spelt.closed
    exact ⟨_,(List.append_assoc ..).symm⟩

section

variable (notBlank : Blank.isJsonBlank closing = false) (starts : ∀ {cs a}, Part cs a → PartStarts closing cs)
  (noReturn : ∀ {cs a}, Part cs a → '\r' ∉ cs)
include notBlank starts noReturn

theorem SpellsFrom.unify {cs : List Char} {as : List α} (spelt : SpellsFrom closing Part cs as) :
    SpellsFrom closing Part (unify cs) as := by
  induction spelt with
  | last spelt blank =>
    rw [unify_solid_append (noReturn spelt),unify_append_notBlank notBlank,unify_notBlank notBlank]
    exact .last spelt blank.unify
  | more spelt blank blank' others ih =>
    obtain ⟨c,more,rfl,notBlank',-⟩ := others.starts starts
    rw [unify_solid_append (noReturn spelt),unify_append_notBlank (by decide),unify_notBlank (by decide),
      unify_append_notBlank notBlank']
    exact .more spelt blank.unify blank'.unify ih

theorem SpellsParts.unify {cs : List Char} {as : List α} (spelt : SpellsParts closing Part cs as) :
    SpellsParts closing Part (unify cs) as := by
  cases spelt with
  | none blank =>
    rw [unify_append_notBlank notBlank,unify_notBlank notBlank]
    exact .none blank.unify
  | some blank spelt =>
    obtain ⟨c,more,rfl,notBlank',-⟩ := spelt.starts starts
    rw [unify_append_notBlank notBlank']
    exact .some blank.unify (spelt.unify notBlank starts noReturn)

end

end

end Json

namespace Event
open Json Lines

/-! ### Events that are kept -/

/-- The text of an event on one line. -/
def written (style : LineStyle) (event : Event) : List Char := event.toJson.lineChars style

/-- An event of a producer of which nothing is lost in its text, which is not nested as deep as a text may be. -/
structure Keepable (event : Event) : Prop where
  produced : event.kind ∈ Kind.producers
  exact : (Json.object event.members).Exact
  shallow : (Json.object event.members).nesting < maxDepth

/-- Only a snapshot can hold what is lost. -/
theorem keepable_of_plain {event : Event} (produced : event.kind ∈ Kind.producers) (plain : event.kind ≠ .snapshot) :
    event.Keepable := by
  cases event with
  | snapshot => exact absurd rfl plain
  | message | result | refresh =>
    exact ⟨produced,by simp [members,fields,Exact,ExactMembers],
      by simp [members,fields,nesting,nestingOfMembers,maxDepth]⟩

theorem keepable_snapshot {state : Members} {rendered : Option String} :
    (snapshot state rendered).Keepable ↔ (Json.object state).Exact ∧ (Json.object state).nesting + 1 < maxDepth := by
  have form : ((rendered.map Json.string).getD .null).Exact ∧ ((rendered.map Json.string).getD .null).nesting = 0 := by
    cases rendered <;> exact ⟨trivial,rfl⟩
  have parts : (snapshot state rendered).Keepable ↔
      (Json.object (snapshot state rendered).members).Exact ∧
        (Json.object (snapshot state rendered).members).nesting < maxDepth :=
    ⟨fun kept => ⟨kept.exact,kept.shallow⟩,fun kept => ⟨by simp [kind,Kind.producers],kept.1,kept.2⟩⟩
  rw [parts]
  simp only [members,fields,Exact,ExactMembers,nesting,nestingOfMembers,form]
  simp

theorem Keepable.toJson {event : Event} (kept : event.Keepable) : event.toJson = .object event.members :=
  writable_exact _ kept.exact

theorem Keepable.denotes {event : Event} (kept : event.Keepable) : event.toJson.Denotes event := by
  rw [kept.toJson]
  exact denotes_members kept.produced

theorem Keepable.spells {event : Event} (kept : event.Keepable) {style : LineStyle} (blanked : style.Blanked) :
    Spells (maxDepth - 1) (event.written style) event.toJson := by
  have shallow := kept.shallow
  rw [written,kept.toJson]
  exact lineChars_spells blanked _ _ kept.exact (by omega)

theorem Keepable.printable {event : Event} (kept : event.Keepable) {style : LineStyle} (printable : style.Printable) :
    ∀ c ∈ event.written style, IsPrintable c := by
  rw [written,kept.toJson]
  exact lineChars_printable printable _ kept.exact

theorem notMem_lineEnds {c : Char} (printable : IsPrintable c) : c ∉ lineEnds := by
  intro among
  have outside : ∀ d ∈ lineEnds, ¬IsPrintable d := forall_mem_of_all (by decide)
  exact outside c among printable

theorem Keepable.onLine {event : Event} (kept : event.Keepable) {style : LineStyle} (blanked : style.Blanked)
    (printable : style.Printable) : OnLine (event.written style) event := by
  have accepted : Accepted (event.written style) event := by
    have spelt : Spells maxDepth (event.written style) event.toJson := (kept.spells blanked).succ
    exact accepted_iff.mpr ⟨_,read_iff.mpr ⟨[],_,[],by simp,.nil,spelt,.nil⟩,kept.denotes⟩
  exact accepted.onLine fun c inside => notMem_lineEnds (kept.printable printable c inside)

theorem Lined.imp {Line Line' : List Char → Event → Prop} {lines : List (List Char)} {events : List Event}
    (lined : Lined Line lines events) (also : ∀ line, ∀ event ∈ events, Line line event → Line' line event) :
    Lined Line' lines events := by
  induction lined with
  | none => exact .none
  | blank blank _ ih => exact .blank blank (ih also)
  | event told _ ih =>
    exact .event (also _ _ List.mem_cons_self told) (ih fun line event among => also line event (.tail _ among))

/-- Events that are written are loaded again: from lines, of which any may be blank, and from an array with blanks
    around it and around its items. -/
theorem load_written {style : LineStyle} (blanked : style.Blanked) (printable : style.Printable) {events : List Event}
    (kept : ∀ event ∈ events, event.Keepable) :
    (∀ lines, Lined (fun line event => line = event.written style) lines events →
      listOfFile (linesFile lines) = .ok events) ∧
    ∀ blanks inner blanks', Blanks blanks →
      SpellsParts ']' (fun text event => text = event.written style) inner events → Blanks blanks' →
        listOfFile (String.ofList (blanks ++ ('[' :: inner ++ blanks'))).toUTF8 = .ok events := by
  constructor
  · intro lines lined
    refine (lined.imp fun line event among same => ?_).load
    rw [same]
    exact (kept event among).onLine blanked printable
  · intro blanks inner blanks' blank spelt blank'
    have solid :
        SpellsParts ']' (fun text event => SpellsItem text event ∧ ∀ c ∈ text, IsPrintable c) inner events := by
      refine spelt.mono fun text event among same => ?_
      have kept' := kept event among
      rw [same]
      exact ⟨⟨_,kept'.spells blanked,kept'.denotes⟩,kept'.printable printable⟩
    have unified := solid.unify (by decide) (fun ⟨⟨_,spelt,_⟩,_⟩ => spelt.starts)
      fun ⟨_,printable⟩ inside => absurd (printable _ inside) (by decide)
    refine load_array blank.unify (unified.mono fun _ _ _ => And.left) blank'.unify ?_
    -- Nothing is read as one line end across a bracket, nor within what is printed.
    obtain ⟨front,rfl⟩ := spelt.closed
    have apart : (front ++ [']']).getLast? = some '\r' → blanks'.head? ≠ some '\n' := by simp
    rw [List.cons_append,unify_append_notBlank (by decide),unify_notBlank (by decide),unify_append apart]
    rfl

theorem load_written_of_two :
    let event := message "é\n😀"
    let event' := snapshot [("k",.array [.number (.int (-12)),.null,.object [("",.bool true)]])] none
    let text := event.written .spaced
    let text' := event'.written .spaced
    let inner := [] ++ (text ++ ([' '] ++ ',' :: (['\r'] ++ (text' ++ ([] ++ [']'])))))
    listOfFile (linesFile [[' '],text,[],text']) = .ok [event,event'] ∧
      listOfFile (String.ofList (['\r','\n'] ++ ('[' :: inner ++ ['\n']))).toUTF8 = .ok [event,event'] := by
  intro event event' text text' inner
  have kept : ∀ e ∈ [event,event'], e.Keepable := by
    have small : 12 < 10 ^ Reader.maxDigits := Nat.lt_of_lt_of_le (by decide : 12 < 10 ^ 2)
      (Nat.pow_le_pow_right (by decide) (by decide))
    have second : event'.Keepable := keepable_snapshot.mpr (by
      simp [Exact,ExactItems,ExactMembers,nesting,nestingOfItems,nestingOfMembers,maxDepth,small])
    exact List.forall_mem_cons.mpr ⟨keepable_of_plain (by decide) (by decide),List.forall_mem_singleton.mpr second⟩
  have blank : ∀ c, Blank.isJsonBlank c = true → Blanks [c] := fun c isBlank => List.forall_mem_singleton.mpr isBlank
  have loaded := load_written blanked_spaced printable_spaced kept
  have blank' : Blanks ['\r','\n'] := List.forall_mem_cons.mpr ⟨by decide,blank _ (by decide)⟩
  refine ⟨loaded.1 _ ?_,loaded.2 _ _ _ blank' ?_ (blank _ (by decide))⟩
  · exact .blank (List.forall_mem_singleton.mpr rfl) (.event rfl (.blank (List.forall_mem_nil _) (.event rfl .none)))
  · exact .some .nil (.more rfl (blank _ (by decide)) (blank _ (by decide)) (.last rfl .nil))

/-- A snapshot of a whole number. -/
def counting (n : Nat) : Event := .snapshot [("n",.number (.int n))] none

theorem counting_produced (n : Nat) : (counting n).kind ∈ Kind.producers := by simp [counting,kind,Kind.producers]

theorem counting_shallow (n : Nat) : (Json.object (counting n).members).nesting < maxDepth := by
  simp [counting,members,fields,nesting,nestingOfMembers,maxDepth]

/-- A snapshot of half a surrogate pair, as it is written. -/
def halved : List Char :=
  "\x7b\"type\": \"StateSnapshot\", \"state\": \x7b\"k\": \"\\ud800\"\x7d, \"rendered_form\": null\x7d".toList

/-- A number that is a digit too long, and half a pair, are written but not loaded. -/
theorem counting_is_lost :
    (counting (10 ^ Reader.maxDigits)).kind ∈ Kind.producers ∧
      (Json.object (counting (10 ^ Reader.maxDigits)).members).nesting < maxDepth ∧
      listOfFile (linesFile [(counting (10 ^ Reader.maxDigits)).written .spaced]) ≠
        .ok [counting (10 ^ Reader.maxDigits)] ∧
      (listOfFile (linesFile [halved])).isOk = false := by
  refine ⟨counting_produced _,counting_shallow _,fun loaded => ?_,?_⟩
  · have held : (Json.object [("n",.number (.int (10 ^ Reader.maxDigits : Nat)))]).Holds
        (10 ^ Reader.maxDigits : Nat) := .member List.mem_cons_self .number
    have short := load_short loaded List.mem_cons_self held
    rw [Int.natAbs_natCast] at short
    exact Nat.lt_irrefl _ short
  · rw [linesFile,listOfFile_text]
    decide +kernel

end Event

end ShotRecorder
