import Mathlib.Algebra.Group.Nat.Defs
import Mathlib.Data.List.TakeWhile
import ShotRecorder.Json.Reader

/-!
How the numbers of a JSON text are spelt: a sign, digits that do not start with a zero unless it stands alone, and
perhaps a point with digits and an exponent (`SpellsNumber`). A number is read as the longest front of the text that is
one, so that it is read for what it spells where nothing follows that would make it longer (`number_complete`).
-/
namespace ShotRecorder

namespace Digits

theorem digitValue_le {c : Char} (digit : isDigit c = true) : digitValue c ≤ 9 := by
  simp only [isDigit,Bool.and_eq_true,decide_eq_true_eq] at digit
  have last : c.toNat ≤ '9'.toNat := digit.2
  have nine : '9'.toNat = 57 := rfl
  have zero : '0'.toNat = 48 := rfl
  unfold digitValue
  omega

theorem valueFrom_lt {cs : List Char} (digits : ∀ c ∈ cs, isDigit c = true) (acc : Nat) :
    valueFrom acc cs < (acc + 1) * 10 ^ cs.length := by
  induction cs generalizing acc with
  | nil => exact Nat.lt_of_lt_of_eq (Nat.lt_succ_self acc) (by rw [List.length_nil,Nat.pow_zero,Nat.mul_one])
  | cons c rest ih =>
    rw [List.forall_mem_cons] at digits
    have small := digitValue_le digits.1
    have behind := ih digits.2 (acc * 10 + digitValue c)
    have room : (acc * 10 + digitValue c + 1) * 10 ^ rest.length ≤ (acc + 1) * 10 * 10 ^ rest.length :=
      Nat.mul_le_mul_right _ (by omega)
    rw [List.length_cons,Nat.pow_succ',← Nat.mul_assoc]
    exact Nat.lt_of_lt_of_le behind room

/-- What digits spell is below the power of ten that their number says. -/
theorem value_lt {cs : List Char} (digits : ∀ c ∈ cs, isDigit c = true) : value cs < 10 ^ cs.length := by
  have below := valueFrom_lt digits 0
  rwa [Nat.zero_add,Nat.one_mul] at below

end Digits

namespace Json
open Reader

/-- Digits, at least one. -/
def IsDigits (cs : List Char) : Prop := cs ≠ [] ∧ ∀ c ∈ cs, Digits.isDigit c = true

/-- The digits before a point. -/
def IsWhole (cs : List Char) : Prop := cs = ['0'] ∨ IsDigits cs ∧ cs.head? ≠ some '0'

/-- A point and the digits behind it, or nothing. -/
inductive SpellsFraction : List Char → List Char → Prop
  | none : SpellsFraction [] []
  | some {ds : List Char} (digits : IsDigits ds) : SpellsFraction ('.' :: ds) ds

/-- A sign in front of digits: true for minus. -/
inductive SpellsSign : List Char → Bool → Prop
  | none : SpellsSign [] false
  | plus : SpellsSign ['+'] false
  | minus : SpellsSign ['-'] true

/-- An exponent. -/
inductive SpellsExponent : List Char → Int → Prop
  | mk {mark : Char} {sign ds : List Char} {negative : Bool} (isMark : mark = 'e' ∨ mark = 'E')
    (signed : SpellsSign sign negative) (digits : IsDigits ds) :
    SpellsExponent (mark :: sign ++ ds) (if negative then -(Digits.value ds : Int) else Digits.value ds)

/-- A minus, or nothing. -/
def minusText (negative : Bool) : List Char := if negative then ['-'] else []

/-- A text that spells a number. -/
inductive SpellsNumber : List Char → Number → Prop
  | int {negative : Bool} {whole : List Char} (isWhole : IsWhole whole) (short : whole.length ≤ maxDigits) :
    SpellsNumber (minusText negative ++ whole)
      (.int (if negative then -(Digits.value whole : Int) else Digits.value whole))
  | fraction {negative : Bool} {whole text fraction : List Char} (isWhole : IsWhole whole)
    (behind : SpellsFraction text fraction) (some : fraction ≠ []) :
    SpellsNumber (minusText negative ++ whole ++ text) (.float (decimal negative whole fraction 0))
  | exponent {negative : Bool} {whole text fraction text' : List Char} {exponent : Int} (isWhole : IsWhole whole)
    (behind : SpellsFraction text fraction) (scale : SpellsExponent text' exponent) :
    SpellsNumber (minusText negative ++ whole ++ text ++ text') (.float (decimal negative whole fraction exponent))

/-- A character that makes a number longer, or could. -/
def prolongs (c : Char) : Bool := Digits.isDigit c || c = '.' || c = 'e' || c = 'E'

/-- What follows makes no number longer. -/
def Stops (rest : List Char) : Prop := ∀ c ∈ rest.head?, prolongs c = false

/-! ### Digits -/

theorem span_sound {cs ds rest : List Char} (found : Digits.span cs = (ds,rest)) :
    cs = ds ++ rest ∧ ∀ c ∈ ds, Digits.isDigit c = true := by
  obtain ⟨rfl,rfl⟩ := Prod.mk.inj found
  exact ⟨(List.takeWhile_append_dropWhile ..).symm,fun _ inside => List.mem_takeWhile_imp inside⟩

theorem span_complete {ds rest : List Char} (digits : ∀ c ∈ ds, Digits.isDigit c = true)
    (stops : ∀ c ∈ rest.head?, Digits.isDigit c = false) : Digits.span (ds ++ rest) = (ds,rest) := by
  rw [Digits.span,List.takeWhile_append_of_pos digits,List.dropWhile_append_of_pos digits]
  cases rest with
  | nil => simp
  | cons c rest => simp [stops c rfl]

theorem Stops.noDigit {rest : List Char} (stops : Stops rest) : ∀ c ∈ rest.head?, Digits.isDigit c = false := by
  intro c head
  have := stops c head
  simp only [prolongs,Bool.or_eq_false_iff] at this
  exact this.1.1.1

theorem wholeDigits_sound {cs whole rest : List Char} (read : wholeDigits cs = (whole,rest)) (some : whole ≠ []) :
    cs = whole ++ rest ∧ IsWhole whole := by
  unfold wholeDigits at read
  split at read
  · obtain ⟨rfl,rfl⟩ := Prod.mk.inj read
    exact ⟨rfl,.inl rfl⟩
  · rename_i notZero
    obtain ⟨rfl,digits⟩ := span_sound read
    refine ⟨rfl,.inr ⟨⟨some,digits⟩,fun zero => ?_⟩⟩
    obtain ⟨c,more,rfl⟩ := List.exists_cons_of_ne_nil some
    obtain rfl := Option.some.inj zero
    exact notZero _ rfl

theorem wholeDigits_complete {whole rest : List Char} (isWhole : IsWhole whole)
    (stops : ∀ c ∈ rest.head?, Digits.isDigit c = false) : wholeDigits (whole ++ rest) = (whole,rest) := by
  rcases isWhole with rfl | ⟨⟨some,digits⟩,notZero⟩
  · rfl
  · obtain ⟨c,more,rfl⟩ := List.exists_cons_of_ne_nil some
    have other : c ≠ '0' := by simpa using notZero
    rw [← span_complete digits stops]
    simp [wholeDigits,other]

theorem fractionDigits_sound {cs fraction rest : List Char} (read : fractionDigits cs = (fraction,rest)) :
    ∃ text, cs = text ++ rest ∧ SpellsFraction text fraction := by
  unfold fractionDigits at read
  split at read
  · rename_i behind
    split at read
    · obtain ⟨rfl,rfl⟩ := Prod.mk.inj read
      exact ⟨[],rfl,.none⟩
    · rename_i none
      obtain ⟨rfl,digits⟩ := span_sound read
      refine ⟨'.' :: fraction,rfl,.some ⟨fun empty => ?_,digits⟩⟩
      subst empty
      exact none _ read
  · obtain ⟨rfl,rfl⟩ := Prod.mk.inj read
    exact ⟨[],rfl,.none⟩

theorem fractionDigits_complete {text fraction rest : List Char} (spelt : SpellsFraction text fraction)
    (noDigit : ∀ c ∈ rest.head?, Digits.isDigit c = false) (noPoint : rest.head? ≠ some '.') :
    fractionDigits (text ++ rest) = (fraction,rest) := by
  cases spelt with
  | none =>
    cases rest with
    | nil => rfl
    | cons c rest =>
      have other : c ≠ '.' := by simpa using noPoint
      simp [fractionDigits,other]
  | some digits =>
    have found := span_complete digits.2 noDigit
    obtain ⟨c,more,rfl⟩ := List.exists_cons_of_ne_nil digits.1
    simp only [List.cons_append] at found ⊢
    simp [fractionDigits,found]

theorem signOf_sound {cs rest : List Char} {negative : Bool} (read : signOf cs = (negative,rest)) :
    ∃ text, cs = text ++ rest ∧ SpellsSign text negative := by
  unfold signOf at read
  split at read
  all_goals obtain ⟨rfl,rfl⟩ := Prod.mk.inj read
  · exact ⟨_,rfl,.minus⟩
  · exact ⟨_,rfl,.plus⟩
  · exact ⟨_,rfl,.none⟩

theorem signOf_complete {text ds : List Char} {negative : Bool} (spelt : SpellsSign text negative)
    (digits : IsDigits ds) (rest : List Char) : signOf (text ++ (ds ++ rest)) = (negative,ds ++ rest) := by
  obtain ⟨c,more,rfl⟩ := List.exists_cons_of_ne_nil digits.1
  have isDigit := digits.2 c List.mem_cons_self
  cases spelt with
  | none =>
    have notMinus : c ≠ '-' := by rintro rfl; exact absurd isDigit (by decide)
    have notPlus : c ≠ '+' := by rintro rfl; exact absurd isDigit (by decide)
    simp [signOf,notMinus,notPlus]
  | plus => rfl
  | minus => rfl

theorem exponent?_sound {cs rest : List Char} {exponent : Int} (read : exponent? cs = some (exponent,rest)) :
    ∃ text, cs = text ++ rest ∧ SpellsExponent text exponent := by
  cases cs with
  | nil => cases read
  | cons mark behind =>
    rw [exponent?] at read
    split at read
    · rename_i isMark
      cases signed : signOf behind with
      | mk negative digits =>
        simp only [signed] at read
        split at read
        · cases read
        · rename_i ds rest' notNone found
          obtain ⟨rfl,rfl⟩ := Prod.mk.inj (Option.some.inj read)
          obtain ⟨sign,rfl,spelt⟩ := signOf_sound signed
          obtain ⟨rfl,digits⟩ := span_sound found
          refine ⟨mark :: sign ++ ds,by simp,.mk (by simpa using isMark) spelt ⟨notNone,digits⟩⟩
    · cases read

theorem exponent?_complete {text rest : List Char} {exponent : Int} (spelt : SpellsExponent text exponent)
    (stops : ∀ c ∈ rest.head?, Digits.isDigit c = false) : exponent? (text ++ rest) = some (exponent,rest) := by
  cases spelt with
  | mk isMark signed digits =>
    rename_i mark sign ds negative
    have found := span_complete digits.2 stops
    have apart := signOf_complete signed digits rest
    simp only [List.cons_append,List.append_assoc]
    rw [exponent?,if_pos (by simpa using isMark),apart]
    simp only [found]
    obtain ⟨c,more,rfl⟩ := List.exists_cons_of_ne_nil digits.1
    rfl

theorem exponent?_none {rest : List Char} (stops : Stops rest) : exponent? rest = none := by
  cases rest with
  | nil => rfl
  | cons c rest =>
    have := stops c rfl
    simp only [prolongs,Bool.or_eq_false_iff,decide_eq_false_iff_not] at this
    simp [exponent?,this.1.2,this.2]

/-! ### Numbers -/

/-- The number behind a sign, of a text that is refused as a whole. -/
def numberBehind (cs : List Char) (negative : Bool) (body : List Char) : Except Refusal (Number × List Char) :=
  match wholeDigits body with
  | ([],_) => .error ⟨.expectedValue,cs⟩
  | (whole,rest) =>
    let (fraction,rest) := fractionDigits rest
    match fraction,exponent? rest with
    | [],none =>
      if maxDigits < whole.length then .error ⟨.tooManyDigits,cs⟩
      else .ok (.int (if negative then -(Digits.value whole : Int) else Digits.value whole),rest)
    | _,none => .ok (.float (decimal negative whole fraction 0),rest)
    | _,some (exponent,rest) => .ok (.float (decimal negative whole fraction exponent),rest)

theorem number_minus (body : List Char) : Reader.number ('-' :: body) = numberBehind ('-' :: body) true body := by
  unfold Reader.number numberBehind
  rfl

theorem number_unsigned {cs : List Char} (unsigned : cs.head? ≠ some '-') :
    Reader.number cs = numberBehind cs false cs := by
  unfold Reader.number numberBehind
  split
  rename_i negative body apart
  split at apart
  · exact absurd rfl unsigned
  · obtain ⟨rfl,rfl⟩ := Prod.mk.inj apart
    rfl

theorem number_eq (negative : Bool) {body : List Char} (unsigned : body.head? ≠ some '-') :
    Reader.number (minusText negative ++ body) = numberBehind (minusText negative ++ body) negative body := by
  cases negative with
  | false => exact number_unsigned unsigned
  | true => exact number_minus body

theorem numberBehind_sound {cs body rest : List Char} {negative : Bool} {n : Number}
    (read : numberBehind cs negative body = .ok (n,rest)) :
    ∃ front, body = front ++ rest ∧ SpellsNumber (minusText negative ++ front) n := by
  unfold numberBehind at read
  split at read
  · cases read
  · rename_i whole behind notNone found
    obtain ⟨rfl,isWhole⟩ := wholeDigits_sound found notNone
    cases found' : fractionDigits behind with
    | mk fraction rest' =>
      obtain ⟨text,rfl,spelt⟩ := fractionDigits_sound found'
      simp only [found'] at read
      split at read
      · split at read
        · cases read
        · rename_i short
          obtain ⟨rfl,rfl⟩ := Prod.mk.inj (Except.ok.inj read)
          cases spelt with
          | none => exact ⟨whole,by simp,.int isWhole (by omega)⟩
          | some digits => exact absurd rfl digits.1
      · rename_i notEmpty _
        obtain ⟨rfl,rfl⟩ := Prod.mk.inj (Except.ok.inj read)
        refine ⟨whole ++ text,by simp,?_⟩
        rw [← List.append_assoc]
        exact .fraction isWhole spelt notEmpty
      · rename_i exponent rest'' scaled
        obtain ⟨rfl,rfl⟩ := Prod.mk.inj (Except.ok.inj read)
        obtain ⟨text',rfl,scale⟩ := exponent?_sound scaled
        refine ⟨whole ++ text ++ text',by simp,?_⟩
        rw [← List.append_assoc,← List.append_assoc]
        exact .exponent isWhole spelt scale

/-- A number that is read is spelt by the front of the text. -/
theorem number_sound {cs rest : List Char} {n : Number} (read : Reader.number cs = .ok (n,rest)) :
    ∃ front, cs = front ++ rest ∧ SpellsNumber front n := by
  by_cases minus : cs.head? = some '-'
  · obtain ⟨body,rfl⟩ := List.head?_eq_some_iff.mp minus
    obtain ⟨front,rfl,spelt⟩ := numberBehind_sound (number_minus body ▸ read)
    exact ⟨'-' :: front,rfl,spelt⟩
  · exact numberBehind_sound (number_unsigned minus ▸ read)

theorem IsWhole.head {whole : List Char} (isWhole : IsWhole whole) :
    ∃ c rest, whole = c :: rest ∧ Digits.isDigit c = true := by
  rcases isWhole with rfl | ⟨⟨some,digits⟩,-⟩
  · exact ⟨'0',[],rfl,by decide⟩
  · obtain ⟨c,rest,rfl⟩ := List.exists_cons_of_ne_nil some
    exact ⟨c,rest,rfl,digits c List.mem_cons_self⟩

/-- What follows the digits before the point: no digit, and no point unless digits follow it. -/
theorem numberBehind_whole (cs : List Char) (negative : Bool) {whole text fraction rest : List Char}
    (isWhole : IsWhole whole) (spelt : SpellsFraction text fraction)
    (noDigit : ∀ c ∈ rest.head?, Digits.isDigit c = false)
    (noPoint : rest.head? ≠ some '.') :
    numberBehind cs negative (whole ++ (text ++ rest)) =
      match (fraction,exponent? rest) with
      | ([],none) =>
        if maxDigits < whole.length then .error ⟨.tooManyDigits,cs⟩
        else .ok (.int (if negative then -(Digits.value whole : Int) else Digits.value whole),rest)
      | (_,none) => .ok (.float (decimal negative whole fraction 0),rest)
      | (_,some (exponent,rest)) => .ok (.float (decimal negative whole fraction exponent),rest) := by
  have apart : ∀ c ∈ (text ++ rest).head?, Digits.isDigit c = false := by
    cases spelt with
    | none => exact noDigit
    | some => simp; decide
  obtain ⟨c,more,rfl,-⟩ := isWhole.head
  unfold numberBehind
  rw [wholeDigits_complete isWhole apart]
  dsimp only
  rw [fractionDigits_complete spelt noDigit noPoint]
  dsimp only
  cases fraction <;> cases exponent? rest <;> rfl

theorem Stops.noPoint {rest : List Char} (stops : Stops rest) : rest.head? ≠ some '.' :=
  fun point => absurd (stops '.' point) (by decide)

theorem SpellsExponent.head {text : List Char} {exponent : Int} (spelt : SpellsExponent text exponent)
    (rest : List Char) :
    (text ++ rest).head? = some 'e' ∨ (text ++ rest).head? = some 'E' := by
  cases spelt with
  | mk isMark => rcases isMark with rfl | rfl <;> simp

/-- What spells a number is read as that number where it stops. -/
theorem number_complete {front rest : List Char} {n : Number} (spelt : SpellsNumber front n) (stops : Stops rest) :
    Reader.number (front ++ rest) = .ok (n,rest) := by
  have unsigned : ∀ {whole behind : List Char}, IsWhole whole → (whole ++ behind).head? ≠ some '-' := by
    intro whole behind isWhole minus
    obtain ⟨c,more,rfl,digit⟩ := isWhole.head
    obtain rfl := Option.some.inj minus
    exact absurd digit (by decide)
  cases spelt with
  | int isWhole short =>
    rename_i negative whole
    have notLong : ¬maxDigits < whole.length := by omega
    have found := numberBehind_whole (minusText negative ++ (whole ++ rest)) negative isWhole .none stops.noDigit
      stops.noPoint
    rw [List.append_assoc,number_eq negative (unsigned isWhole)]
    exact found.trans (by simp only [exponent?_none stops,if_neg notLong])
  | fraction isWhole behind some =>
    rename_i negative whole text fraction
    have found := numberBehind_whole (minusText negative ++ (whole ++ (text ++ rest))) negative isWhole behind
      stops.noDigit stops.noPoint
    rw [List.append_assoc,List.append_assoc,number_eq negative (unsigned isWhole)]
    exact found.trans (by simp only [exponent?_none stops])
  | exponent isWhole behind scale =>
    rename_i negative whole text fraction text' exponent
    -- The letter of the exponent stops the digits in front of it, as what follows the number does elsewhere.
    have head := scale.head rest
    have noDigit : ∀ c ∈ (text' ++ rest).head?, Digits.isDigit c = false := by
      rcases head with head | head <;> simp [head] <;> decide
    have noPoint : (text' ++ rest).head? ≠ some '.' := by
      rcases head with head | head <;> simp [head]
    have found := numberBehind_whole (minusText negative ++ (whole ++ (text ++ (text' ++ rest)))) negative
      isWhole behind noDigit noPoint
    rw [List.append_assoc,List.append_assoc,List.append_assoc,number_eq negative (unsigned isWhole)]
    exact found.trans (by simp only [exponent?_complete scale stops.noDigit])

/-! ### What numbers start with and consist of -/

/-- A number starts with a digit, or with a minus and a digit. -/
theorem SpellsNumber.head {front : List Char} {n : Number} (spelt : SpellsNumber front n) :
    ∃ negative c rest, front = minusText negative ++ c :: rest ∧ Digits.isDigit c = true := by
  cases spelt with
  | int isWhole =>
    obtain ⟨c,rest,rfl,digit⟩ := isWhole.head
    exact ⟨_,c,rest,rfl,digit⟩
  | fraction isWhole =>
    rename_i text _ _ _
    obtain ⟨c,rest,rfl,digit⟩ := isWhole.head
    exact ⟨_,c,rest ++ text,List.append_assoc _ _ _,digit⟩
  | exponent isWhole =>
    rename_i negative whole text _ text' _ _ _
    obtain ⟨c,rest,rfl,digit⟩ := isWhole.head
    exact ⟨negative,c,rest ++ (text ++ text'),by simp only [List.append_assoc,List.cons_append],digit⟩

theorem isDigit_not_control {c : Char} (digit : Digits.isDigit c = true) : 0x20 ≤ c.toNat := by
  simp only [Digits.isDigit,Bool.and_eq_true,decide_eq_true_eq] at digit
  have first : '0'.toNat ≤ c.toNat := digit.1
  exact Nat.le_trans (by decide) first

theorem IsWhole.not_control {whole : List Char} (isWhole : IsWhole whole) : ∀ c ∈ whole, 0x20 ≤ c.toNat := by
  rcases isWhole with rfl | ⟨⟨-,digits⟩,-⟩
  · exact List.forall_mem_singleton.mpr (by decide)
  · exact fun c inside => isDigit_not_control (digits c inside)

theorem SpellsFraction.not_control {text fraction : List Char} (spelt : SpellsFraction text fraction) :
    ∀ c ∈ text, 0x20 ≤ c.toNat := by
  cases spelt with
  | none => simp
  | some digits => exact List.forall_mem_cons.mpr ⟨by decide,fun c inside => isDigit_not_control (digits.2 c inside)⟩

theorem SpellsExponent.not_control {text : List Char} {exponent : Int} (spelt : SpellsExponent text exponent) :
    ∀ c ∈ text, 0x20 ≤ c.toNat := by
  cases spelt with
  | mk isMark signed digits =>
    have ds := fun c inside => isDigit_not_control (digits.2 c inside)
    cases signed <;> rcases isMark with rfl | rfl <;> simpa using ds

theorem SpellsNumber.not_control {front : List Char} {n : Number} (spelt : SpellsNumber front n) :
    ∀ c ∈ front, 0x20 ≤ c.toNat := by
  have minus : ∀ negative, ∀ c ∈ minusText negative, 0x20 ≤ c.toNat := by
    rintro (_ | _)
    · exact List.forall_mem_nil _
    · exact List.forall_mem_singleton.mpr (by decide)
  cases spelt with
  | int isWhole => exact List.forall_mem_append.mpr ⟨minus _,isWhole.not_control⟩
  | fraction isWhole behind =>
    exact List.forall_mem_append.mpr
      ⟨List.forall_mem_append.mpr ⟨minus _,isWhole.not_control⟩,behind.not_control⟩
  | exponent isWhole behind scale =>
    refine List.forall_mem_append.mpr ⟨?_,scale.not_control⟩
    exact List.forall_mem_append.mpr
      ⟨List.forall_mem_append.mpr ⟨minus _,isWhole.not_control⟩,behind.not_control⟩

/-! ### Length -/

theorem SpellsNumber.short {cs : List Char} {n : Int} (spelt : SpellsNumber cs (.int n)) :
    n.natAbs < 10 ^ maxDigits := by
  cases spelt with
  | @int negative whole isWhole short =>
    have digits : ∀ c ∈ whole, Digits.isDigit c = true := by
      rcases isWhole with rfl | ⟨⟨-,digits⟩,-⟩
      · exact List.forall_mem_singleton.mpr (by decide)
      · exact digits
    have below := Nat.lt_of_lt_of_le (Digits.value_lt digits) (Nat.pow_le_pow_right (by decide) short)
    cases negative
    · exact below
    · rw [if_pos rfl,Int.natAbs_neg]
      exact below

end Json

end ShotRecorder
