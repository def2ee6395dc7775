import Mathlib.Data.List.Basic
import Mathlib.Data.List.TakeWhile
import Mathlib.Data.Nat.Digits.Defs
import ShotRecorder.Level

/-!
How levels are read. What a value means is a level or nothing, and the name of the level means that level again. Blanks
around a text do not count (`Blank.trim_between`), and digits are read as the number that they spell, whatever scripts
they are of (`ofJson_digits`).
-/
namespace ShotRecorder

namespace Blank

/-- Characters of the class on either side of a text are dropped with those at its ends. -/
theorem trim_between {drop : Char → Bool} {before behind : List Char} (dropped : ∀ c ∈ before, drop c = true)
    (dropped' : ∀ c ∈ behind, drop c = true) (cs : List Char) :
    trim drop (before ++ (cs ++ behind)) = trim drop cs := by
  unfold trim
  rw [List.dropWhile_append_of_pos dropped,List.dropWhile_append]
  split
  · rename_i none
    rw [List.isEmpty_iff.mp none,List.dropWhile_eq_nil_iff.mpr dropped']
  · rw [List.reverse_append,List.dropWhile_append_of_pos fun c inside => dropped' c (List.mem_reverse.mp inside)]

theorem trim_same {drop : Char → Bool} {cs : List Char} (kept : ∀ c ∈ cs, drop c = false) : trim drop cs = cs := by
  have same : ∀ {ds : List Char}, (∀ c ∈ ds, drop c = false) → ds.dropWhile drop = ds := by
    intro ds kept
    cases ds with
    | nil => rfl
    | cons d rest => simp [kept d List.mem_cons_self]
  rw [trim,same kept,same fun c inside => kept c (List.mem_reverse.mp inside),List.reverse_reverse]

end Blank

namespace Numeral

/-- A digit stands behind the zero of its script. -/
theorem place_of_digitValue {c : Char} {d : Nat} (value : digitValue? c = some d) :
    ∃ first ∈ zeros, d < 10 ∧ c = Char.ofNat (first + d) := by
  obtain ⟨first,found,rfl⟩ := Option.map_eq_some_iff.mp value
  have within := List.find?_some found
  simp only [Bool.and_eq_true,decide_eq_true_eq] at within
  refine ⟨first,List.mem_of_find?_eq_some found,by omega,?_⟩
  rw [Nat.add_sub_cancel' within.1,Char.ofNat_toNat]

private theorem plain_digits : ∀ first ∈ zeros, ∀ d < 10,
    Blank.isBlank (Char.ofNat (first + d)) = false ∧
      Capital.ofChar (Char.ofNat (first + d)) = [Char.ofNat (first + d)] := by
  decide +kernel

/-- No digit is blank, and none has a capital form other than itself. -/
theorem plain_of_digitValue {c : Char} {d : Nat} (value : digitValue? c = some d) :
    Blank.isBlank c = false ∧ Capital.ofChar c = [c] := by
  obtain ⟨first,among,below,rfl⟩ := place_of_digitValue value
  exact plain_digits first among d below

/-- A text of digits, of one script or of several, and what each of them stands for. -/
def Spells (cs : List Char) (ds : List Nat) : Prop := List.Forall₂ (fun c d => digitValue? c = some d) cs ds

variable {cs : List Char} {ds : List Nat}

theorem Spells.value_of_mem (spells : Spells cs ds) : ∀ c ∈ cs, ∃ d, digitValue? c = some d := by
  induction spells with
  | nil => simp
  | cons value _ ih => exact List.forall_mem_cons.mpr ⟨⟨_,value⟩,ih⟩

/-- Digits are read from the most significant on. -/
theorem Spells.valueFrom (spells : Spells cs ds) (acc : Nat) :
    valueFrom? acc cs = some (Nat.ofDigits 10 (ds.reverse ++ [acc])) := by
  induction spells generalizing acc with
  | nil => simp [valueFrom?]
  | @cons c d cs ds value _ ih =>
    rw [valueFrom?,value,Option.bind_some,ih,List.reverse_cons,List.append_assoc,Nat.ofDigits_append,
      Nat.ofDigits_append]
    simp [Nat.ofDigits_cons]
    ring

theorem Spells.value (spells : Spells cs ds) : value? cs = some (Nat.ofDigits 10 ds.reverse) := by
  rw [value?,spells.valueFrom,Nat.ofDigits_append]
  simp

theorem Spells.read (spells : Spells cs ds) (some : cs ≠ []) (short : cs.length ≤ 4300) :
    Numeral.read cs = .ok (Nat.ofDigits 10 ds.reverse) := by
  have allLeading : cs.takeWhile (fun c => (digitValue? c).isSome) = cs := by
    rw [List.takeWhile_eq_self_iff]
    intro c inside
    obtain ⟨d,value⟩ := spells.value_of_mem c inside
    simp [value]
  rw [Numeral.read,allLeading]
  simp [spells.value,some,Nat.not_lt.mpr short]

end Numeral

namespace Level

/-- The name of a level means that level. -/
theorem ofJson_name (level : Level) : ofJson (.string level.name) = .ok level := by
  cases level <;> rfl

theorem ofJson_string (text : String) : ofJson (.string text) = ofText (.string text) text := rfl

/-- Texts that are the same but for blanks around them mean the same level or none. -/
theorem ofText_outcome {given given' : Json} {text text' : String}
    (same : Blank.trim Blank.isBlank text.toList = Blank.trim Blank.isBlank text'.toList) :
    (ofText given text).toOption = (ofText given' text').toOption := by
  unfold ofText
  rw [same]
  dsimp only
  split <;> split <;> rfl

/-- Digits mean what the number that they spell means. -/
theorem ofJson_digits {cs : List Char} {ds : List Nat} (spells : Numeral.Spells cs ds) (some : cs ≠ [])
    (short : cs.length ≤ 4300) :
    ofJson (.string (String.ofList cs)) = ofJson (.number (.int (Nat.ofDigits 10 ds.reverse : Nat))) := by
  have plain : ∀ c ∈ cs, Blank.isBlank c = false ∧ Capital.ofChar c = [c] := fun c inside =>
    have ⟨_,value⟩ := spells.value_of_mem c inside
    Numeral.plain_of_digitValue value
  have capital : Capital.ofList cs = cs :=
    (List.flatMap_congr fun c inside => (plain c inside).2).trans (List.flatMap_singleton' cs)
  have digits : cs.all Numeral.isDigit = true := List.all_eq_true.mpr fun c inside => by
    obtain ⟨d,value⟩ := spells.value_of_mem c inside
    simp [Numeral.isDigit,value]
  have filled : cs.isEmpty = false := by simpa using some
  rw [ofJson_string,ofText]
  simp only [String.toList_ofList,Blank.trim_same fun c inside => (plain c inside).1,capital,digits,filled,
    spells.read some short]
  rfl

/-- A value means nothing, which is a refusal and no other fault, or it means a level, whose name means the same and has
    the same number. Blanks around a text change nothing, and a text of digits means what the number means that it
    spells. -/
theorem reading_is_canonical :
    (∀ v, (∃ why, ofJson v = .error why ∧ numberOfJson v = .error why ∧ (Fault.level why).isRefusal = true) ∨
      ∃ level, ofJson v = .ok level ∧
        level.name ∈ ["OFF","ERROR","WARN","WARNING","INFO","DEBUG","TRACE","CRITICAL"] ∧
        ofJson (.string level.name) = .ok level ∧ numberOfJson v = numberOfJson (.string level.name)) ∧
    (∀ before text behind : String, (∀ c ∈ before.toList, Blank.isBlank c = true) →
      (∀ c ∈ behind.toList, Blank.isBlank c = true) →
      (ofJson (.string (before ++ text ++ behind))).toOption = (ofJson (.string text)).toOption) ∧
    (∀ cs ds, Numeral.Spells cs ds → cs ≠ [] → cs.length ≤ 4300 →
      ofJson (.string (String.ofList cs)) = ofJson (.number (.int (Nat.ofDigits 10 ds.reverse : Nat)))) := by
  refine ⟨fun v => ?_,fun before text behind blank blank' => ?_,fun cs ds => ofJson_digits⟩
  · cases meant : ofJson v with
    | error why => exact .inl ⟨why,rfl,by rw [numberOfJson,meant]; rfl,rfl⟩
    | ok level =>
      have listed : level.name ∈ ["OFF","ERROR","WARN","WARNING","INFO","DEBUG","TRACE","CRITICAL"] := by
        cases level <;> decide
      exact .inr ⟨level,rfl,listed,ofJson_name level,by rw [numberOfJson,numberOfJson,meant,ofJson_name]⟩
  · have same : Blank.trim Blank.isBlank (before ++ text ++ behind).toList = Blank.trim Blank.isBlank text.toList := by
      rw [String.toList_append,String.toList_append,List.append_assoc,Blank.trim_between blank blank']
    rw [ofJson_string,ofJson_string]
    exact ofText_outcome same

/-- A name with dotless letters between blanks, digits of three scripts that spell a number on the scale or beyond it,
    and a value that is no text. -/
theorem reading_is_canonical_of_four :
    (ofJson (.string ("\u2003\x1f" ++ "warnıng" ++ "\u0085\n"))).toOption = some .warning ∧
      ofJson (.string (String.ofList ['٠','０','3'])) = .ok .info ∧
      ofJson (.string (String.ofList ['٣','７'])) = .error (.outOfScale 37) ∧
      (Fault.level (.truth true)).isRefusal = true := by
  have ⟨meaning,blanks,digits⟩ := reading_is_canonical
  refine ⟨?_,?_,?_,?_⟩
  · have before : "\u2003\x1f".toList.all Blank.isBlank = true := by decide +kernel
    have behind : "\u0085\n".toList.all Blank.isBlank = true := by decide +kernel
    exact (blanks _ "warnıng" _ (List.all_eq_true.mp before) (List.all_eq_true.mp behind)).trans (by decide +kernel)
  · exact digits ['٠','０','3'] [0,0,3] (.cons (by decide) (.cons (by decide) (.cons (by decide) .nil))) (by simp)
      (by simp)
  · exact digits ['٣','７'] [3,7] (.cons (by decide) (.cons (by decide) .nil)) (by simp) (by simp)
  · rcases meaning (.bool true) with ⟨why,found,-,refusal⟩ | ⟨level,found,-⟩
    · cases found
      exact refusal
    · cases found

end Level

end ShotRecorder
