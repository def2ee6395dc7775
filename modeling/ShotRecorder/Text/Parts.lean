/-!
# Parts of a text

A text divided at each occurrence of a character.
Main statement: with the character between them, the parts make up the text again
(`intercalate_of`).
-/

namespace ShotRecorder.Parts

/-- The parts of a text between the occurrences of a character. -/
def of (mark : Char) : List Char → List (List Char)
  | [] => [[]]
  | c :: rest =>
    if c = mark then [] :: of mark rest
    else match of mark rest with
      | [] => [[c]]
      | first :: others => (c :: first) :: others

theorem of_ne_nil (mark : Char) (cs : List Char) : of mark cs ≠ [] := by
  cases cs with
  | nil => simp [of]
  | cons c rest =>
    rw [of]
    split
    · simp
    · split <;> simp

/-- The parts joined by the character are the text. -/
theorem intercalate_of (mark : Char) (cs : List Char) : [mark].intercalate (of mark cs) = cs := by
  induction cs with
  | nil => rfl
  | cons c rest ih =>
    obtain ⟨first, others, h⟩ := List.exists_cons_of_ne_nil (of_ne_nil mark rest)
    rw [h] at ih
    by_cases same : c = mark
    · subst same
      rw [of, if_pos rfl, h]
      simpa [List.intercalate, List.intersperse] using ih
    · rw [of, if_neg same, h]
      cases others <;> simpa [List.intercalate, List.intersperse] using ih

end ShotRecorder.Parts
