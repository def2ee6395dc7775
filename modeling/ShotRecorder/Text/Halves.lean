import ShotRecorder.Text.Quoted

/-!
# Halves of surrogate pairs

Code points from U+D800 to U+DFFF are halves of pairs. No character stands for a half alone, and no
encoding has bytes for it; yet a JSON text can spell one. A text that may hold such halves is
carried as characters: a half as a mark and a character of its own, and the mark as two marks. All
other characters stand for themselves.
Main statement: a carried text has the code points it was made of (`points_carry`).
-/

namespace ShotRecorder.Halves

/-- What becomes of halves that stand alone. -/
inductive Rule where
  | refused
  | carried
  deriving DecidableEq, Repr

/-- Whether a code point is a half. -/
def isHalf (n : Nat) : Bool := 0xD800 ≤ n && n < 0xE000

/-- The mark. -/
def mark : Char := Char.ofNat 0x10FFFE

/-- How far the characters of halves are from the halves. -/
def distance : Nat := 0xF0000

/-- A half as it is carried. -/
def ofHalf (n : Nat) : List Char := [mark, Char.ofNat (distance + n)]

/-- A character as it is carried. -/
def ofChar (c : Char) : List Char := if c = mark then [mark, mark] else [c]

/-- A text without halves as it is carried. -/
def carry (cs : List Char) : List Char := cs.flatMap ofChar

/-- The code points of a carried text. -/
def points : List Char → List Nat
  | [] => []
  | [c] => [c.toNat]
  | c :: d :: rest =>
    if c = mark then (if d = mark then mark.toNat else d.toNat - distance) :: points rest
    else c.toNat :: points (d :: rest)

/-- A carried text whose halves are changed into something else. -/
def replace (change : Nat → List Char) : List Char → List Char
  | [] => []
  | [c] => [c]
  | c :: d :: rest =>
    if c = mark then
      (if d = mark then [mark, mark] else change (d.toNat - distance)) ++ replace change rest
    else c :: replace change (d :: rest)

/-- The text that is carried, without its halves. -/
def release (cs : List Char) : List Char :=
  ((points cs).filter fun n => !isHalf n).map Char.ofNat

/-- Whether a carried text holds a half. -/
def anyHalf (cs : List Char) : Bool := (points cs).any isHalf

/-- The character that stands for bytes which are no character. -/
def replacement : Char := Char.ofNat 0xFFFD

/-- A carried text with each half replaced by what the three bytes are read as that would be its
own. -/
def visible (cs : List Char) : List Char := replace (fun _ => List.replicate 3 replacement) cs

/-- Where the first halves of some code points stand, and how many stand there in a row. -/
def firstRun? (points : List Nat) : Option (Nat × Nat × Nat) :=
  let before := points.takeWhile (!isHalf ·)
  match points.drop before.length with
  | [] => none
  | half :: rest => some (before.length, half, (rest.takeWhile isHalf).length)

/-- Why code points cannot be encoded, if halves are among them. -/
def flaw? (points : List Nat) : Option String :=
  (firstRun? points).map fun (place, half, more) =>
    let found :=
      if more = 0 then
        "character '\\u" ++ String.ofList (Quoted.hex 4 half) ++ "' in position " ++ toString place
      else "characters in position " ++ toString place ++ "-" ++ toString (place + more)
    "'utf-8' codec can't encode " ++ found ++ ": surrogates not allowed"

theorem points_ofChar_append (c : Char) (rest : List Char) :
    points (ofChar c ++ rest) = c.toNat :: points rest := by
  by_cases h : c = mark
  · subst h
    simp [ofChar, points]
  · cases rest with
    | nil => simp [ofChar, h, points]
    | cons d rest => simp [ofChar, h, points]

/-- A carried text has the code points of the text. -/
theorem points_carry (cs : List Char) : points (carry cs) = cs.map Char.toNat := by
  induction cs with
  | nil => rfl
  | cons c rest ih =>
    rw [carry, List.flatMap_cons, points_ofChar_append, List.map_cons]
    exact congrArg _ ih

end ShotRecorder.Halves
