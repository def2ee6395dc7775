import ShotRecorder.Terminal.Emoji.Names
import ShotRecorder.Text.Blank
import ShotRecorder.Text.Digits
import ShotRecorder.Text.Parts
import ShotRecorder.Text.Small

/-!
# Emoji

An emoji is called for by its name between colons, in letters of any size. The name may end with a
word for the way it is to be shown, as a text or as a picture, which a selector behind the emoji
tells. What is no name stays as it is.
-/

namespace ShotRecorder.Emoji

/-- The character of a code point in hexadecimal digits. -/
def char? (digits : String) : Option Char :=
  (digits.toList.foldlM (fun n c => (Digits.hexValue? c).map (n * 16 + ·)) 0).map Char.ofNat

/-- An entry of a row. -/
def entry? (text : String) : Option (String × List Char) :=
  match text.splitOn "=" with
  | [name, codes] => ((codes.splitOn "-").mapM char?).map fun cs => (name, cs)
  | _ => none

/-- All emoji with their names. -/
def all : List (String × List Char) := rows.flatMap fun row => (row.splitOn " ").filterMap entry?

/-- The ways to show an emoji, by their words, and the selectors that ask for them. -/
def variants : List (List Char × Char) :=
  [("-emoji".toList, Char.ofNat 0xFE0F), ("-text".toList, Char.ofNat 0xFE0E)]

/-- The emoji that a name calls for. -/
def ofName? (name : List Char) : Option (List Char) :=
  all.lookup (String.ofList (Small.ofList name))

/-- The emoji that a name calls for, with the way to show it if the name ends with one. -/
def ofCode? (code : List Char) : Option (List Char) :=
  match variants.find? fun (word, _) => word.isSuffixOf code with
  | some (word, selector) =>
    (ofName? (code.take (code.length - word.length))).map (· ++ [selector])
  | none => ofName? code

/-- The parts of a text between its colons put together again, with emoji for names among them. A
name holds no blanks, and its two colons belong to it alone. -/
def joined : List (List Char) → List Char
  | [] => []
  | [text] => text
  | [text, last] => text ++ ':' :: last
  | text :: code :: next :: rest =>
    if code.any Blank.isBlank then text ++ ':' :: joined (code :: next :: rest)
    else text ++ (ofCode? code).getD (':' :: code ++ [':']) ++ joined (next :: rest)

/-- A text with emoji for the names in it. -/
def replace (cs : List Char) : List Char := joined (Parts.of ':' cs)

end ShotRecorder.Emoji
