import ShotRecorder.Terminal.Action
import ShotRecorder.Terminal.Emoji
import ShotRecorder.Terminal.Style

/-!
# Markup

Texts for a terminal may hold tags in brackets, which change its style and are not shown. A tag
starts with a small letter or one of three signs and holds no further bracket; a backslash before it
makes it text. Escaping a text keeps its tags from being read.
-/

namespace ShotRecorder.Terminal

/-- What a tag may start with. -/
def startsTag (c : Char) : Bool := ('a' ≤ c && c ≤ 'z') || c = '#' || c = '/' || c = '@'

/-- The inside of a tag at the front of a text, and what follows it. -/
def tag? : List Char → Option (List Char × List Char)
  | '[' :: c :: rest =>
    if startsTag c then
      let inside := rest.takeWhile fun c => c != ']' && c != '['
      match rest.drop inside.length with
      | ']' :: rest => some (c :: inside, rest)
      | _ => none
    else none
  | _ => none

/-- The backslashes at the front of a text, and what follows them. -/
def backslashes (cs : List Char) : Nat × List Char :=
  ((cs.takeWhile (· == '\\')).length, cs.dropWhile (· == '\\'))

/-- Backslashes in a row. -/
def backslashRow (count : Nat) : List Char := List.replicate count '\\'

/-- A text with its tags escaped, at most as many characters as told. -/
def escapeTags : (fuel : Nat) → List Char → List Char
  | 0, cs => cs
  | _, [] => []
  | fuel + 1, c :: rest =>
    let (count, after) := backslashes (c :: rest)
    match tag? after with
    | some (inside, after) =>
      backslashRow (2 * count + 1) ++ '[' :: inside ++ ']' :: escapeTags fuel after
    | none =>
      if count = 0 then c :: escapeTags fuel rest else backslashRow count ++ escapeTags fuel after

/-- A text escaped: shown as it is, but for a single backslash at its end, which is shown twice. -/
def escape (cs : List Char) : List Char :=
  let escaped := escapeTags (cs.length + 1) cs
  match escaped.reverse with
  | '\\' :: '\\' :: _ => escaped
  | '\\' :: _ => escaped ++ ['\\']
  | _ => escaped

/-- A piece of a text with markup, and where it starts. -/
inductive Piece where
  | text (cs : List Char)
  | tag (place : Nat) (inside : List Char)

/-- Text put in front of pieces, joined with text that is there. -/
def Piece.cons (c : Char) : List Piece → List Piece
  | .text cs :: rest => .text (c :: cs) :: rest
  | rest => .text [c] :: rest

/-- Text in front of pieces, kept apart from text that is there. -/
def Piece.before (cs : List Char) (rest : List Piece) : List Piece :=
  if cs.isEmpty then rest else .text cs :: .text [] :: rest

/-- The pieces of a text, the first of them at a place. -/
def pieces : (fuel place : Nat) → List Char → List Piece
  | 0, _, cs => [.text cs]
  | _, _, [] => []
  | fuel + 1, place, c :: rest =>
    let (count, after) := backslashes (c :: rest)
    match tag? after with
    | some (inside, after) =>
      let next := place + count + inside.length + 2
      Piece.before (backslashRow (count / 2)) <|
        if count % 2 = 1 then Piece.before ('[' :: inside ++ [']']) (pieces fuel next after)
        else .tag (place + count) inside :: pieces fuel next after
    | none => Piece.cons c (pieces fuel (place + 1) rest)

/-- A backslash before a bracket is dropped. -/
def openBrackets : List Char → List Char
  | [] => []
  | '\\' :: '[' :: rest => '[' :: openBrackets rest
  | c :: rest => c :: openBrackets rest

/-- The control characters that a terminal text is freed from. -/
def isStripped (c : Char) : Bool :=
  let n := c.toNat
  n = 7 || n = 8 || (11 ≤ n && n ≤ 13)

/-- A style that was opened: its plain form, and what stands behind an equals sign in its tag. -/
structure Opened where
  name : String
  parameters : List Char

/-- The style opened last under a name, and the others. -/
def close? (name : String) : List Opened → Option (Opened × List Opened)
  | [] => none
  | style :: rest =>
    if style.name = name then some (style, rest)
    else (close? name rest).map fun (found, rest) => (found, style :: rest)

/-- The style that a tag closes, and those that remain open: the one of its name, or without a name
the one opened last. -/
def closed (styles : List Opened) (place : Nat) (inside name : List Char) :
    Except Fault (Opened × List Opened) := do
  let name := Blank.trim Blank.isBlank name
  if name.isEmpty then
    match styles with
    | style :: rest => pure (style, rest)
    | [] => .error (.nothingToClose place)
  else
    match close? (← Style.normalName name) styles with
    | some found => pure found
    | none => .error (.closesNothing (String.ofList inside) place)

/-- Where the style of an action ends, its parameters are read. -/
def checkOpened (style : Opened) : Except Fault Unit :=
  if "@".isPrefixOf style.name && !style.parameters.isEmpty then Action.check style.parameters
  else .ok ()

/-- The text of pieces while styles are open; a tag that closes nothing is a fault. -/
def textOf : (styles : List Opened) → List Piece → Except Fault (List Char)
  | _, [] => .ok []
  | styles, .text cs :: rest =>
    return (Emoji.replace (openBrackets cs)).filter (!isStripped ·) ++ (← textOf styles rest)
  | styles, .tag place inside :: rest => do
    let name := inside.takeWhile (· != '=')
    match name with
    | '/' :: name =>
      let (style, styles) ← closed styles place inside name
      checkOpened style
      textOf styles rest
    | name =>
      let style := ⟨← Style.normalName name, inside.drop (name.length + 1)⟩
      textOf (style :: styles) rest

/-- The text that markup shows. -/
def shownText (markup : List Char) : Except Fault (List Char) :=
  textOf [] (pieces (markup.length + 1) 0 markup)

end ShotRecorder.Terminal
