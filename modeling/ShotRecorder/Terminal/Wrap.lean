import ShotRecorder.Terminal.Cells
import ShotRecorder.Text.Blank
import ShotRecorder.Text.Parts

/-!
# Wrapping

Texts broken into lines of a given width, between words where possible. A word takes the blanks
around it along; those that reach over the end of a line are cut. What is wider than a whole line is
either folded over several lines or cut short.
-/

namespace ShotRecorder.Terminal

/-- What becomes of a word that is wider than a line. -/
inductive Overflow where
  | fold
  | ellipsis
  deriving DecidableEq, Repr

/-- The parts of a text between its tabs, each but the last with blanks up to the next column that
is a multiple of eight, and with one at least. -/
def alignParts : (column : Nat) → List (List Char) → List Char
  | _, [] => []
  | _, [last] => last
  | column, part :: rest =>
    let part := part ++ [' ']
    let reached := column + Cells.ofList part
    let blanks := (8 - reached % 8) % 8
    part ++ List.replicate blanks ' ' ++ alignParts (reached + blanks) rest

/-- A text with blanks for its tabs. -/
def expandTabs (cs : List Char) : List Char := alignParts 0 (Parts.of '\t' cs)

/-- The first word with the blanks around it, and what follows; none if there are only blanks. -/
def word? (cs : List Char) : Option (List Char × List Char) :=
  let before := cs.takeWhile Blank.isBlank
  let body := (cs.drop before.length).takeWhile (!Blank.isBlank ·)
  let rest := cs.drop (before.length + body.length)
  let after := rest.takeWhile Blank.isBlank
  if body.isEmpty then none else some (before ++ body ++ after, rest.drop after.length)

/-- The words of a text, at most as many as told. -/
def words : (count : Nat) → List Char → List (List Char)
  | 0, _ => []
  | count + 1, cs =>
    match word? cs with
    | some (word, rest) => word :: words count rest
    | none => []

/-- Blanks dropped from the end. -/
def dropEnd (cs : List Char) : List Char := (cs.reverse.dropWhile Blank.isBlank).reverse

/-- Clusters in pieces that are as wide as possible, but no wider than told, read behind a piece and
the cells that it takes. -/
def chopFrom (width : Nat) (used : Nat) (piece : List Char) : List Cells.Cluster → List (List Char)
  | [] => [piece]
  | c :: rest =>
    if width < used + c.cells then piece :: chopFrom width c.cells c.chars rest
    else chopFrom width (used + c.cells) (piece ++ c.chars) rest

/-- A text in pieces that are as wide as possible, but no wider than told. -/
def chop (width : Nat) (cs : List Char) : List (List Char) :=
  chopFrom width 0 [] (Cells.clusters cs)

/-- Lines while they are filled: those that are done, and the one that is being filled, with the
cells that the words on it take. -/
structure Filling where
  done : List (List Char) := []
  current : List Char := []
  used : Nat := 0

namespace Filling

/-- The line done, unless nothing is on it. -/
def feed (f : Filling) : Filling :=
  if f.current.isEmpty then f else { done := f.done ++ [f.current], current := [], used := 0 }

/-- More text on the line. -/
def add (f : Filling) (cs : List Char) : Filling :=
  { f with current := f.current ++ cs, used := f.used + Cells.ofList cs }

/-- A word on the line, or on new ones if the line has no room for it. -/
def put (overflow : Overflow) (width : Nat) (f : Filling) (word : List Char) : Filling :=
  let length := Cells.ofList (dropEnd word)
  if f.used + length ≤ width then f.add word
  else if width < length && overflow = .fold then
    (chop width word).foldl (fun f piece => f.feed.add piece) f
  else f.feed.add word

/-- All lines. -/
def lines (f : Filling) : List (List Char) := f.done ++ [f.current]

end Filling

/-- The lines of a text without line feeds; one that has no words is a line as it is. -/
def divide (overflow : Overflow) (width : Nat) (cs : List Char) : List (List Char) :=
  match words cs.length cs with
  | [] => [cs]
  | found => (found.foldl (Filling.put overflow width) {}).lines

/-- Blanks at the end dropped as far as they are beyond a number of characters. -/
def dropExcess (width : Nat) (cs : List Char) : List Char :=
  let blanks := cs.length - (dropEnd cs).length
  cs.take (cs.length - min blanks (cs.length - width))

/-- A line cut to a width where it is wider. -/
def shorten (overflow : Overflow) (width : Nat) (cs : List Char) : List Char :=
  match overflow with
  | .fold => Cells.crop width cs
  | .ellipsis => if width < Cells.ofList cs then Cells.fit (width - 1) cs ++ ['…'] else cs

/-- A text in lines no wider than told. -/
def wrap (overflow : Overflow) (width : Nat) (cs : List Char) : List (List Char) :=
  (Parts.of '\n' cs).flatMap fun p =>
    (divide overflow width (expandTabs p)).map fun line =>
      shorten overflow width (dropExcess width line)

end ShotRecorder.Terminal
