import ShotRecorder.Fault
import ShotRecorder.Text.Blank
import ShotRecorder.Text.Parts
import ShotRecorder.Text.Small

/-!
# Styles

A style is described by words: attributes such as `bold`, each perhaps behind `not`, a colour, and
behind `on` a colour of the background. Descriptions that mean the same have the same plain form.
-/

namespace ShotRecorder.Terminal

/-! ### Colours -/

namespace Color

/-- The colours with a name. -/
def names : List String :=
  ["black", "red", "green", "yellow", "blue", "magenta", "cyan", "white", "bright_black",
   "bright_red", "bright_green", "bright_yellow", "bright_blue", "bright_magenta", "bright_cyan",
   "bright_white", "grey0", "gray0", "navy_blue", "dark_blue", "blue3", "blue1", "dark_green",
   "deep_sky_blue4", "dodger_blue3", "dodger_blue2", "green4", "spring_green4", "turquoise4",
   "deep_sky_blue3", "dodger_blue1", "green3", "spring_green3", "dark_cyan", "light_sea_green",
   "deep_sky_blue2", "deep_sky_blue1", "spring_green2", "cyan3", "dark_turquoise", "turquoise2",
   "green1", "spring_green1", "medium_spring_green", "cyan2", "cyan1", "dark_red", "deep_pink4",
   "purple4", "purple3", "blue_violet", "orange4", "grey37", "gray37", "medium_purple4",
   "slate_blue3", "royal_blue1", "chartreuse4", "dark_sea_green4", "pale_turquoise4", "steel_blue",
   "steel_blue3", "cornflower_blue", "chartreuse3", "cadet_blue", "sky_blue3", "steel_blue1",
   "pale_green3", "sea_green3", "aquamarine3", "medium_turquoise", "chartreuse2", "sea_green2",
   "sea_green1", "aquamarine1", "dark_slate_gray2", "dark_magenta", "dark_violet", "purple",
   "light_pink4", "plum4", "medium_purple3", "slate_blue1", "yellow4", "wheat4", "grey53", "gray53",
   "light_slate_grey", "light_slate_gray", "medium_purple", "light_slate_blue", "dark_olive_green3",
   "dark_sea_green", "light_sky_blue3", "sky_blue2", "dark_sea_green3", "dark_slate_gray3",
   "sky_blue1", "chartreuse1", "light_green", "pale_green1", "dark_slate_gray1", "red3",
   "medium_violet_red", "magenta3", "dark_orange3", "indian_red", "hot_pink3", "medium_orchid3",
   "medium_orchid", "medium_purple2", "dark_goldenrod", "light_salmon3", "rosy_brown", "grey63",
   "gray63", "medium_purple1", "gold3", "dark_khaki", "navajo_white3", "grey69", "gray69",
   "light_steel_blue3", "light_steel_blue", "yellow3", "dark_sea_green2", "light_cyan3",
   "light_sky_blue1", "green_yellow", "dark_olive_green2", "dark_sea_green1", "pale_turquoise1",
   "deep_pink3", "magenta2", "hot_pink2", "orchid", "medium_orchid1", "orange3", "light_pink3",
   "pink3", "plum3", "violet", "light_goldenrod3", "tan", "misty_rose3", "thistle3", "plum2",
   "khaki3", "light_goldenrod2", "light_yellow3", "grey84", "gray84", "light_steel_blue1",
   "yellow2", "dark_olive_green1", "honeydew2", "light_cyan1", "red1", "deep_pink2", "deep_pink1",
   "magenta1", "orange_red1", "indian_red1", "hot_pink", "dark_orange", "salmon1", "light_coral",
   "pale_violet_red1", "orchid2", "orchid1", "orange1", "sandy_brown", "light_salmon1",
   "light_pink1", "pink1", "plum1", "gold1", "navajo_white1", "misty_rose1", "thistle1", "yellow1",
   "light_goldenrod1", "khaki1", "wheat1", "cornsilk1", "grey100", "gray100", "grey3", "gray3",
   "grey7", "gray7", "grey11", "gray11", "grey15", "gray15", "grey19", "gray19", "grey23", "gray23",
   "grey27", "gray27", "grey30", "gray30", "grey35", "gray35", "grey39", "gray39", "grey42",
   "gray42", "grey46", "gray46", "grey50", "gray50", "grey54", "gray54", "grey58", "gray58",
   "grey62", "gray62", "grey66", "gray66", "grey70", "gray70", "grey74", "gray74", "grey78",
   "gray78", "grey82", "gray82", "grey85", "gray85", "grey89", "gray89", "grey93", "gray93"]

/-- The number of a colour on the palette, in one to three ASCII digits. -/
def isPlace (cs : List Char) : Bool :=
  !cs.isEmpty && cs.length ≤ 3 && cs.all Digits.isDigit && Digits.value cs ≤ 255

/-- Three shares of at most 255, in digits of any script. Where there are three, each must be a
number. -/
def areShares (cs : List Char) : Except Fault Bool :=
  match Parts.of ',' cs with
  | [red, green, blue] => do
    let read := fun share => (Numeral.read share).mapError Fault.noNumber
    let shares := [← read red, ← read green, ← read blue]
    pure (shares.all (· ≤ 255))
  | _ => pure false

/-- What stands in brackets behind a name. -/
def inside? (name : String) (cs : List Char) : Option (List Char) :=
  let name := name.toList ++ ['(']
  if name.isPrefixOf cs && cs.getLast? == some ')' then
    some ((cs.drop name.length).dropLast)
  else none

/-- Whether a word in small letters is a colour: a name, six hexadecimal digits, a place on the
palette, or shares of red, green and blue. -/
def isColor (word : String) : Except Fault Bool :=
  let cs := word.toList
  if word = "default" || names.contains word then pure true
  else match cs with
  | '#' :: digits => pure (digits.length = 6 && digits.all fun c => (Digits.hexValue? c).isSome)
  | _ =>
    match inside? "color" cs, inside? "rgb" cs with
    | some place, _ => pure (isPlace place)
    | _, some shares =>
      if !shares.isEmpty && shares.all (fun c => c = ',' || (Numeral.digitValue? c).isSome) then
        areShares shares
      else pure false
    | none, none => pure false

end Color

/-! ### Styles -/

/-- An attribute of a style, in the order of the plain form. -/
inductive Attribute where
  | bold
  | dim
  | italic
  | underline
  | blink
  | blink2
  | reverse
  | conceal
  | strike
  | underline2
  | frame
  | encircle
  | overline
  deriving DecidableEq, Repr

namespace Attribute

/-- All attributes. -/
def all : List Attribute :=
  [bold, dim, italic, underline, blink, blink2, reverse, conceal, strike, underline2, frame,
   encircle, overline]

/-- The name of an attribute. -/
def name : Attribute → String
  | bold => "bold"
  | dim => "dim"
  | italic => "italic"
  | underline => "underline"
  | blink => "blink"
  | blink2 => "blink2"
  | reverse => "reverse"
  | conceal => "conceal"
  | strike => "strike"
  | underline2 => "underline2"
  | frame => "frame"
  | encircle => "encircle"
  | overline => "overline"

/-- The short names of attributes. -/
def shortNames : List (String × Attribute) :=
  [("b", bold), ("d", dim), ("i", italic), ("u", underline), ("r", reverse), ("s", strike),
   ("c", conceal), ("uu", underline2), ("o", overline)]

/-- The attribute of a name. -/
def ofName? (name : String) : Option Attribute :=
  (all.find? (·.name == name)).or (shortNames.lookup name)

end Attribute

/-- What a description says. -/
structure Style where
  /-- Whether attributes are set or not; what was said last stands in front. -/
  attributes : List (Attribute × Bool) := []
  color : Option String := none
  background : Option String := none
  link : Option String := none

namespace Style

/-- A style with an attribute set or not. -/
def put (style : Style) (trait : Attribute) (isSet : Bool) : Style :=
  { style with attributes := (trait, isSet) :: style.attributes }

/-- A style described by one more word, the name of an attribute or a colour. -/
def named? (style : Style) (word : String) : Except Fault (Option Style) := do
  match Attribute.ofName? word with
  | some trait => pure (some (style.put trait true))
  | none => pure (if ← Color.isColor word then some { style with color := some word } else none)

/-- A style described by further words; none if they are no description. -/
def extend? (style : Style) : List String → Except Fault (Option Style)
  | [] => pure (some style)
  | [word] => style.named? (Small.ofText word)
  | word :: next :: rest => do
    let small := Small.ofText word
    if small = "on" then
      let color := Small.ofText next
      if ← Color.isColor color then extend? { style with background := some color } rest
      else pure none
    else if small = "not" then
      match Attribute.ofName? next with
      | some trait => extend? (style.put trait false) rest
      | none => pure none
    else if small = "link" then extend? { style with link := some next } rest
    else match ← style.named? small with
    | some style => extend? style (next :: rest)
    | none => pure none

/-- The words of the plain form of a style. -/
def words (style : Style) : List String :=
  let attributes := Attribute.all.flatMap fun trait =>
    match style.attributes.lookup trait with
    | some true => [trait.name]
    | some false => ["not", trait.name]
    | none => []
  attributes ++ style.color.toList ++
    (style.background.map fun color => ["on", color]).getD [] ++
    (style.link.map fun link => ["link", link]).getD []

/-- The words of a text, between its blanks. -/
def wordsOf : List Char → List String
  | [] => []
  | c :: rest =>
    if Blank.isBlank c then wordsOf rest
    else match rest, wordsOf rest with
      | next :: _, word :: others =>
        if Blank.isBlank next then String.ofList [c] :: word :: others
        else String.ofList (c :: word.toList) :: others
      | _, others => String.ofList [c] :: others

/-- The plain form of a description; what is none is only made small. -/
def normalName (cs : List Char) : Except Fault String := do
  match ← extend? {} (wordsOf cs) with
  | some style => pure (" ".intercalate style.words)
  | none => pure (String.ofList (Small.ofList (Blank.trim Blank.isBlank cs)))

end Style

end ShotRecorder.Terminal
