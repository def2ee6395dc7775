import ShotRecorder.Json.Basic
import ShotRecorder.Text.Blank
import ShotRecorder.Text.Digits
import ShotRecorder.Text.Halves

/-!
# Reading JSON texts

The grammar of RFC 8259 with the three further numbers `NaN`, `Infinity` and `-Infinity`. Each
reader takes the front of a text and hands back what follows it. A refusal says what is wrong and
keeps the text from that point on, so that its place can be reported. Nesting is bounded by a
given depth, on which the readers recurse. Halves of surrogate pairs that stand alone in a string
are refused or carried, as a rule has it.
-/

namespace ShotRecorder.Json.Reader

/-- What can be wrong with a JSON text. -/
inductive Flaw where
  | expectedValue
  | expectedName
  | expectedColon
  | expectedComma
  | extraData
  | unterminatedString
  | controlCharacter
  | badEscape
  | badUnicodeEscape
  | loneSurrogate
  | tooDeep
  | tooManyDigits
  deriving DecidableEq, Repr

/-- A flaw, and the text from the character that shows it. -/
structure Refusal where
  flaw : Flaw
  rest : List Char

/-- A function that reads the front of a text. -/
abbrev Reads (α : Type) := List Char → Except Refusal (α × List Char)

/-- Whole numbers have at most this many digits. -/
def maxDigits : Nat := 4300

/-- The text without the blanks in front. -/
def skipBlanks (cs : List Char) : List Char := cs.dropWhile Blank.isJsonBlank

/-! ### Strings -/

/-- The UTF-16 unit that four hexadecimal digits spell, and what follows, which is not the end. -/
def unit? : List Char → Option (Nat × List Char)
  | a :: b :: c :: d :: e :: rest => do
    let a ← Digits.hexValue? a
    let b ← Digits.hexValue? b
    let c ← Digits.hexValue? c
    let d ← Digits.hexValue? d
    some (((a * 16 + b) * 16 + c) * 16 + d, e :: rest)
  | _ => none

/-- The first half of a surrogate pair. -/
def isHighSurrogate (n : Nat) : Bool := 0xD800 ≤ n && n < 0xDC00

/-- The second half of a surrogate pair. -/
def isLowSurrogate (n : Nat) : Bool := 0xDC00 ≤ n && n < 0xE000

/-- The code point of a surrogate pair. -/
def joinSurrogates (high low : Nat) : Nat := 0x10000 + (high - 0xD800) * 0x400 + (low - 0xDC00)

/-- The second half of a surrogate pair, if it follows its first half at once, and what follows. -/
def lowSurrogate? (cs : List Char) : Except Refusal (Option (Nat × List Char)) :=
  match cs with
  | '\\' :: 'u' :: digits =>
    if digits.length < 5 then .ok none
    else match unit? digits with
      | none => .error ⟨.badUnicodeEscape, 'u' :: digits⟩
      | some (low, rest) => .ok (if isLowSurrogate low then some (low, rest) else none)
  | _ => .ok none

/-- A character of a string as the rule for halves has it. -/
def plainChar (halves : Halves.Rule) (c : Char) : List Char :=
  match halves with
  | .refused => [c]
  | .carried => Halves.ofChar c

/-- A half that stands alone in front of a text. -/
def loneHalf (halves : Halves.Rule) (half : Nat) (rest : List Char) :
    Except Refusal (List Char × List Char) :=
  match halves with
  | .refused => .error ⟨.loneSurrogate, rest⟩
  | .carried => .ok (Halves.ofHalf half, rest)

/-- The character of an escape with a code, read behind `\u`. -/
def unicodeEscape (halves : Halves.Rule) (digits : List Char) :
    Except Refusal (List Char × List Char) :=
  match unit? digits with
  | none => .error ⟨.badUnicodeEscape, 'u' :: digits⟩
  | some (unit, rest) =>
    if isHighSurrogate unit then do
      match ← lowSurrogate? rest with
      | some (low, rest) => .ok (plainChar halves (Char.ofNat (joinSurrogates unit low)), rest)
      | none => loneHalf halves unit rest
    else if isLowSurrogate unit then loneHalf halves unit rest
    else .ok (plainChar halves (Char.ofNat unit), rest)

/-- The character of an escape with a letter. -/
def shortEscape? : Char → Option Char
  | '"' => some '"'
  | '\\' => some '\\'
  | '/' => some '/'
  | 'b' => some '\x08'
  | 'f' => some '\x0c'
  | 'n' => some '\n'
  | 'r' => some '\r'
  | 't' => some '\t'
  | _ => none

/-- One character of a string, or none at the closing quote; `opening` is the text from the opening
quote. -/
def character (halves : Halves.Rule) (opening : List Char) :
    List Char → Except Refusal (Option (List Char) × List Char)
  | [] => .error ⟨.unterminatedString, opening⟩
  | '"' :: rest => .ok (none, rest)
  | ['\\'] => .error ⟨.unterminatedString, opening⟩
  | '\\' :: 'u' :: digits => (unicodeEscape halves digits).map fun (c, rest) => (some c, rest)
  | '\\' :: letter :: rest =>
    match shortEscape? letter with
    | some c => .ok (some [c], rest)
    | none => .error ⟨.badEscape, '\\' :: letter :: rest⟩
  | c :: rest =>
    if c.toNat < 0x20 then .error ⟨.controlCharacter, c :: rest⟩
    else .ok (some (plainChar halves c), rest)

/-- At most `fuel` characters of a string, up to its closing quote. -/
def characters (halves : Halves.Rule) (opening : List Char) : (fuel : Nat) → Reads (List Char)
  | 0, cs => .error ⟨.unterminatedString, cs⟩
  | fuel + 1, cs => do
    match ← character halves opening cs with
    | (none, rest) => .ok ([], rest)
    | (some c, rest) =>
      let (more, rest) ← characters halves opening fuel rest
      .ok (c ++ more, rest)

/-- A string, read behind its opening quote. -/
def stringBody (halves : Halves.Rule) : Reads String := fun cs =>
  (characters halves ('"' :: cs) (cs.length + 1) cs).map fun (s, rest) => (String.ofList s, rest)

/-! ### Numbers -/

/-- The digits before the point: a lone zero, or digits that start with another one. -/
def wholeDigits : List Char → List Char × List Char
  | '0' :: rest => (['0'], rest)
  | cs => Digits.span cs

/-- The digits behind a point, or none if no digit follows it. -/
def fractionDigits : List Char → List Char × List Char
  | '.' :: rest =>
    match Digits.span rest with
    | ([], _) => ([], '.' :: rest)
    | found => found
  | cs => ([], cs)

/-- A sign, true for minus, and what follows it. -/
def signOf : List Char → Bool × List Char
  | '-' :: rest => (true, rest)
  | '+' :: rest => (false, rest)
  | cs => (false, cs)

/-- An exponent, if its letter is followed by digits. -/
def exponent? : List Char → Option (Int × List Char)
  | c :: rest =>
    if c = 'e' || c = 'E' then
      let (negative, rest) := signOf rest
      match Digits.span rest with
      | ([], _) => none
      | (ds, rest) =>
        let n : Int := Digits.value ds
        some (if negative then -n else n, rest)
    else none
  | [] => none

/-- The number with the given digits before and behind the point, times a power of ten. -/
def decimal (negative : Bool) (whole fraction : List Char) (exponent : Int) : Float :=
  let ds := (whole ++ fraction).dropWhile (· == '0')
  Decimal.withSign negative
    (Decimal.nearest (Digits.value ds) ds.length (exponent - fraction.length))

/-- A number: the longest front of the text that is one. -/
def number : Reads Number := fun cs =>
  let (negative, body) := match cs with
    | '-' :: rest => (true, rest)
    | _ => (false, cs)
  match wholeDigits body with
  | ([], _) => .error ⟨.expectedValue, cs⟩
  | (whole, rest) =>
    let (fraction, rest) := fractionDigits rest
    match fraction, exponent? rest with
    | [], none =>
      if maxDigits < whole.length then .error ⟨.tooManyDigits, cs⟩
      else
        let n : Int := Digits.value whole
        .ok (.int (if negative then -n else n), rest)
    | _, none => .ok (.float (decimal negative whole fraction 0), rest)
    | _, some (exponent, rest) => .ok (.float (decimal negative whole fraction exponent), rest)

/-! ### Values -/

/-- The words that stand for a value. -/
def words : List (List Char × Json) :=
  [("null".toList, .null), ("true".toList, .bool true), ("false".toList, .bool false),
   ("NaN".toList, .number (.float Decimal.undefined)),
   ("Infinity".toList, .number (.float Decimal.infinity)),
   ("-Infinity".toList, .number (.float (-Decimal.infinity)))]

/-- A value that holds no others. -/
def scalar (halves : Halves.Rule) : Reads Json := fun cs =>
  match cs with
  | '"' :: rest => (stringBody halves rest).map fun (s, rest) => (.string s, rest)
  | _ =>
    match words.find? fun (word, _) => word.isPrefixOf cs with
    | some (word, value) => .ok (value, cs.drop word.length)
    | none => (number cs).map fun (n, rest) => (.number n, rest)

/-- Items up to the closing bracket, read at the first of them. -/
def itemsFrom (item : Reads Json) : (fuel : Nat) → Reads (List Json)
  | 0, cs => .error ⟨.expectedValue, cs⟩
  | fuel + 1, cs => do
    let (first, rest) ← item cs
    match skipBlanks rest with
    | ']' :: rest => .ok ([first], rest)
    | ',' :: rest =>
      let (others, rest) ← itemsFrom item fuel (skipBlanks rest)
      .ok (first :: others, rest)
    | rest => .error ⟨.expectedComma, rest⟩

/-- The items of an array, read behind its opening bracket. -/
def items (item : Reads Json) : Reads (List Json) := fun cs =>
  match skipBlanks cs with
  | ']' :: rest => .ok ([], rest)
  | rest => itemsFrom item (rest.length + 1) rest

/-- A key, a colon and a value. -/
def member (halves : Halves.Rule) (item : Reads Json) : Reads (String × Json) := fun cs =>
  match cs with
  | '"' :: rest => do
    let (key, rest) ← stringBody halves rest
    match skipBlanks rest with
    | ':' :: rest =>
      let (value, rest) ← item (skipBlanks rest)
      .ok ((key, value), rest)
    | rest => .error ⟨.expectedColon, rest⟩
  | _ => .error ⟨.expectedName, cs⟩

/-- Members up to the closing brace, read at the first of them. -/
def membersFrom (halves : Halves.Rule) (item : Reads Json) :
    (fuel : Nat) → Reads (List (String × Json))
  | 0, cs => .error ⟨.expectedName, cs⟩
  | fuel + 1, cs => do
    let (first, rest) ← member halves item cs
    match skipBlanks rest with
    | '}' :: rest => .ok ([first], rest)
    | ',' :: rest =>
      let (others, rest) ← membersFrom halves item fuel (skipBlanks rest)
      .ok (first :: others, rest)
    | rest => .error ⟨.expectedComma, rest⟩

/-- The members of an object, read behind its opening brace. -/
def members (halves : Halves.Rule) (item : Reads Json) : Reads (List (String × Json)) := fun cs =>
  match skipBlanks cs with
  | '}' :: rest => .ok ([], rest)
  | rest => membersFrom halves item (rest.length + 1) rest

/-- A value that nests others to at most the given depth. -/
def value (halves : Halves.Rule) : (depth : Nat) → Reads Json
  | 0, cs =>
    match cs with
    | '[' :: _ | '{' :: _ => .error ⟨.tooDeep, cs⟩
    | _ => scalar halves cs
  | depth + 1, cs =>
    match cs with
    | '[' :: rest => (items (value halves depth) rest).map fun (found, rest) => (.array found, rest)
    | '{' :: rest =>
      (members halves (value halves depth) rest).map fun (found, rest) =>
        (.object (Members.ofList found), rest)
    | _ => scalar halves cs

end Reader

/-- The one value that a whole text denotes, as a rule for halves has it. -/
def readWith (halves : Halves.Rule) (depth : Nat) (text : List Char) :
    Except Reader.Refusal Json := do
  let (found, rest) ← Reader.value halves depth (Reader.skipBlanks text)
  match Reader.skipBlanks rest with
  | [] => .ok found
  | rest => .error ⟨.extraData, rest⟩

/-- The one value that a whole text denotes, in whose strings no half of a pair stands alone. -/
def read (depth : Nat) (text : List Char) : Except Reader.Refusal Json :=
  readWith .refused depth text

end ShotRecorder.Json
