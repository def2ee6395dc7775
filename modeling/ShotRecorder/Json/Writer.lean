import ShotRecorder.Json.Basic
import ShotRecorder.Decimal.Text
import ShotRecorder.Text.Quoted

/-!
# Writing JSON texts

Three layouts: on one line with ASCII characters only, or tight and with all characters but
controls, quotes and backslashes as they are; and over many lines, indented by two.
-/

namespace ShotRecorder.Json

/-- A whole number in decimal digits. -/
def intText (n : Int) : List Char :=
  if n < 0 then '-' :: Digits.write n.natAbs else Digits.write n.natAbs

/-- A number as it is written; undefined and infinite ones as words. -/
def numberText : Number → List Char
  | .int n => intText n
  | .float x =>
    if Decimal.finite x then (Decimal.text x).toList
    else if x.isNaN then "NaN".toList
    else if x < 0.0 then "-Infinity".toList
    else "Infinity".toList

/-! ### Strings -/

/-- The escape of a UTF-16 unit. -/
def unitEscape (n : Nat) : List Char := '\\' :: 'u' :: Quoted.hex 4 n

/-- The escape of a character: beyond the first 65536 it takes a surrogate pair. -/
def charEscape (c : Char) : List Char :=
  if c.toNat < 0x10000 then unitEscape c.toNat
  else
    let n := c.toNat - 0x10000
    unitEscape (0xD800 + n / 0x400) ++ unitEscape (0xDC00 + n % 0x400)

/-- A character of a string; with `ascii`, characters beyond printable ASCII are escaped. -/
def charText (ascii : Bool) (c : Char) : List Char :=
  match c with
  | '"' => ['\\', '"']
  | '\\' => ['\\', '\\']
  | '\n' => ['\\', 'n']
  | '\r' => ['\\', 'r']
  | '\t' => ['\\', 't']
  | '\x08' => ['\\', 'b']
  | '\x0c' => ['\\', 'f']
  | c =>
    if c.toNat < 0x20 || (ascii && 0x7E < c.toNat) then charEscape c else [c]

/-- A string in quotes. -/
def stringText (ascii : Bool) (s : String) : List Char :=
  '"' :: s.toList.flatMap (charText ascii) ++ ['"']

/-! ### One line -/

/-- How a value is written on one line. -/
structure LineStyle where
  /-- Whether only ASCII characters are used. -/
  ascii : Bool
  comma : List Char
  colon : List Char

/-- In ASCII, with a blank behind every comma and colon. -/
def LineStyle.spaced : LineStyle := { ascii := true, comma := [',', ' '], colon := [':', ' '] }

/-- Without any blanks. -/
def LineStyle.tight : LineStyle := { ascii := false, comma := [','], colon := [':'] }

mutual

/-- A value on one line. -/
def lineChars (style : LineStyle) : Json → List Char
  | null => "null".toList
  | bool true => "true".toList
  | bool false => "false".toList
  | number n => numberText n
  | string s => stringText style.ascii s
  | array items => '[' :: lineItems style items ++ [']']
  | object members => '{' :: lineMembers style members ++ ['}']

def lineItems (style : LineStyle) : List Json → List Char
  | [] => []
  | [item] => lineChars style item
  | item :: rest => lineChars style item ++ style.comma ++ lineItems style rest

def lineMembers (style : LineStyle) : List (String × Json) → List Char
  | [] => []
  | [(key, value)] => stringText style.ascii key ++ style.colon ++ lineChars style value
  | (key, value) :: rest =>
    stringText style.ascii key ++ style.colon ++ lineChars style value ++ style.comma ++
      lineMembers style rest

end

/-- A value on one line, in ASCII. -/
def line (v : Json) : String := String.ofList (v.lineChars .spaced)

/-- A value on one line, without blanks. -/
def tightLine (v : Json) : String := String.ofList (v.lineChars .tight)

/-! ### Indented -/

/-- A line break and the blanks of a nesting depth. -/
def newLine (depth : Nat) : List Char := '\n' :: List.replicate (2 * depth) ' '

mutual

/-- A value over many lines, at a nesting depth; empty arrays and objects stay on one line. -/
def indentedChars (depth : Nat) : Json → List Char
  | null => "null".toList
  | bool true => "true".toList
  | bool false => "false".toList
  | number n => numberText n
  | string s => stringText false s
  | array [] => ['[', ']']
  | array (item :: rest) =>
    '[' :: newLine (depth + 1) ++ indentedItems (depth + 1) (item :: rest) ++ newLine depth ++ [']']
  | object [] => ['{', '}']
  | object (member :: rest) =>
    '{' :: newLine (depth + 1) ++ indentedMembers (depth + 1) (member :: rest) ++
      newLine depth ++ ['}']

def indentedItems (depth : Nat) : List Json → List Char
  | [] => []
  | [item] => indentedChars depth item
  | item :: rest => indentedChars depth item ++ ',' :: newLine depth ++ indentedItems depth rest

def indentedMembers (depth : Nat) : List (String × Json) → List Char
  | [] => []
  | [(key, value)] => stringText false key ++ [':', ' '] ++ indentedChars depth value
  | (key, value) :: rest =>
    stringText false key ++ [':', ' '] ++ indentedChars depth value ++ ',' :: newLine depth ++
      indentedMembers depth rest

end

/-- A value over many lines, indented by two. -/
def indented (v : Json) : String := String.ofList (v.indentedChars 0)

end ShotRecorder.Json
