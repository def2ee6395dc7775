import ShotRecorder.Text.Printable
import ShotRecorder.Text.Digits

/-!
# Quoted text

How a text is shown inside messages: in single quotes, or in double quotes when it holds single
ones and no double ones. The quote in use, the backslash and every character that is not printable
are escaped.
-/

namespace ShotRecorder.Quoted

/-- A hexadecimal digit in lower case. -/
def hexDigit (n : Nat) : Char :=
  if n < 10 then Digits.digit n else Char.ofNat ('a'.toNat + (n - 10))

/-- A number in exactly `width` hexadecimal digits. -/
def hex : (width : Nat) → Nat → List Char
  | 0, _ => []
  | width + 1, n => hex width (n / 16) ++ [hexDigit (n % 16)]

/-- The escape of a character by its code point, in two, four or eight digits. -/
def escape (c : Char) : List Char :=
  if c.toNat < 0x100 then '\\' :: 'x' :: hex 2 c.toNat
  else if c.toNat < 0x10000 then '\\' :: 'u' :: hex 4 c.toNat
  else '\\' :: 'U' :: hex 8 c.toNat

/-- A character between quotes. -/
def encodeChar (quote : Char) (c : Char) : List Char :=
  if c = quote || c = '\\' then ['\\', c]
  else if c = '\n' then ['\\', 'n']
  else if c = '\r' then ['\\', 'r']
  else if c = '\t' then ['\\', 't']
  else if Printable.isPrintable c then [c]
  else escape c

/-- The quote that needs fewer escapes; single unless only single quotes occur. -/
def quoteFor (cs : List Char) : Char :=
  if cs.contains '\'' && !cs.contains '"' then '"' else '\''

/-- A text in quotes. -/
def encode (s : String) : String :=
  let cs := s.toList
  let quote := quoteFor cs
  String.ofList (quote :: cs.flatMap (encodeChar quote) ++ [quote])

end ShotRecorder.Quoted
