import ShotRecorder.Text.Quoted

/-!
# Digits of every script

A whole number may be spelt with the decimal digits of any script, or of several. Superscript and
circled digits count as digits too, but they have no place in a number.
-/

namespace ShotRecorder.Numeral

/-- The zeros of the scripts; each is followed by the other nine digits. -/
def zeros : List Nat :=
  [0x30, 0x660, 0x6F0, 0x7C0, 0x966, 0x9E6, 0xA66, 0xAE6, 0xB66, 0xBE6, 0xC66, 0xCE6, 0xD66, 0xDE6,
   0xE50, 0xED0, 0xF20, 0x1040, 0x1090, 0x17E0, 0x1810, 0x1946, 0x19D0, 0x1A80, 0x1A90, 0x1B50,
   0x1BB0, 0x1C40, 0x1C50, 0xA620, 0xA8D0, 0xA900, 0xA9D0, 0xA9F0, 0xAA50, 0xABF0, 0xFF10, 0x104A0,
   0x10D30, 0x11066, 0x110F0, 0x11136, 0x111D0, 0x112F0, 0x11450, 0x114D0, 0x11650, 0x116C0,
   0x11730, 0x118E0, 0x11950, 0x11C50, 0x11D50, 0x11DA0, 0x16A60, 0x16AC0, 0x16B50, 0x1D7CE,
   0x1D7D8, 0x1D7E2, 0x1D7EC, 0x1D7F6, 0x1E140, 0x1E2F0, 0x1E950, 0x1FBF0]

/-- The characters that are digits without a decimal value, such as superscripts, as ranges. -/
def markedDigits : List (Nat × Nat) :=
  [(0xB2, 0xB3), (0xB9, 0xB9), (0x1369, 0x1371), (0x19DA, 0x19DA), (0x2070, 0x2070),
   (0x2074, 0x2079), (0x2080, 0x2089), (0x2460, 0x2468), (0x2474, 0x247C), (0x2488, 0x2490),
   (0x24EA, 0x24EA), (0x24F5, 0x24FD), (0x24FF, 0x24FF), (0x2776, 0x277E), (0x2780, 0x2788),
   (0x278A, 0x2792), (0x10A40, 0x10A43), (0x10E60, 0x10E68), (0x11052, 0x1105A), (0x1F100, 0x1F10A)]

/-- What a decimal digit of some script stands for. -/
def digitValue? (c : Char) : Option Nat :=
  (zeros.find? fun first => first ≤ c.toNat && c.toNat < first + 10).map (c.toNat - ·)

/-- A decimal digit of some script, or a digit without a decimal value. -/
def isDigit (c : Char) : Bool :=
  (digitValue? c).isSome || markedDigits.any fun (first, last) => first ≤ c.toNat && c.toNat ≤ last

/-- The number that decimal digits spell behind `acc`; none where a character is not one. -/
def valueFrom? (acc : Nat) : List Char → Option Nat
  | [] => some acc
  | c :: rest => (digitValue? c).bind fun d => valueFrom? (acc * 10 + d) rest

/-- The number that a list of decimal digits spells. -/
def value? (cs : List Char) : Option Nat := valueFrom? 0 cs

/-- Why a text of digits is no number. -/
inductive Flaw where
  /-- It has none, or some without a decimal value. -/
  | unclear (text : String)
  | tooLong (count : Nat)

/-- The wording of a flaw. -/
def Flaw.message : Flaw → String
  | unclear text => "invalid literal for int() with base 10: " ++ Quoted.encode text
  | tooLong count =>
    "Exceeds the limit (4300 digits) for integer string conversion: value has " ++ toString count ++
      " digits; use sys.set_int_max_str_digits() to increase the limit"

/-- The number that a text of digits spells; superscripts and the like spell none. -/
def read (cs : List Char) : Except Flaw Nat :=
  let leading := (cs.takeWhile fun c => (digitValue? c).isSome).length
  if 4300 < leading then .error (.tooLong leading)
  else match value? cs with
    | some n => if cs.isEmpty then .error (.unclear "") else .ok n
    | none => .error (.unclear (String.ofList cs))

end ShotRecorder.Numeral
