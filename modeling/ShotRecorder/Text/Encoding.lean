/-!
# Encodings of texts

Bytes to texts. A text without a declared encoding is in UTF-8, UTF-16 or UTF-32: a mark at its
start, or the places of the zero bytes among its first four, tell which. Where bytes that should be
UTF-8 are not, the flaw is described by its place and its reason.
-/

namespace ShotRecorder

/-- An encoding of texts. -/
inductive Encoding where
  | utf8
  | utf16 (bigFirst : Bool)
  | utf32 (bigFirst : Bool)
  deriving DecidableEq, Repr

namespace Encoding

/-- The encoding of a text that starts with given bytes, and the text without a mark in front. -/
def detect : List UInt8 → Encoding × List UInt8
  | 0 :: 0 :: 0xFE :: 0xFF :: rest => (utf32 true, rest)
  | 0xFF :: 0xFE :: 0 :: 0 :: rest => (utf32 false, rest)
  | 0xFE :: 0xFF :: rest => (utf16 true, rest)
  | 0xFF :: 0xFE :: rest => (utf16 false, rest)
  | 0xEF :: 0xBB :: 0xBF :: rest => (utf8, rest)
  | a :: b :: c :: d :: rest =>
    let encoding :=
      if a = 0 then if b = 0 then utf32 true else utf16 true
      else if b = 0 then if c = 0 && d = 0 then utf32 false else utf16 false
      else utf8
    (encoding, a :: b :: c :: d :: rest)
  | [a, b] => (if a = 0 then utf16 true else if b = 0 then utf16 false else utf8, [a, b])
  | bytes => (utf8, bytes)

/-- The units of two bytes each, if there is an even number of bytes. -/
def units16? (bigFirst : Bool) : List UInt8 → Option (List Nat)
  | [] => some []
  | [_] => none
  | a :: b :: rest =>
    let unit := if bigFirst then a.toNat * 256 + b.toNat else b.toNat * 256 + a.toNat
    (units16? bigFirst rest).map (unit :: ·)

/-- The units of four bytes each, if the number of bytes allows it. -/
def units32? (bigFirst : Bool) : List UInt8 → Option (List Nat)
  | [] => some []
  | a :: b :: c :: d :: rest =>
    let join := fun (w x y z : UInt8) =>
      ((w.toNat * 256 + x.toNat) * 256 + y.toNat) * 256 + z.toNat
    (units32? bigFirst rest).map ((if bigFirst then join a b c d else join d c b a) :: ·)
  | _ => none

/-- The character of a code point, if it is one. -/
def char? (n : Nat) : Option Char := if n.isValidChar then some (Char.ofNat n) else none

/-- The characters of UTF-16 units; halves of surrogate pairs must stand in pairs. -/
def chars16? : List Nat → Option (List Char)
  | [] => some []
  | high :: low :: rest =>
    if 0xD800 ≤ high && high < 0xDC00 then
      if 0xDC00 ≤ low && low < 0xE000 then
        (chars16? rest).map (Char.ofNat (0x10000 + (high - 0xD800) * 0x400 + (low - 0xDC00)) :: ·)
      else none
    else do
      let c ← char? high
      let cs ← chars16? (low :: rest)
      some (c :: cs)
  | [unit] => do some [← char? unit]

/-- The text that bytes encode. -/
def decode? (bytes : List UInt8) : Encoding → Option (List Char)
  | utf8 => (String.fromUTF8? ⟨bytes.toArray⟩).map String.toList
  | utf16 bigFirst => units16? bigFirst bytes >>= chars16?
  | utf32 bigFirst => units32? bigFirst bytes >>= fun units => units.mapM char?

/-- The text that bytes of an encoding not declared encode. -/
def text? (bytes : List UInt8) : Option (List Char) :=
  let (encoding, bytes) := detect bytes
  encoding.decode? bytes

/-! ### Flaws of UTF-8 -/

/-- How the bytes at a place go on. -/
inductive Sequence where
  /-- A character of that many bytes. -/
  | sound (bytes : Nat)
  /-- A byte that starts no character. -/
  | badStart
  /-- So many bytes are sound, and the next does not continue them. -/
  | badNext (sound : Nat)
  /-- The bytes end before the character does. -/
  | cut

/-- A byte that continues a character. -/
def continues (b : UInt8) : Bool := 0x80 ≤ b && b < 0xC0

/-- Whether a second byte continues a first one; some first bytes allow a part of the bytes only. -/
def follows (first second : UInt8) : Bool :=
  continues second &&
    (if first = 0xE0 then 0xA0 ≤ second
    else if first = 0xED then second < 0xA0
    else if first = 0xF0 then 0x90 ≤ second
    else if first = 0xF4 then second < 0x90
    else true)

/-- How many bytes a character has that starts with the given byte. -/
def width? (first : UInt8) : Option Nat :=
  if first < 0x80 then some 1
  else if first < 0xC2 then none
  else if first < 0xE0 then some 2
  else if first < 0xF0 then some 3
  else if first < 0xF5 then some 4
  else none

/-- How a character goes on that starts with a byte and is followed by others. -/
def sequenceAt (first : UInt8) (others : List UInt8) : Sequence :=
  match width? first with
  | none => .badStart
  | some 1 => .sound 1
  | some width =>
    match others with
    | [] => .cut
    | second :: others =>
      if !follows first second then .badNext 1
      else
        let sound := ((others.take (width - 2)).takeWhile continues).length
        if sound = width - 2 then .sound width
        else if sound < others.length then .badNext (2 + sound)
        else .cut

/-- What is wrong with bytes that are not UTF-8, the first of them being at a place. -/
def flawFrom (place : Nat) : (fuel : Nat) → List UInt8 → Option String
  | 0, _ => none
  | _, [] => none
  | fuel + 1, first :: others =>
    let report := fun (count : Nat) (reason : String) =>
      if count = 1 then
        let digits := Nat.toDigits 16 first.toNat
        "byte 0x" ++ String.ofList digits ++ " in position " ++ toString place ++ ": " ++ reason
      else
        "bytes in position " ++ toString place ++ "-" ++ toString (place + count - 1) ++ ": " ++
          reason
    match sequenceAt first others with
    | .sound bytes => flawFrom (place + bytes) fuel (others.drop (bytes - 1))
    | .badStart => some (report 1 "invalid start byte")
    | .badNext sound => some (report sound "invalid continuation byte")
    | .cut => some (report (others.length + 1) "unexpected end of data")

/-- What is wrong with bytes that are not UTF-8. -/
def flaw? (bytes : List UInt8) : Option String :=
  (flawFrom 0 bytes.length bytes).map fun flaw => "'utf-8' codec can't decode " ++ flaw

end Encoding

end ShotRecorder
