import ShotRecorder.Text.Blank
import ShotRecorder.Text.Digits

/-!
# Whole numbers as people write them

A whole number in ASCII digits, with some freedom: blanks around it, a plus sign in front, zeros in
front, single underscores between its digits, and a fraction of zeros. What remains without these is
a number in its plain form: a minus sign or none, and digits that do not start with a zero, unless
it is the only one.
-/

namespace ShotRecorder.Integer

/-- Why a text is not read as a whole number. -/
inductive Flaw where
  | unclear
  | tooLong
  deriving DecidableEq, Repr

/-- The most characters that a number may have in its plain form. -/
def maxLength : Nat := 4300

/-- The digits of a plain form without its sign, as a number of at most `limit` digits. -/
def magnitude (limit : Nat) (cs : List Char) : Except Flaw Nat :=
  let (ds, rest) := Digits.span cs
  match ds, rest with
  | ['0'], [] => .ok 0
  | [], _ | '0' :: _, _ => .error .unclear
  | ds, rest =>
    if limit < ds.length then .error .tooLong
    else if rest.isEmpty then .ok (Digits.value ds)
    else .error .unclear

/-- A number in its plain form. -/
def plain : List Char → Except Flaw Int
  | '-' :: rest => (magnitude (maxLength - 1) rest).map fun n => -(n : Int)
  | cs => (magnitude maxLength cs).map Int.ofNat

/-- A text whose leading zeros, and the underscores among them, are dropped. If nothing else stands
there, or a point follows, the last of them is kept. A minus sign behind zeros starts the number. -/
def dropZerosFrom (last : Char) : List Char → Option (List Char)
  | [] => some [last]
  | c :: rest =>
    if c = '0' || c = '_' then dropZerosFrom c rest
    else if c = '-' || Digits.isDigit c then some (c :: rest)
    else if c = '.' then some (last :: c :: rest)
    else none

/-- A text without leading zeros, if it starts with a digit or a minus sign. -/
def dropZeros : List Char → Option (List Char)
  | [] => none
  | '0' :: rest => dropZerosFrom '0' rest
  | c :: rest => if c = '-' || Digits.isDigit c then some (c :: rest) else none

/-- A text without a fraction of zeros. -/
def dropFraction (cs : List Char) : List Char :=
  let whole := cs.takeWhile (· != '.')
  match cs.drop whole.length with
  | _ :: c :: zeros => if (c :: zeros).all (· == '0') then whole else cs
  | _ => cs

/-- Whether an underscore stands at the end, or in front of another. -/
def hasLooseUnderscore : List Char → Bool
  | [] => false
  | '_' :: rest => rest.isEmpty || rest.head? == some '_' || hasLooseUnderscore rest
  | _ :: rest => hasLooseUnderscore rest

/-- A text without its underscores, if each stands between two other characters. -/
def dropUnderscores (cs : List Char) : List Char :=
  if cs.head? == some '_' || hasLooseUnderscore cs then cs else cs.filter (· != '_')

/-- The number that a text stands for. -/
def read (cs : List Char) : Except Flaw Int :=
  let trimmed := Blank.trim Blank.isWhiteSpace cs
  let unsigned := if trimmed.head? == some '+' then trimmed.drop 1 else trimmed
  match dropZeros unsigned with
  | some rest => plain (dropUnderscores (dropFraction rest))
  | none => .error .unclear

end ShotRecorder.Integer
