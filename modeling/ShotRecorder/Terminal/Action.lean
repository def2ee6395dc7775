import ShotRecorder.Fault
import ShotRecorder.Text.Blank
import ShotRecorder.Text.Small

/-!
# Actions

A tag may name what happens on a click, with parameters: a call of a function, or values alone. The
parameters must be plain values: numbers, texts in quotes, the three words for values, and brackets
with such values between commas. What is wrong with others is told, first of all what is wrong with
their brackets and quotes.
-/

namespace ShotRecorder.Terminal.Action

/-- What can be wrong with parameters. -/
inductive Flaw where
  /-- A bracket that closes nothing. -/
  | unmatched (bracket : Char)
  /-- A bracket that closes another than was opened last. -/
  | mismatched (closing opening : Char)
  | unclosed (bracket : Char)
  | openText
  | badNumber
  | leadingZero
  /-- Two values without a comma between them. -/
  | noComma
  /-- A key without a colon, among others that have one. -/
  | noColon
  /-- A key without a value. -/
  | noValue
  | unclear
  /-- An expression whose value would have to be computed. -/
  | notPlain
  deriving DecidableEq, Repr

/-- The wording of a flaw. -/
def Flaw.message : Flaw → String
  | unmatched bracket => "unmatched '" ++ bracket.toString ++ "'"
  | mismatched closing opening =>
    "closing parenthesis '" ++ closing.toString ++ "' does not match opening parenthesis '" ++
      opening.toString ++ "'"
  | unclosed bracket => "'" ++ bracket.toString ++ "' was never closed"
  | openText => "unterminated string literal (detected at line 1)"
  | badNumber => "invalid decimal literal"
  | leadingZero =>
    "leading zeros in decimal integer literals are not permitted; " ++
      "use an 0o prefix for octal integers"
  | noComma => "invalid syntax. Perhaps you forgot a comma?"
  | noColon => "':' expected after dictionary key"
  | noValue => "expression expected after dictionary key and ':'"
  | unclear => "invalid syntax"
  | notPlain => "malformed node or string on line 1"

/-! ### Words and signs -/

/-- A word, a sign or a text in quotes. -/
inductive Token where
  | opening (bracket : Char)
  | closing
  | comma
  | colon
  /-- A sign in front of a number. -/
  | sign
  /-- A sign between two values. -/
  | operator
  | word (cs : List Char)
  | text
  /-- A sign that has no place in an expression. -/
  | stray

/-- A character of a name or a number. -/
def isWordChar (c : Char) : Bool :=
  Digits.isDigit c || ('a' ≤ c && c ≤ 'z') || ('A' ≤ c && c ≤ 'Z') || c = '_' || c = '.' ||
    (0x80 ≤ c.toNat && !Blank.isBlank c)

/-- What is wrong with a word that starts as a number. -/
def numberFlaw? (cs : List Char) : Option Flaw :=
  let (digits, rest) := Digits.span cs
  match digits, rest with
  | [], _ => none
  | '0' :: _ :: _, [] => if digits.any (· != '0') then some .leadingZero else none
  | _, [] => none
  | '0' :: _ :: _, c :: _ => if "._eEjJ".toList.contains c then none else some .leadingZero
  | digits, [c] =>
    if c = '.' || c = 'j' || c = 'J' then none
    else if digits = ['0'] && "xXoObB".toList.contains c then some .unclear
    else some .badNumber
  | digits, c :: _ =>
    if "._eE".toList.contains c || digits = ['0'] && "xXoObB".toList.contains c then none
    else some .badNumber

/-- What stands behind a text in quotes, read behind the opening quote. -/
def behindText? (quote : Char) : List Char → Option (List Char)
  | [] => none
  | ['\\'] => none
  | '\\' :: _ :: rest => behindText? quote rest
  | c :: rest => if c = quote then some rest else if c = '\n' then none else behindText? quote rest

/-- The bracket that closes another. -/
def closingOf (opening : Char) : Char := if opening = '(' then ')' else '}'

/-- At most so many words and signs, with the brackets that are left open, the last in front. -/
def tokens : (fuel : Nat) → (opened : List Char) → List Char →
    Except Flaw (List Token × List Char)
  | 0, opened, _ => .ok ([], opened)
  | _, opened, [] => .ok ([], opened)
  | fuel + 1, opened, c :: rest =>
    let further := fun token opened rest =>
      (tokens fuel opened rest).map fun (found, opened) => (token :: found, opened)
    if Blank.isBlank c then tokens fuel opened rest
    else if c = '#' then .ok ([], opened)
    else if c = '(' || c = '{' then further (.opening c) (c :: opened) rest
    else if c = ')' || c = '}' then
      match opened with
      | [] => .error (.unmatched c)
      | last :: opened =>
        if closingOf last = c then further .closing opened rest else .error (.mismatched c last)
    else if c = '\'' || c = '"' then
      match behindText? c rest with
      | some rest => further .text opened rest
      | none => .error .openText
    else if c = ',' then further .comma opened rest
    else if c = ':' then further .colon opened rest
    else if c = '+' || c = '-' then further .sign opened rest
    else if "*/%@&|^<>".toList.contains c then further .operator opened rest
    else if isWordChar c then
      let word := c :: rest.takeWhile isWordChar
      let rest := rest.drop (word.length - 1)
      match numberFlaw? word with
      | some flaw => .error flaw
      | none =>
        let isStray := word.all (· == '.') && word.length != 3
        further (if isStray then .stray else .word word) opened rest
    else further .stray opened rest

/-! ### Values -/

/-- What stands before a word or sign. -/
inductive Before where
  | start
  | comma
  | colon
  | sign
  /-- A value. -/
  | value
  | text
  deriving DecidableEq, Repr

/-- Whether a word is a value by itself. -/
def isPlainWord (cs : List Char) : Bool :=
  ["None", "True", "False", "..."].contains (String.ofList cs) ||
    (cs.dropWhile (· == '.')).head?.any Digits.isDigit

/-- Whether a value stands before. -/
def Before.isValue (b : Before) : Bool := b = .value || b = .text

/-- What brackets hold as far as they are read. -/
inductive Inside where
  | round
  /-- Values or keys, as a comma or a colon behind the first will tell. -/
  | braces
  | values
  /-- Keys with values, and whether the last key has its colon. -/
  | keys (hasColon : Bool)
  deriving DecidableEq, Repr

namespace Inside

/-- What brackets hold that have just been opened. -/
def ofBracket (bracket : Char) : Inside := if bracket = '(' then round else braces

/-- Brackets with a comma behind a value. -/
def comma : Inside → Except Flaw Inside
  | round => .ok round
  | braces | values => .ok values
  | keys true => .ok (keys false)
  | keys false => .error .noColon

/-- Brackets with a colon behind a value. -/
def colon : Inside → Except Flaw Inside
  | braces | keys false => .ok (keys true)
  | round | values | keys true => .error .unclear

end Inside

/-- What is wrong where a text ends, or where two values stand side by side: a bracket that is left
open, if there is one. -/
def openFlaw (opened : List Char) (otherwise : Flaw) : Flaw :=
  match opened with
  | bracket :: _ => .unclosed bracket
  | [] => otherwise

/-- What is wrong with the order of words and signs inside of brackets, the last of them in front,
some of which are left open in the end; so far all was plain or not. -/
def orderFlaw? (opened : List Char) :
    List Inside → (isPlain : Bool) → Before → List Token → Option Flaw
  | _, isPlain, before, [] =>
    if !opened.isEmpty || before = .start || before = .sign || before = .colon then
      some (openFlaw opened .unclear)
    else if isPlain then none
    else some .notPlain
  | around, isPlain, before, token :: rest =>
    let apart := if around.isEmpty then .unclear else openFlaw opened .noComma
    match token with
    | .opening bracket =>
      orderFlaw? opened (.ofBracket bracket :: around) (isPlain && !before.isValue) .start rest
    | .closing =>
      if before = .colon then some .noValue
      else if before = .sign then some .unclear
      else if before.isValue && around.head? == some (.keys false) then some .noColon
      else orderFlaw? opened (around.drop 1) isPlain .value rest
    | .comma | .colon =>
      if !before.isValue then some (if before = .colon then .noValue else .unclear)
      else
        let isComma := token matches .comma
        let next := if isComma then Before.comma else .colon
        match around with
        | [] => if isComma then orderFlaw? opened [] isPlain next rest else some .unclear
        | inside :: outside =>
          match if isComma then inside.comma else inside.colon with
          | .ok inside => orderFlaw? opened (inside :: outside) isPlain next rest
          | .error flaw => some flaw
    | .sign => orderFlaw? opened around (isPlain && !before.isValue && before != .sign) .sign rest
    | .operator =>
      if before.isValue then orderFlaw? opened around false .sign rest else some .unclear
    | .stray => some .unclear
    | .text => if before = .value then some apart else orderFlaw? opened around isPlain .text rest
    | .word cs =>
      if before.isValue then some apart
      else orderFlaw? opened around (isPlain && isPlainWord cs) .value rest

/-- What is wrong with parameters. -/
def flaw? (cs : List Char) : Option Flaw :=
  match tokens (cs.length + 1) [] cs with
  | .error flaw => some flaw
  | .ok (found, opened) => orderFlaw? opened [] true .start found

/-- The parameters of a call: what stands in brackets behind a name, or nothing behind it. -/
def parametersOf (cs : List Char) : List Char :=
  let rest := cs.dropWhile isWordChar
  if rest.isEmpty then ['(', ')']
  else if rest.head? == some '(' && rest.getLast? == some ')' && !rest.contains '\n' then rest
  else cs

/-- Parameters of a tag, if all is well with them. -/
def check (whole : List Char) : Except Fault Unit :=
  let cs := parametersOf (Blank.trim Blank.isBlank whole)
  match flaw? cs with
  | none => .ok ()
  | some .notPlain => .error (.notPlain (String.ofList whole) Flaw.notPlain.message)
  | some flaw => .error (.badAction (String.ofList cs) (String.ofList whole) flaw.message)

end ShotRecorder.Terminal.Action
