import ShotRecorder.Text.Blank
import ShotRecorder.Text.Lines

/-!
# Variable files

Files of lines `NAME=value`. A line may start with `export`, hold a comment, and put its value in
quotes, inside which a value may go over several lines. A value may refer to variables as
`${NAME}`, or `${NAME:-default}`. A name that stands alone is mentioned, but has no value. A line
that fits none of this is passed over, from where it stops to fit.
-/

namespace ShotRecorder.VariableFile

/-- Named values in order; a name stands once. -/
abbrev Variables := List (String × String)

/-- The names in a file, with the values of those that have one. -/
abbrev Entries := List (String × Option String)

/-- A name given a value: in its old place, or at the end. -/
def put {α : Type} : List (String × α) → String → α → List (String × α)
  | [], name, value => [(name, value)]
  | (n, v) :: rest, name, value =>
    if n = name then (n, value) :: rest else (n, v) :: put rest name value

/-- A blank that does not end a line. -/
def isInlineBlank (c : Char) : Bool := Blank.isBlank c && c != '\n'

/-- The text from the next line on. -/
def nextLine (cs : List Char) : List Char := (cs.dropWhile (· != '\n')).drop 1

/-- What was read at the front of a text and what follows it, or the text from where it stopped to
fit. -/
abbrev Found (α : Type) := Except (List Char) (α × List Char)

/-- What a letter behind a backslash stands for in double quotes. -/
def doubleEscape? : Char → Option Char
  | '\\' => some '\\'
  | '\'' => some '\''
  | '"' => some '"'
  | 'a' => some '\x07'
  | 'b' => some '\x08'
  | 'f' => some '\x0c'
  | 'n' => some '\n'
  | 'r' => some '\r'
  | 't' => some '\t'
  | 'v' => some '\x0b'
  | _ => none

/-- What a letter behind a backslash stands for in single quotes. -/
def singleEscape? : Char → Option Char
  | '\\' => some '\\'
  | '\'' => some '\''
  | _ => none

/-- Escapes replaced by what they stand for. -/
def unescape (meaning : Char → Option Char) : List Char → List Char
  | '\\' :: c :: rest =>
    match meaning c with
    | some m => m :: unescape meaning rest
    | none => '\\' :: unescape meaning (c :: rest)
  | c :: rest => c :: unescape meaning rest
  | [] => []

/-- The text up to a closing quote, and what follows it. A backslash keeps the quote or the
backslash behind it, unless no other quote is left to close the text. -/
def untilQuote? (quote : Char) (cs : List Char) : Option (List Char × List Char) :=
  match cs with
  | [] => none
  | '\\' :: c :: rest =>
    if c = quote || c = '\\' then
      match untilQuote? quote rest with
      | some (text, rest) => some ('\\' :: c :: text, rest)
      | none => if c = quote then some (['\\'], rest) else none
    else (untilQuote? quote (c :: rest)).map fun (text, rest) => ('\\' :: text, rest)
  | c :: rest =>
    if c = quote then some ([], rest)
    else (untilQuote? quote rest).map fun (text, rest) => (c :: text, rest)
termination_by cs.length

/-- A value without quotes: a comment behind a blank is dropped. -/
def dropComment : List Char → List Char
  | [] => []
  | c :: rest =>
    if Blank.isBlank c && (rest.dropWhile Blank.isBlank).head? == some '#' then []
    else c :: dropComment rest

/-- The value in quotes whose text follows the first of them. -/
def quotedAt (quote : Char) (meaning : Char → Option Char) (cs : List Char) : Found (List Char) :=
  match untilQuote? quote cs with
  | some (text, rest) => .ok (unescape meaning text, rest)
  | none => .error (quote :: cs)

/-- The value behind an equals sign, and what follows it. -/
def valueAt (cs : List Char) : Found (List Char) :=
  match cs.dropWhile isInlineBlank with
  | '\'' :: rest => quotedAt '\'' singleEscape? rest
  | '"' :: rest => quotedAt '"' doubleEscape? rest
  | _ =>
    let line := cs.takeWhile (· != '\n')
    .ok (Blank.trim Blank.isBlank (dropComment line), cs.drop line.length)

/-- The text behind the word `export` and its blanks, if the text starts with them. -/
def skipExport (cs : List Char) : List Char :=
  let rest := cs.drop 6
  if "export".toList.isPrefixOf cs && (rest.head?.any isInlineBlank) then
    rest.dropWhile isInlineBlank
  else cs

/-- A character of a name that stands without quotes. -/
def isNamePart (c : Char) : Bool := c != '=' && c != '#' && !Blank.isBlank c

/-- The name at the front of a text, and what follows it. -/
def nameAt (cs : List Char) : Found (List Char) :=
  match cs with
  | '\'' :: rest =>
    match rest.takeWhile (· != '\''), rest.dropWhile (· != '\'') with
    | c :: name, _ :: rest => .ok (c :: name, rest)
    | _, _ => .error cs
  | _ =>
    match cs.takeWhile isNamePart with
    | [] => .error cs
    | name => .ok (name, cs.dropWhile isNamePart)

/-- What may end a line: blanks and a comment. -/
def lineEnd (cs : List Char) : Except (List Char) (List Char) :=
  match cs.dropWhile isInlineBlank with
  | [] => .ok []
  | c :: rest => if c = '\n' then .ok rest else if c = '#' then .ok (nextLine rest) else .error cs

/-- A line: its name, its value if it has one, and the text behind it. -/
def bindingAt (cs : List Char) :
    Except (List Char) ((List Char × Option (List Char)) × List Char) := do
  let (name, rest) ← nameAt (skipExport cs)
  let (value, rest) ← match rest.dropWhile isInlineBlank with
    | '=' :: rest => (valueAt rest).map fun (value, rest) => (some value, rest)
    | rest => .ok (none, rest)
  pure ((name, value), ← lineEnd rest)

/-- The names of a text, line by line, with the values of those that have one. -/
def bindings : (fuel : Nat) → List Char → List (List Char × Option (List Char))
  | 0, _ => []
  | fuel + 1, cs =>
    match cs.dropWhile Blank.isBlank with
    | [] => []
    | c :: rest =>
      match bindingAt (c :: rest) with
      | .ok (binding, rest) => binding :: bindings fuel rest
      | .error rest => bindings fuel (nextLine rest)

/-- References replaced by values; an unknown variable stands for its default, or for nothing, and
one that was only mentioned stands for nothing. -/
def expand (look : String → Option (Option String)) : (fuel : Nat) → List Char → List Char
  | 0, cs => cs
  | _, [] => []
  | fuel + 1, '$' :: '{' :: rest =>
    let name := rest.takeWhile fun c => c != '}' && c != ':'
    let value := fun default =>
      match look (String.ofList name) with
      | some value => (value.getD "").toList
      | none => default
    match rest.drop name.length with
    | '}' :: after => value [] ++ expand look fuel after
    | ':' :: '-' :: more =>
      let default := more.takeWhile (· != '}')
      match more.drop default.length with
      | _ :: after => value default ++ expand look fuel after
      | [] => '$' :: expand look fuel ('{' :: rest)
    | _ => '$' :: expand look fuel ('{' :: rest)
  | fuel + 1, c :: rest => c :: expand look fuel rest

/-- The mark that a text may start with. -/
def mark : Char := '\uFEFF'

/-- The entries of a file. References see the outer variables and the lines before; of two values
for one name the file's counts if `fileFirst`, else the outer one. -/
def read (outer : Variables) (fileFirst : Bool) (text : String) : Entries :=
  let cs := Lines.unify text.toList
  let cs := if cs.head? == some mark then cs.drop 1 else cs
  (bindings (cs.length + 1) cs).foldl (fun found (name, value) =>
    let outside := fun name => (outer.lookup name).map some
    let look := fun name =>
      if fileFirst then (found.lookup name).or (outside name)
      else (outside name).or (found.lookup name)
    let value := value.map fun cs => String.ofList (expand look (cs.length + 1) cs)
    put found (String.ofList name) value) []

end ShotRecorder.VariableFile
