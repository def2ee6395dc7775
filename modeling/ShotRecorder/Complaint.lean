import ShotRecorder.Json.Shown

/-!
# Complaints about values

What can be wrong with a value that was handed in, and where. A check does not stop at the first
complaint: `Checked` gathers those of all parts, in order.
-/

namespace ShotRecorder

/-- A step from a value into one of its parts. -/
inductive Step where
  | key (name : String)
  | index (place : Nat)
  deriving DecidableEq, Repr

/-- A place within a value. -/
abbrev Path := List Step

/-- How a value was handed in: as a JSON text, or already read. The wording depends on it. -/
inductive Form where
  | text
  | value
  deriving DecidableEq, Repr

/-- What is wrong with a value. -/
inductive Problem where
  | badJson (flaw : Option String)
  | missing
  | extra
  | notString
  /-- A text that has no encoding. -/
  | notUnicode
  | unclearBool
  | notBool
  | notState (form : Form)
  | notList (form : Form)
  | notObject (form : Form)
  | notRecord (form : Form)
  | noTag
  | unknownTag (tag : String) (expected : List String)
  | notOneOf (expected : List String)
  | frozen
  | unclearInt
  | notInt
  | fractional
  | hugeInt
  | notFinite
  | negative
  | refused (reason : String)
  deriving DecidableEq, Repr

/-- A problem, its place, and the value found there. -/
structure Complaint where
  problem : Problem
  path : Path
  input : Json

namespace Problem

/-- The name of a problem, stable over wordings. -/
def code : Problem → String
  | badJson _ => "json_invalid"
  | missing => "missing"
  | extra => "extra_forbidden"
  | notString => "string_type"
  | notUnicode => "string_unicode"
  | unclearBool => "bool_parsing"
  | notBool => "bool_type"
  | notState _ => "dict_type"
  | notList _ => "list_type"
  | notObject .text => "dict_type"
  | notObject .value => "model_attributes_type"
  | notRecord _ => "model_type"
  | noTag => "union_tag_not_found"
  | unknownTag _ _ => "union_tag_invalid"
  | notOneOf _ => "literal_error"
  | frozen => "frozen_instance"
  | unclearInt => "int_parsing"
  | notInt => "int_type"
  | fractional => "int_from_float"
  | hugeInt => "int_parsing_size"
  | notFinite => "finite_number"
  | negative => "greater_than_equal"
  | refused _ => "value_error"

/-- Names in quotes, separated by commas. -/
def quotedNames (names : List String) : String :=
  ", ".intercalate (names.map fun name => "'" ++ name ++ "'")

/-- A choice of names: commas between them, and `or` before the last. -/
def choice : List String → String
  | [] => ""
  | [name] => "'" ++ name ++ "'"
  | names => quotedNames names.dropLast ++ " or '" ++ names.getLastD "" ++ "'"

/-- The wording of a problem. -/
def message : Problem → String
  | badJson _ => "JSON decode error"
  | missing => "Field required"
  | extra => "Extra inputs are not permitted"
  | notString => "Input should be a valid string"
  | notUnicode => "Input should be a valid string, unable to parse raw data as a unicode string"
  | unclearBool => "Input should be a valid boolean, unable to interpret input"
  | notBool => "Input should be a valid boolean"
  | notState .text | notObject .text | notRecord .text => "Input should be an object"
  | notState .value => "Input should be a valid dictionary"
  | notList .text => "Input should be a valid array"
  | notList .value => "Input should be a valid list"
  | notObject .value => "Input should be a valid dictionary or object to extract fields from"
  | notRecord .value => "Input should be a valid dictionary or instance of ShotRecord"
  | noTag => "Unable to extract tag using discriminator 'type'"
  | unknownTag tag expected =>
    "Input tag '" ++ tag ++ "' found using 'type' does not match any of the expected tags: " ++
      quotedNames expected
  | notOneOf expected => "Input should be " ++ choice expected
  | frozen => "Instance is frozen"
  | unclearInt => "Input should be a valid integer, unable to parse string as an integer"
  | notInt => "Input should be a valid integer"
  | fractional => "Input should be a valid integer, got a number with a fractional part"
  | hugeInt => "Unable to parse input string as an integer, exceeded maximum size"
  | notFinite => "Input should be a finite number"
  | negative => "Input should be greater than or equal to 0"
  | refused reason => "Value error, " ++ reason

end Problem

/-- The outcome of a check: a value, or at least one complaint. -/
def Checked (α : Type) : Type := Except (List Complaint) α

namespace Checked

variable {α β : Type}

/-- The complaints of an outcome. -/
def complaints : Checked α → List Complaint
  | .ok _ => []
  | .error found => found

/-- Nothing to complain about. -/
def pass (a : α) : Checked α := Except.ok a

/-- A single complaint. -/
def fail (problem : Problem) (path : Path) (input : Json) : Checked α :=
  Except.error [{ problem, path, input }]

/-- The outcome as an exception. -/
def toExcept (c : Checked α) : Except (List Complaint) α := c

/-- Two checks, both made: the complaints of the first come before those of the second. -/
def apply (f : Checked (α → β)) (a : Checked α) : Checked β :=
  match f, a with
  | .ok f, .ok a => .ok (f a)
  | .error found, .ok _ => .error found
  | .ok _, .error found => .error found
  | .error first, .error second => .error (first ++ second)

instance : Applicative Checked where
  pure := pass
  seq f a := apply f (a ())
  map f a := apply (pass f) a

/-- The complaints about a value, if it breaks a rule. -/
def unlessAny (found : List Complaint) : Checked Unit :=
  if found.isEmpty then Except.ok () else Except.error found

/-- A check of every item, each told its place from `start` on. -/
def each (check : Nat → Json → Checked α) : (start : Nat) → List Json → Checked (List α)
  | _, [] => pass []
  | start, item :: rest =>
    apply (apply (pass List.cons) (check start item)) (each check (start + 1) rest)

end Checked

/-! ### Fields -/

namespace Field

/-- A text. -/
def string (path : Path) : Json → Checked String
  | .string s => .pass s
  | other => .fail .notString path other

/-- A text or null. -/
def optionalString (path : Path) : Json → Checked (Option String)
  | .null => .pass none
  | .string s => .pass (some s)
  | other => .fail .notString path other

/-- The words that mean true, in small letters. -/
def trueWords : List String := ["1", "on", "t", "true", "y", "yes"]

/-- The words that mean false, in small letters. -/
def falseWords : List String := ["0", "off", "f", "false", "n", "no"]

/-- Whole numbers of 64 bits with a sign. -/
def isInt64 (n : Int) : Bool :=
  -(Decimal.twoTo 63 : Int) ≤ n && n < Decimal.twoTo 63

/-- A truth value: itself, zero or one in either form, or a word in any case. -/
def bool (path : Path) (v : Json) : Checked Bool :=
  match v with
  | .bool b => .pass b
  | .string s =>
    let word := s.toLower
    if trueWords.contains word then .pass true
    else if falseWords.contains word then .pass false
    else .fail .unclearBool path v
  | .number (.int n) =>
    if n = 0 then .pass false
    else if n = 1 then .pass true
    else if isInt64 n then .fail .unclearBool path v
    else .fail .notBool path v
  | .number (.float x) =>
    if x == 0.0 then .pass false
    else if x == 1.0 then .pass true
    else .fail .notBool path v
  | other => .fail .notBool path other

/-- The members of an object. -/
def state (form : Form) (path : Path) : Json → Checked Members
  | .object members => .pass members
  | other => .fail (.notState form) path other

/-- A field that must be there. -/
def required {α : Type} (check : Path → Json → Checked α) (name : String) (path : Path)
    (members : Members) : Checked α :=
  match members.get? name with
  | some v => check (path ++ [.key name]) v
  | none => .fail .missing (path ++ [.key name]) (.object members)

/-- A field with a value to take where it is not there. -/
def optional {α : Type} (check : Path → Json → Checked α) (name : String) (absent : α)
    (path : Path) (members : Members) : Checked α :=
  match members.get? name with
  | some v => check (path ++ [.key name]) v
  | none => .pass absent

/-- One fixed text. -/
def exactly (text : String) (path : Path) (v : Json) : Checked Unit :=
  match v with
  | .string s => if s = text then .pass () else .fail (.notOneOf [text]) path v
  | _ => .fail (.notOneOf [text]) path v

/-- No members but those with the given names. -/
def noOthers (names : List String) (path : Path) (members : Members) : Checked Unit :=
  .unlessAny <| (members.filter fun (name, _) => !names.contains name).map fun (name, v) =>
    { problem := .extra, path := path ++ [.key name], input := v }

end Field

end ShotRecorder
