import ShotRecorder.Complaint
import ShotRecorder.Text.Encoding
import ShotRecorder.Text.Numeral

/-!
# Faults

Why an operation ends without an answer. Each fault is a cause with its data; the wording of all of
them is in one place. An ordinary fault of an observer stays with that observer; an interrupt, and
a run that could not be finished, end everything.
-/

namespace ShotRecorder

/-- How far a fault thrown by an observer reaches, and whose mistake it is. -/
inductive Severity where
  /-- A value was refused. -/
  | value
  /-- The system refused: the first two details are its number and its words, the third and the
  fifth tell what it is about. -/
  | system
  /-- Any other ordinary fault. -/
  | general
  /-- Not to be held up by anybody. -/
  | interrupt
  deriving DecidableEq, Repr

/-- Why a level could not be read. -/
inductive LevelFault where
  | truth (value : Bool)
  | outOfScale (n : Int)
  | unknown (value : Json)
  /-- Digits that form no number. -/
  | noNumber (why : Numeral.Flaw)

/-- Why an operation ended without an answer. -/
inductive Fault where
  | invalid (complaints : List Complaint)
  | unknownKind (kind : Json)
  /-- A list or an object where a kind's name was expected. -/
  | structuredKind (kind : Json)
  /-- Among the fields of an event stood its kind, which is told apart from them. -/
  | kindTwice
  /-- What an event is an instance of was to be replaced. -/
  | notClass (value : Json)
  /-- All that belongs to an event was to be replaced by something that has no members. -/
  | notMembers (value : Json)
  | level (why : LevelFault)
  /-- Digits that form no number. -/
  | noNumber (why : Numeral.Flaw)
  | negativeDelay (delay : String)
  /-- A timer was asked for a loop's time while no loop was running. -/
  | noLoop
  /-- A part was used that is not there, or that cannot be given a value. -/
  | missingPart
  | missingKey (key : Json)
  /-- The system refused, with its number and its words. -/
  | system (number : Int) (words : String)
  /-- A text that is handed to the system holds the character zero. -/
  | zeroCharacter
  /-- The name of a variable holds an equals sign. -/
  | equalsSign
  /-- A whole number beyond all numbers with a fraction. -/
  | tooLarge
  /-- Bytes that are no text, and why. -/
  | notText (flaw : String)
  /-- A value with a number that has no finite value was to be written. -/
  | notWritable
  /-- A text that has no encoding, and why. -/
  | notEncodable (flaw : String)
  /-- A tag that closes a style which is not open, and its place. -/
  | closesNothing (tag : String) (place : Nat)
  /-- A tag that closes the style opened last, where none is open, and its place. -/
  | nothingToClose (place : Nat)
  /-- The parameters of an action that cannot be read: as they are read, as they stand in the tag,
  and why. -/
  | badAction (text whole flaw : String)
  /-- The parameters of an action that hold more than plain values, and what is wrong with them. -/
  | notPlain (whole flaw : String)
  /-- Raised by an observer, under a label of its own. -/
  | thrown (label : String) (severity : Severity) (details : List Json)
  /-- Observers called each other too deep. -/
  | unfinished

namespace LevelFault

/-- The wording of a level's fault. -/
def message : LevelFault → String
  | truth value => "invalid log level: " ++ (Json.bool value).shown
  | outOfScale n => "numeric log level must be in 0..5, got " ++ (Number.int n).shown
  | unknown value => "unknown log level: " ++ value.shown
  | noNumber why => why.message

end LevelFault

namespace Fault

/-- The details of a thrown fault: one stands for itself, several are listed. -/
def detailsText : List Json → String
  | [] => ""
  | [detail] => detail.plain
  | details => "(" ++ ", ".intercalate (details.map Json.shown) ++ ")"

/-- The details of a refusal by the system: number and words, and what it is about. -/
def systemText : List Json → String
  | number :: words :: about =>
    let place := about.headD .null
    let other := about.getD 2 .null
    let text := "[Errno " ++ number.plain ++ "] " ++ words.plain
    if 3 < about.length then detailsText (number :: words :: about)
    else if place matches .null then text
    else if other matches .null then text ++ ": " ++ place.shown
    else text ++ ": " ++ place.shown ++ " -> " ++ other.shown
  | details => detailsText details

/-- The wording of a fault. -/
def message : Fault → String
  | invalid complaints => "; ".intercalate (complaints.map fun c => c.problem.message)
  | unknownKind kind => "unknown event kind: " ++ kind.shown
  | structuredKind (.array _) => "unhashable type: 'list'"
  | structuredKind _ => "unhashable type: 'dict'"
  | kindTwice => "make_event() got multiple values for argument 'kind'"
  | notClass value => "__class__ must be set to a class, not '" ++ value.typeName ++ "' object"
  | notMembers value => "__dict__ must be set to a dictionary, not a '" ++ value.typeName ++ "'"
  | level why => why.message
  | noNumber why => why.message
  | negativeDelay delay => "delay must be >= 0, got " ++ delay
  | noLoop => "no running event loop"
  | missingPart => "no such part"
  | missingKey key => key.shown
  | system number words => "[Errno " ++ (Number.int number).shown ++ "] " ++ words
  | zeroCharacter => "embedded null byte"
  | equalsSign => "illegal environment variable name"
  | tooLarge => "int too large to convert to float"
  | notText flaw | notEncodable flaw => flaw
  | notWritable => "Out of range float values are not JSON compliant"
  | closesNothing tag place =>
    "closing tag '[" ++ tag ++ "]' at position " ++ toString place ++ " doesn't match any open tag"
  | nothingToClose place =>
    "closing tag '[/]' at position " ++ toString place ++ " has nothing to close"
  | badAction text whole flaw =>
    "error parsing " ++ Quoted.encode text ++ " in " ++ Quoted.encode whole ++ "; " ++ flaw
  | notPlain whole flaw => "error parsing " ++ Quoted.encode whole ++ "; " ++ flaw
  | thrown _ .system details => systemText details
  | thrown _ _ details => detailsText details
  | unfinished => "maximum recursion depth exceeded"

/-- Whether the fault stays with the observer it occurred in. -/
def isOrdinary : Fault → Bool
  | thrown _ .interrupt _ => false
  | unfinished => false
  | _ => true

/-- Whether the fault says that a value was refused. -/
def isRefusal : Fault → Bool
  | invalid _ | unknownKind _ | level _ | noNumber _ | negativeDelay _ | zeroCharacter | equalsSign
  | notText _ | notWritable | notEncodable _ => true
  | thrown _ .value _ => true
  | _ => false

end Fault

/-- An outcome that is a list of complaints, as a fault. -/
def Checked.orFault {α : Type} (c : Checked α) : Except Fault α :=
  match c.toExcept with
  | .ok a => .ok a
  | .error found => .error (.invalid found)

/-- The text of bytes in UTF-8. -/
def Encoding.textOf (bytes : ByteArray) : Except Fault String :=
  match String.fromUTF8? bytes with
  | some text => .ok text
  | none => .error (.notText ((Encoding.flaw? bytes.toList).getD ""))

end ShotRecorder
