import ShotRecorder.Event.Reading
import ShotRecorder.Fault
import ShotRecorder.Text.Lines

/-!
# Event files

A file holds the events of a producer, either as one JSON array or as one event a line. What is
before the first character that is not blank does not count in telling the two apart, and blank
lines hold no event. The first line that holds no valid event is the fault of the whole file.
-/

namespace ShotRecorder.Event

/-- An event of the named kind, with the given fields. -/
def make (kind : Json) (fields : Members) : Except Fault Event :=
  if (fields.get? "kind").isSome then .error .kindTwice
  else match kind with
  | .array _ | .object _ => .error (.structuredKind kind)
  | _ =>
    match Kind.ofTag? Kind.all kind with
    | some kind => (ofMembers .value kind [] fields).orFault
    | none => .error (.unknownKind kind)

/-- Giving a name of an event a value. For a field this is refused, since events do not change.
Names that start with a low line stand for no fields; most of them may be given any value, which
does not change the event. -/
def assign (_ : Event) (name : String) (value : Json) : Except Fault Unit :=
  if !"_".isPrefixOf name || name = "__root__" then
    .error (.invalid [{ problem := .frozen, path := [.key name], input := value }])
  else match name, value with
    | "__class__", _ => .error (.notClass value)
    | "__dict__", .object _ => .ok ()
    | "__dict__", _ => .error (.notMembers value)
    | "__weakref__", _ | "__fields_set__", _ => .error .missingPart
    | _, _ => .ok ()

/-- Whether a text is to be read as one array. -/
def isArrayText (cs : List Char) : Bool := (cs.dropWhile Blank.isBlank).head? == some '['

/-- The lines of a text that hold something. -/
def filledLines (cs : List Char) : List (List Char) :=
  (Lines.split cs).filter fun line => !line.all Blank.isBlank

/-- The events of a text whose line ends are line feeds. -/
def listOfText (cs : List Char) : Except Fault (List Event) :=
  if isArrayText cs then (Checked.ofText (listOfJson .text) cs).orFault
  else (filledLines cs).mapM fun line => (Checked.ofText (ofJson .text) line).orFault

/-- The events of a file. -/
def listOfFile (bytes : ByteArray) : Except Fault (List Event) :=
  match Encoding.textOf bytes with
  | .ok text => listOfText (Lines.unify text.toList)
  | .error fault => .error fault

end ShotRecorder.Event
