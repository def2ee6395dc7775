import ShotRecorder.Complaint
import ShotRecorder.Event.Basic
import ShotRecorder.Json.Reader

/-!
# Reading events

Events from JSON values. The fields of a kind are checked in their order, and members that are no
field are complained about last. A producer's event names its kind itself, in the member `type`.
-/

namespace ShotRecorder

/-- The nesting that a JSON text of events may have. -/
def maxDepth : Nat := 200

/-- The kind that a tag names, among some kinds. -/
def Kind.ofTag? (kinds : List Kind) : Json → Option Kind
  | .string name => Kind.ofName? kinds name
  | _ => none

namespace Event

/-- The names of a kind's fields. -/
def fieldNames : Kind → List String
  | .message => ["type", "text"]
  | .snapshot => ["type", "state", "rendered_form"]
  | .result => ["type", "success", "value"]
  | .refresh => ["type"]

/-- The fields of an event of a known kind. -/
def ofFields (form : Form) (kind : Kind) (path : Path) (members : Members) : Checked Event :=
  match kind with
  | .message => message <$> Field.required Field.string "text" path members
  | .snapshot =>
    snapshot <$> Field.optional (Field.state form) "state" [] path members
      <*> Field.optional Field.optionalString "rendered_form" none path members
  | .result =>
    result <$> Field.required Field.bool "success" path members
      <*> Field.required Field.string "value" path members
  | .refresh => pure refresh

/-- An event of a known kind from the members of an object. -/
def ofMembers (form : Form) (kind : Kind) (path : Path) (members : Members) : Checked Event :=
  (fun () e () => e) <$> Field.optional (Field.exactly kind.name) "type" () path members
    <*> ofFields form kind path members
    <*> Field.noOthers (fieldNames kind) path members

/-- A producer's event; its place gets the kind's name as a further step. -/
def ofJson (form : Form) (path : Path) (v : Json) : Checked Event :=
  match v with
  | .object members =>
    match v.get? "type" with
    | none => .fail .noTag path v
    | some tag =>
      match Kind.ofTag? Kind.producers tag with
      | some kind => ofMembers form kind (path ++ [.key kind.name]) members
      | none => .fail (.unknownTag tag.plain (Kind.producers.map Kind.name)) path v
  | other => .fail (.notObject form) path other

/-- A list of producers' events. -/
def listOfJson (form : Form) (path : Path) (v : Json) : Checked (List Event) :=
  match v with
  | .array items => Checked.each (fun i item => ofJson form (path ++ [.index i]) item) 0 items
  | other => .fail (.notList form) path other

end Event

/-- What a JSON text denotes, checked; a text that denotes nothing has one complaint. -/
def Checked.ofText {α : Type} (check : Path → Json → Checked α) (text : List Char) : Checked α :=
  match Json.read maxDepth text with
  | .ok v => check [] v
  | .error _ => .fail (.badJson none) [] (.string (String.ofList text))

end ShotRecorder
