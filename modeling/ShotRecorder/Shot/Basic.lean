import ShotRecorder.Event.Reading

/-!
# Shots

The record of one shot: what was observed while it ran, and its outcome. A shot that has not ended
keeps the outcome of no success and no result.
-/

namespace ShotRecorder

/-- Something observed during a shot. -/
inductive Entry where
  | message (text : String)
  | snapshot (state : Members) (rendered : Option String)

/-- The record of a shot. -/
structure Shot where
  entries : List Entry := []
  success : Bool := false
  result : String := ""

namespace Entry

/-- The text of a message. -/
def text? : Entry → Option String
  | message text => some text
  | snapshot _ _ => none

/-- Whether the entry is a snapshot. -/
def isSnapshot : Entry → Bool
  | message _ => false
  | snapshot _ _ => true

/-- An entry written out. -/
def toJson : Entry → Json
  | message text => .object [("type", .string Kind.message.name), ("message", .string text)]
  | snapshot state rendered =>
    (Json.object [("type", .string Kind.snapshot.name), ("state", .object state),
      ("rendered_form", (rendered.map Json.string).getD .null)]).writable

/-- The kinds of events that leave an entry. -/
def kinds : List Kind := [.message, .snapshot]

/-- The entry that an event of a kind leaves, from the members of an object. -/
def ofMembers (form : Form) (kind : Kind) (path : Path) (members : Members) : Checked Entry :=
  match kind with
  | .message => message <$> Field.required Field.string "message" path members
  | _ =>
    snapshot <$> Field.optional (Field.state form) "state" [] path members
      <*> Field.optional Field.optionalString "rendered_form" none path members

/-- An entry from a JSON value; members that are no field are passed over. -/
def ofJson (form : Form) (path : Path) (v : Json) : Checked Entry :=
  match v with
  | .object members =>
    match v.get? "type" with
    | none => .fail .noTag path v
    | some tag =>
      match Kind.ofTag? kinds tag with
      | some kind => ofMembers form kind (path ++ [.key kind.name]) members
      | none => .fail (.unknownTag tag.plain (kinds.map Kind.name)) path v
  | other => .fail (.notObject form) path other

/-- A list of entries. -/
def listOfJson (form : Form) (path : Path) (v : Json) : Checked (List Entry) :=
  match v with
  | .array items => Checked.each (fun i item => ofJson form (path ++ [.index i]) item) 0 items
  | other => .fail (.notList form) path other

end Entry

namespace Shot

/-- The texts of the messages, in order. -/
def messages (s : Shot) : List String := s.entries.filterMap Entry.text?

/-- How many snapshots were observed. -/
def snapshotCount (s : Shot) : Nat := s.entries.countP Entry.isSnapshot

/-- A shot written out. -/
def toJson (s : Shot) : Json :=
  .object [("sub_events", .array (s.entries.map Entry.toJson)), ("success", .bool s.success),
    ("result", .string s.result)]

/-- The text of a file with the records of shots. -/
def fileText (shots : List Shot) : String := (Json.array (shots.map toJson)).indented ++ "\n"

/-- A shot from a JSON value; members that are no field are passed over. -/
def ofJson (form : Form) (path : Path) (v : Json) : Checked Shot :=
  match v with
  | .object members =>
    Shot.mk <$> Field.optional (Entry.listOfJson form) "sub_events" [] path members
      <*> Field.optional Field.bool "success" false path members
      <*> Field.optional Field.string "result" "" path members
  | other => .fail (.notRecord form) path other

end Shot

end ShotRecorder
