import ShotRecorder.Event.Basic

/-!
# The schema of events

A description of the events that producers may report, as a JSON Schema: one definition for each
kind, told apart by the member `type`.
-/

namespace ShotRecorder.Schema

/-- A list of words. -/
def words (found : List String) : Json := .array (found.map Json.string)

/-- The type of a value. -/
def ofType (name : String) : Members := [("type", .string name)]

/-- A field with a title and a description, and its shape. -/
def field (name title description : String) (shape : Members) : String × Json :=
  (name, .object (shape ++ [("description", .string description), ("title", .string title)]))

/-- The field that tells the kind. -/
def kindField (kind : Kind) : String × Json :=
  let name := Json.string kind.name
  let shape := [("const", name), ("default", name), ("title", .string "Type")]
  ("type", .object (shape ++ ofType "string"))

/-- What the events of a kind are. -/
def description : Kind → String
  | .message => "Diagnostic text emitted during a shot."
  | .snapshot => "Dump of the computation state at one point of a shot."
  | .result => "Terminal outcome of one shot."
  | .refresh => "Coalesced signal: results changed, re-read them now."

/-- The shape of a text that may be absent. -/
def optionalText : Members :=
  [("anyOf", .array [.object (ofType "string"), .object (ofType "null")]), ("default", .null)]

/-- The fields of a kind besides the kind itself. -/
def fields : Kind → Members
  | .message =>
    [field "text" "Text" "Message text as emitted by the program." (ofType "string")]
  | .snapshot =>
    [field "state" "State" "Opaque state dump, e.g. basis-state label -> amplitude."
      (("additionalProperties", .bool true) :: ofType "object"),
     field "rendered_form" "Rendered Form" "Optional pre-rendered representation (e.g. LaTeX)."
      optionalText]
  | .result =>
    [field "success" "Success" "False when the shot ended in a runtime failure." (ofType "boolean"),
     field "value" "Value" "Rendered return value, or the failure message." (ofType "string")]
  | .refresh => []

/-- The fields of a kind that must be given. -/
def required : Kind → List String
  | .message => ["text"]
  | .snapshot => []
  | .result => ["success", "value"]
  | .refresh => []

/-- The definition of a kind. -/
def definition (kind : Kind) : Json :=
  let must := required kind
  .object ([("additionalProperties", .bool false), ("description", .string (description kind)),
    ("properties", .object (kindField kind :: fields kind))] ++
    (if must.isEmpty then [] else [("required", words must)]) ++
    [("title", .string kind.title)] ++ ofType "object")

/-- Where the definition of a kind is found. -/
def reference (kind : Kind) : String := "#/$defs/" ++ kind.title

/-- The schema of the events of producers. -/
def producers : Json :=
  .object [
    ("$defs", .object (Kind.producers.map fun kind => (kind.title, definition kind))),
    ("discriminator", .object [
      ("mapping", .object (Kind.producers.map fun kind => (kind.name, .string (reference kind)))),
      ("propertyName", .string "type")]),
    ("oneOf", .array (Kind.producers.map fun kind => .object [("$ref", .string (reference kind))]))]

end ShotRecorder.Schema
