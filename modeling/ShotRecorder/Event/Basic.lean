import ShotRecorder.Json.Shown

/-!
# Events

What a producer reports while it runs its shots, and the refresh by which the recorder tells
observers that the results changed. A signal is what observers are called with: an event, or a
bare announcement of a kind.
-/

namespace ShotRecorder

/-- The kinds of events. -/
inductive Kind where
  | message
  | snapshot
  | result
  | refresh
  deriving DecidableEq, Repr

namespace Kind

/-- The name by which observers subscribe. -/
def name : Kind → String
  | message => "Message"
  | snapshot => "StateSnapshot"
  | result => "Result"
  | refresh => "ResultsRefresh"

/-- The name that the events of a kind are shown with. -/
def title : Kind → String
  | message => "MessageEvent"
  | snapshot => "StateSnapshotEvent"
  | result => "ResultEvent"
  | refresh => "ResultsRefreshEvent"

/-- The kinds that producers report; a refresh never comes from one. -/
def producers : List Kind := [message, snapshot, result]

/-- All kinds. -/
def all : List Kind := [message, snapshot, result, refresh]

/-- The kind of a name among some kinds. -/
def ofName? (kinds : List Kind) (name : String) : Option Kind := kinds.find? (·.name == name)

end Kind

/-- An event. -/
inductive Event where
  /-- Diagnostic text. -/
  | message (text : String)
  /-- A dump of the computation's state, and a rendered form of it. -/
  | snapshot (state : Members) (rendered : Option String)
  /-- The outcome of a shot, which ends it. -/
  | result (success : Bool) (value : String)
  /-- The results changed. -/
  | refresh

namespace Event

/-- The kind of an event. -/
def kind : Event → Kind
  | message _ => .message
  | snapshot _ _ => .snapshot
  | result _ _ => .result
  | refresh => .refresh

/-- The fields of an event besides its type, in order. -/
def fields : Event → Members
  | message text => [("text", .string text)]
  | snapshot state rendered =>
    [("state", .object state), ("rendered_form", (rendered.map Json.string).getD .null)]
  | result success value => [("success", .bool success), ("value", .string value)]
  | refresh => []

/-- The fields of an event with its type in front. -/
def members (e : Event) : Members := ("type", .string e.kind.name) :: e.fields

/-- An event written out. -/
def toJson (e : Event) : Json := (Json.object e.members).writable

/-- An event inside a message. -/
def shown (e : Event) : String :=
  let parts := e.members.map fun (name, v) => name ++ "=" ++ v.shown
  e.kind.title ++ "(" ++ ", ".intercalate parts ++ ")"

/-- Equal as data: of one kind, with equal fields. -/
def same (a b : Event) : Bool :=
  a.kind == b.kind && (Json.object a.fields).same (.object b.fields)

end Event

/-- What observers are called with. -/
inductive Signal where
  | event (e : Event)
  /-- An announcement that names a kind and carries nothing. -/
  | bare (kind : String)

namespace Signal

/-- The kind whose observers are called. -/
def kind : Signal → String
  | event e => e.kind.name
  | bare kind => kind

/-- A signal written out. -/
def toJson : Signal → Json
  | event e => e.toJson
  | bare kind => .object [("raw", .string kind)]

/-- A signal inside a message. -/
def shown : Signal → String
  | event e => e.shown
  | bare kind => "namespace(type=" ++ Quoted.encode kind ++ ")"

end Signal

end ShotRecorder
