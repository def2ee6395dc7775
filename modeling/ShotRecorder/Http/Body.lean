import ShotRecorder.Event.Reading
import ShotRecorder.Http.Location
import ShotRecorder.Json.Texts
import ShotRecorder.Session
import ShotRecorder.Text.Blank
import ShotRecorder.Text.Halves

/-!
# Bodies of requests

The batch of events that the body of a request brings. A body declared as JSON is read as such, any
other is one text. Complaints about a batch are answered with the values they are about.

The texts of a body may hold halves of surrogate pairs that stand alone; they are carried. No answer
can hold such a half.
-/

namespace ShotRecorder.Http

/-- The nesting that a body may have. -/
def maxDepth : Nat := 900

/-- The media type that a content type starts with, in small letters. -/
def mediaType (contentType : String) : List Char :=
  Blank.trim Blank.isBlank (contentType.toLower.toList.takeWhile (· != ';'))

/-- Whether a media type is JSON, or one built upon JSON. -/
def isJsonType (media : List Char) : Bool :=
  let type := media.takeWhile (· != '/')
  let subtype := media.drop (type.length + 1)
  type == "application".toList && !subtype.contains '/' &&
    (subtype == "json".toList || "+json".toList.isSuffixOf subtype)

/-- Why a body gives no batch. -/
inductive BodyFault where
  | complaints (found : List Complaint)
  /-- A body that cannot be read at all. -/
  | unreadable
  | refused (fault : Fault)

/-- The wording of a flaw of a JSON text, if it is one that is reported with its place. -/
def flawMessage? : Json.Reader.Flaw → Option String
  | .expectedValue => some "Expecting value"
  | .expectedName => some "Expecting property name enclosed in double quotes"
  | .expectedColon => some "Expecting ':' delimiter"
  | .expectedComma => some "Expecting ',' delimiter"
  | .extraData => some "Extra data"
  | .unterminatedString => some "Unterminated string starting at"
  | .controlCharacter => some "Invalid control character at"
  | .badEscape => some "Invalid \\escape"
  | .badUnicodeEscape => some "Invalid \\uXXXX escape"
  | .loneSurrogate | .tooDeep | .tooManyDigits => none

/-- The place of the whole body. -/
def bodyPath : Path := [.key "body"]

/-- The value of a JSON body. -/
def readJson (body : List UInt8) : Except BodyFault Json :=
  match Encoding.text? body with
  | none => .error .unreadable
  | some text =>
    match Json.readWith .carried maxDepth text with
    | .ok v => .ok v
    | .error refusal =>
      match flawMessage? refusal.flaw with
      | none => .error .unreadable
      | some words =>
        let place := text.length - refusal.rest.length
        .error (.complaints
          [{ problem := .badJson (some words)
             path := bodyPath ++ [.index place]
             input := .object [] }])

/-- The text of a body that is not JSON. -/
def readText (body : List UInt8) : Except BodyFault Json :=
  match Encoding.textOf ⟨body.toArray⟩ with
  | .ok text => .ok (.string (String.ofList (Halves.carry text.toList)))
  | .error fault => .error (.refused fault)

/-- The value of a body that is not empty. -/
def readBody (request : Request) : Except BodyFault Json :=
  if isJsonType (mediaType ((request.headers.lookup "content-type").getD "")) then
    readJson request.body
  else readText request.body

/-- Whether a carried text holds a half of a pair. -/
def holdsHalf (text : String) : Bool := Halves.anyHalf text.toList

/-- A complaint about a text that is to be a truth value: one with a half means nothing at all. -/
def sharpened (c : Complaint) : Complaint :=
  match c.problem, c.input with
  | .unclearBool, .string text => if holdsHalf text then { c with problem := .notUnicode } else c
  | _, _ => c

/-- A producer's event. A key with a half is the only complaint about an event of a known kind. -/
def eventOfJson (path : Path) (v : Json) : Checked Event :=
  let badKey? : Option (Kind × String) :=
    match v, v.get? "type" with
    | .object members, some tag => do
      let kind ← Kind.ofTag? Kind.producers tag
      let (key, _) ← members.find? fun (key, _) => holdsHalf key
      some (kind, key)
    | _, _ => none
  match badKey? with
  | some (kind, key) => .fail .notUnicode (path ++ [.key kind.name]) (.string key)
  | none => Event.ofJson .value path v

/-- A list of producers' events. -/
def eventsOfJson (path : Path) (v : Json) : Checked (List Event) :=
  match v with
  | .array items => Checked.each (fun i item => eventOfJson (path ++ [.index i]) item) 0 items
  | other => .fail (.notList .value) path other

/-- The events of a batch; a batch without any is empty. -/
def batchOfJson (v : Json) : Checked (List Event) :=
  match v with
  | .object members => Field.optional eventsOfJson "events" [] bodyPath members
  | other => .fail (.notObject .value) bodyPath other

/-- The batch that a request brings. -/
def readBatch (request : Request) : Except BodyFault (List Event) :=
  if request.body.isEmpty then
    .error (.complaints [{ problem := .missing, path := bodyPath, input := .null }])
  else do
    let v ← readBody request
    match (batchOfJson v).toExcept with
    | .ok events => .ok events
    | .error found => .error (.complaints (found.map sharpened))

/-! ### Answers -/

/-- A step of a path written out. -/
def stepJson : Step → Json
  | .key name => .string name
  | .index place => .number (.int place)

/-- What there is to know about a problem besides its wording. -/
def context? : Problem → Option Json
  | .badJson (some words) => some (.object [("error", .string words)])
  | .noTag => some (.object [("discriminator", .string "'type'")])
  | .unknownTag tag expected =>
    some (.object [("discriminator", .string "'type'"), ("tag", .string tag),
      ("expected_tags", .string (Problem.quotedNames expected))])
  | .notOneOf expected => some (.object [("expected", .string (Problem.choice expected))])
  | _ => none

/-- A value whose texts show replacements where they held halves. -/
def visible (v : Json) : Json :=
  v.mapTexts fun text => String.ofList (Halves.visible text.toList)

/-- A value whose texts are no longer carried. -/
def released (v : Json) : Json :=
  v.mapTexts fun text => String.ofList (Halves.release text.toList)

/-- A complaint written out. -/
def complaintJson (c : Complaint) : Json :=
  .object <| [("type", .string c.problem.code), ("loc", .array (c.path.map stepJson)),
    ("msg", visible (.string c.problem.message)), ("input", c.input)] ++
      ((context? c.problem).map fun context => ("ctx", visible context)).toList

/-- The answer to a body that gives no batch. An answer cannot hold a number without a finite value
or a half of a pair: where it would, it says that instead. -/
def BodyFault.response (path : String) : BodyFault → Response
  | .unreadable => .detail 400 "There was an error parsing the body"
  | .refused fault => .ofFault path fault
  | .complaints found =>
    let body := Json.object [("detail", .array (found.map complaintJson))]
    if body.hasNonFinite then .ofFault path .notWritable
    else match Halves.flaw? (Halves.points (body.lineChars .tight)) with
      | some flaw => .ofFault path (.notEncodable flaw)
      | none => .json 422 (released body)

/-- Why a value cannot be sent: the first of its texts that holds a half. -/
def unsendable? (v : Json) : Option Fault :=
  v.texts.findSome? fun text =>
    (Halves.flaw? (Halves.points text.toList)).map fun flaw =>
      .notEncodable ("Error serializing to JSON: UnicodeEncodeError: " ++ flaw)

/-- An entry the keys of whose state show replacements where they held halves. -/
def visibleKeys : Entry → Entry
  | .snapshot state rendered =>
    let shown := fun (key : String) => String.ofList (Halves.visible key.toList)
    .snapshot (Members.ofList (state.map fun (key, value) => (shown key, value))) rendered
  | other => other

/-- The answer that brings the shots. -/
def resultsResponse (path : String) (results : Results) : Response :=
  let shots := results.shots.map fun shot => { shot with entries := shot.entries.map visibleKeys }
  let body := { results with shots := shots }.toJson
  match unsendable? body with
  | some fault => .ofFault path fault
  | none => .json 200 (released body)

end ShotRecorder.Http
