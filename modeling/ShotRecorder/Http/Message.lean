import ShotRecorder.Fault

/-!
# Requests and responses

The messages of HTTP, as far as the service looks at them. Names of headers are in small letters.
-/

namespace ShotRecorder.Http

/-- Headers by name. -/
abbrev Headers := List (String × String)

/-- A request. -/
structure Request where
  method : String
  path : String
  /-- What stands behind the question mark of the target. -/
  query : String := ""
  headers : Headers := []
  body : List UInt8 := []

/-- What a response brings. -/
inductive Content where
  | none
  | json (value : Json)
  | text (value : String)

/-- A response. -/
structure Response where
  status : Nat
  headers : Headers := []
  content : Content
  /-- The fault behind an answer that tells of a mistake of the service. -/
  fault : Option Fault := .none

namespace Response

/-- A response that brings a value. -/
def json (status : Nat) (value : Json) : Response := { status, content := .json value }

/-- A response that says why there is no better one. -/
def detail (status : Nat) (words : String) : Response :=
  json status (.object [("detail", .string words)])

/-- A response with further headers. -/
def withHeaders (r : Response) (headers : Headers) : Response :=
  { r with headers := r.headers ++ headers }

/-- The answer to a fault in dealing with a path: a refused value is a mistake of the client, all
else of the service. -/
def ofFault (path : String) (fault : Fault) : Response :=
  if fault.isRefusal then
    json 400 (.object [("error", .string "Bad Request"), ("detail", .string fault.message)])
  else
    { json 500 (.object [("error", .string "Internal Server Error"),
        ("detail", .string fault.message), ("path", .string path)]) with
      fault := some fault }

end Response

end ShotRecorder.Http
