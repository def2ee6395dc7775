import ShotRecorder.Http.Message

/-!
# Requests from pages of other origins

Every origin may use the service, with credentials. A browser asks before it sends a request that a
page could not always make; that question is answered without regard to the path it is about.
-/

namespace ShotRecorder.Http

/-- The methods that pages may use. -/
def sharedMethods : List String :=
  ["DELETE", "GET", "HEAD", "OPTIONS", "PATCH", "POST", "PUT", "QUERY"]

/-- The headers that let a page of an origin read a response. -/
def sharingHeaders (origin : String) : Headers :=
  [("access-control-allow-origin", origin), ("access-control-allow-credentials", "true")]

/-- The answer to the question whether a page of an origin may send a request. -/
def permission (origin method : String) (headers : Option String) : Response :=
  let allowed := sharedMethods.contains method
  { status := if allowed then 200 else 400
    content := .text (if allowed then "OK" else "Disallowed CORS method")
    headers := sharingHeaders origin ++
      [("access-control-allow-methods", ", ".intercalate sharedMethods),
       ("access-control-max-age", "600")] ++
      (headers.map fun names => ("access-control-allow-headers", names)).toList }

/-- The question of a browser: the origin, the method it wants to use, and the headers. -/
def question? (request : Request) : Option (String × String × Option String) :=
  match request.headers.lookup "origin", request.headers.lookup "access-control-request-method" with
  | some origin, some method =>
    if request.method = "OPTIONS" then
      some (origin, method, request.headers.lookup "access-control-request-headers")
    else none
  | _, _ => none

/-- A response that the page it goes to may read; a mistake of the service is not shared. -/
def shared (request : Request) (response : Response) : Response :=
  match request.headers.lookup "origin", response.fault with
  | some origin, none => response.withHeaders (sharingHeaders origin)
  | _, _ => response

end ShotRecorder.Http
