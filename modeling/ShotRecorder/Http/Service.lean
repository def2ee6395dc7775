import ShotRecorder.Http.Body
import ShotRecorder.Http.Origin
import ShotRecorder.Session

/-!
# The service

A session behind HTTP. A request goes to the first route with its path and method. Where only the
path fits, the answer names the method that would; where the path fits but for strokes at its end,
the answer leads to the path without them.
-/

namespace ShotRecorder.Http

/-- What a route does. -/
inductive Endpoint where
  | publish
  | results
  | reset
  | refresh
  | health
  /-- Fails in a way of its own. -/
  | failing (fault : Fault)

/-- A route: requests with a method and a path, and what is done with them. -/
structure Route where
  method : String
  path : String
  endpoint : Endpoint

/-- The version of the service. -/
def version : String := "0.3.0"

/-- The routes of the service. -/
def routes : List Route :=
  [⟨"POST", "/events", .publish⟩, ⟨"GET", "/results", .results⟩, ⟨"POST", "/results/reset", .reset⟩,
   ⟨"GET", "/refresh", .refresh⟩, ⟨"GET", "/health", .health⟩]

/-- A service: its session, and its routes. -/
structure Service where
  session : Session
  routes : List Route := routes

namespace Service

/-- What an endpoint answers. -/
def answer (s : Service) (request : Request) : Endpoint → Response × Service
  | .publish =>
    match readBatch request with
    | .error fault => (fault.response request.shownPath, s)
    | .ok events =>
      match s.session.publishAll (events.map Signal.event) with
      | (.ok receipt, session) => (.json 202 receipt.toJson, { s with session })
      | (.error fault, session) => (.ofFault request.shownPath fault, { s with session })
  | .results => (resultsResponse request.shownPath s.session.results, s)
  | .reset =>
    let session := s.session.reset
    (resultsResponse request.shownPath session.results, { s with session })
  | .refresh => (.json 200 s.session.status.toJson, s)
  | .health =>
    (.json 200 (.object [("status", .string "ok"),
      ("environment", .string s.session.stage.name), ("version", .string version)]), s)
  | .failing fault => (.ofFault request.shownPath fault, s)

/-- Whether a route is the one of a path; a line feed may end the path. -/
def isOnPath (path : String) (route : Route) : Bool :=
  path == route.path || path == route.path ++ "\n"

/-- A path without the strokes at its end. -/
def withoutStrokes (path : String) : String :=
  String.ofList (path.toList.reverse.dropWhile (· == '/')).reverse

/-- The path that a path without a route leads to. -/
def elsewhere (path : String) : String :=
  if path.toList.getLast? == some '/' then withoutStrokes path else path ++ "/"

/-- The answer that leads a request to another path. -/
def redirection (request : Request) (path : String) : Response :=
  { status := 307, headers := [("location", sent (request.address path))], content := .none }

/-- The answer of the routes. -/
def routed (s : Service) (request : Request) : Response × Service :=
  let fitting := s.routes.filter (isOnPath request.path)
  match fitting.find? (·.method == request.method), fitting with
  | some route, _ => s.answer request route.endpoint
  | none, route :: _ =>
    ((Response.detail 405 "Method Not Allowed").withHeaders [("allow", route.method)], s)
  | none, [] =>
    let path := elsewhere request.path
    if request.path != "/" && s.routes.any (isOnPath path) then (redirection request path, s)
    else (.detail 404 "Not Found", s)

/-- The answer to a request. -/
def respond (s : Service) (request : Request) : Response × Service :=
  match question? request with
  | some (origin, method, headers) => (permission origin method headers, s)
  | none =>
    let (response, s) := s.routed request
    (shared request response, s)

/-- The end of the service: a pending refresh fires. -/
def close (s : Service) : Service := { s with session := s.session.close }

end Service

end ShotRecorder.Http
