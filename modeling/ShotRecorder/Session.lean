import ShotRecorder.Hub.Perform

/-!
# Sessions

A session is a hub with an observer of its own, which reads the number of shots whenever a refresh
fires. What a session reports comes from its hub alone.
-/

namespace ShotRecorder

/-- A session. -/
structure Session where
  stage : Stage
  hub : Hub Number
  cast : Cast Number

/-- What became of a batch of events. -/
structure Receipt where
  accepted : Nat
  /-- How many times an observer failed. -/
  failures : Nat
  isOpen : Bool
  closed : Nat

/-- The shots of a session. -/
structure Results where
  shots : List Shot
  closed : Nat
  isOpen : Bool
  refreshes : Nat

/-- What is known of refreshes. -/
structure RefreshStatus where
  pending : Bool
  refreshes : Nat
  /-- How many shots there were at the last refresh. -/
  lastSeen : Option Nat

namespace Receipt

/-- A receipt written out. -/
def toJson (r : Receipt) : Json :=
  .object [("accepted", .number (.int r.accepted)), ("handler_failures", .number (.int r.failures)),
    ("shot_active", .bool r.isOpen), ("closed_shots", .number (.int r.closed))]

end Receipt

namespace Results

/-- Results written out. -/
def toJson (r : Results) : Json :=
  .object [("shots", .array (r.shots.map Shot.toJson)), ("closed_shots", .number (.int r.closed)),
    ("shot_active", .bool r.isOpen), ("refresh_count", .number (.int r.refreshes))]

end Results

namespace RefreshStatus

/-- A status written out. -/
def toJson (r : RefreshStatus) : Json :=
  .object [("pending", .bool r.pending), ("refresh_count", .number (.int r.refreshes)),
    ("last_seen_shots", (r.lastSeen.map fun n => Json.number (.int n)).getD .null)]

end RefreshStatus

namespace Session

/-- The name of a session's own observer. -/
def watcher : String := "session"

/-- A new session. -/
def new (settings : Settings) (timer : Timer Number (Callback Number)) : Except Fault Session := do
  let hub ← Hub.ofSettings settings timer
  let hub := hub.onRouter 0 (·.subscribe Kind.refresh.name (.observer watcher))
  pure { stage := settings.stage, hub, cast := [(watcher, .onlooker watcher)] }

/-- Does an action with the hub. -/
def perform (s : Session) (action : Action Number) : Except Fault (Reply Number) × Session :=
  let (answer, hub) := (Hub.step s.cast action).run.run s.hub
  (answer, { s with hub })

/-- Another observer for a kind. -/
def observe (s : Session) (kind : String) (observer : Observer Number) : Session :=
  { s with
    hub := s.hub.onRouter 0 (·.subscribe kind (.observer observer.title))
    cast := s.cast ++ [(observer.title, observer)] }

/-- How many shots the session's own observer saw, if a sighting is one of its calls. -/
def seenBy : Sighting Number → Option Nat
  | .call name _ view =>
    if name = watcher then some ((view.shots.map fun (count, _, _) => count).getD 0) else none
  | _ => none

/-- How many shots there were at the last refresh. -/
def lastSeen (s : Session) : Option Nat := s.hub.seen.toList.reverse.findSome? seenBy

/-- Publishes signals one after the other: how many times an observer failed. -/
def publishEach (s : Session) : List Signal → Except Fault Nat × Session
  | [] => (.ok 0, s)
  | signal :: rest =>
    match s.perform (.publish (.fresh (.ok signal)) 0) with
    | (.ok (.failures found), s) =>
      match s.publishEach rest with
      | (.ok more, s) => (.ok (found.length + more), s)
      | (.error fault, s) => (.error fault, s)
    | (.ok _, s) => s.publishEach rest
    | (.error fault, s) => (.error fault, s)

/-- Publishes signals in order. -/
def publishAll (s : Session) (signals : List Signal) : Except Fault Receipt × Session :=
  match s.publishEach signals with
  | (.ok failures, s) =>
    let shots := s.hub.shots
    let receipt : Receipt :=
      { accepted := signals.length, failures, isOpen := shots.isOpen, closed := shots.closedCount }
    (.ok receipt, s)
  | (.error fault, s) => (.error fault, s)

/-- The shots. -/
def results (s : Session) : Results :=
  let shots := s.hub.shots
  { shots := shots.shots, closed := shots.closedCount, isOpen := shots.isOpen
    refreshes := s.hub.scheduler.fired }

/-- A fresh run: no shots any more. A pending refresh still fires. -/
def reset (s : Session) : Session := (s.perform .clear).2

/-- What is known of refreshes. -/
def status (s : Session) : RefreshStatus :=
  { pending := s.hub.scheduler.pending, refreshes := s.hub.scheduler.fired, lastSeen := s.lastSeen }

/-- The end: a pending refresh fires. -/
def close (s : Session) : Session := (s.perform .flush).2

end Session

end ShotRecorder
