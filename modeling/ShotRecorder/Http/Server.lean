import ShotRecorder.Http.Service
import ShotRecorder.Settings.Configuration

/-!
# The server

How the service is started as a process: variables are taken from a file, settings are loaded, and
refreshes are timed by the server's own loop.
-/

namespace ShotRecorder.Http

/-- What the server runs, and how. -/
structure Launch where
  application : String := "shotstream.api.server:app"
  host : String := "127.0.0.1"
  portNumber : Nat := 8000
  reload : Bool := false
  logLevel : String := "info"

namespace Service

/-- A service with given settings and a timer. -/
def new (settings : Settings) (timer : Timer Number (Callback Number)) : Except Fault Service := do
  pure { session := ← Session.new settings timer }

/-- The service of a server that is started in a process. -/
def started (c : Configuration) : Except Fault Service := do
  let c ← c.adopt ".env"
  let settings ← c.load.1
  new settings (.onLoop true false)

/-- The answer to a request on a server, whose loop then does what is due. -/
def served (s : Service) (request : Request) : Response × Service :=
  let (response, s) := s.respond request
  (response, { s with session := (s.session.perform (.sleep (.int 0))).2 })

end Service

end ShotRecorder.Http
