import ShotRecorder.Event.File
import ShotRecorder.Folder
import ShotRecorder.Hub.Perform

/-!
# Listings

The shots of a stream, or of a small sample, as a plain list. All events are published at once, and
then a timer that is moved by hand passes the delay of the one refresh.
-/

namespace ShotRecorder

/-- A shot in a listing. -/
structure Listing.Row where
  success : Bool
  result : String
  entries : Nat
  deriving DecidableEq, Repr

/-- What a listing tells. -/
structure Listing where
  /-- How many shots there were at each refresh. -/
  refreshes : List Nat
  events : Nat
  closed : Nat
  rows : List Listing.Row

namespace Listing

/-! ### The listing -/

/-- The sample: a pair of shots that went well, and one that did not. -/
def sample : List Event :=
  let amplitudes := Json.array [.number (.float 0.7071), .number (.float 0.0)]
  [.message "Preparing Bell pair",
   .snapshot [("|00⟩", amplitudes), ("|11⟩", amplitudes)] none,
   .result true "[Zero, Zero]",
   .message "Preparing Bell pair",
   .result true "[One, One]",
   .result false "qubit released while not in |0⟩ state"]

/-- The name of the observer of refreshes. -/
def watcher : String := "refreshes"

/-- How many shots there were at a refresh, if a sighting is of one. -/
def count? {τ : Type} : Sighting τ → Option Nat
  | .call _ _ view => view.shots.map fun (count, _, _) => count
  | _ => none

/-- The row of a shot. -/
def Row.ofShot (shot : Shot) : Row where
  success := shot.success
  result := shot.result
  entries := shot.entries.length

/-- What is to be told of a hub after some events. -/
def ofHub {τ : Type} (events : Nat) (hub : Hub τ) : Listing where
  refreshes := hub.seen.toList.filterMap count?
  events := events
  closed := hub.shots.closedCount
  rows := hub.shots.shots.map Row.ofShot

section

variable {τ : Type} [Clock τ]

/-- The observer. -/
def cast : Cast τ := [(watcher, .onlooker watcher)]

/-- The hub before the first event. -/
def start (delay : τ) : Except Fault (Hub τ) := do
  let hub ← Hub.new true delay .byHand Level.off.number
  pure (hub.onRouter 0 (·.subscribe Kind.refresh.name (.observer watcher)))

/-- All events published in order, and the delay passed. -/
def play (delay : τ) (events : List Event) : Run (Hub τ) Unit := do
  events.forM fun event => discard (Hub.step cast (.publish (.fresh (.ok (.event event))) 0))
  discard (Hub.step cast (.advance delay))

/-- The listing of events. -/
def ofEvents (delay : τ) (events : List Event) : Except Fault Listing := do
  let (ending, hub) := (play delay events).run.run (← start delay)
  ending
  pure (ofHub events.length hub)

end

/-- The usual delay. -/
def delay : Number := .float 0.05

/-! ### Lines -/

/-- A number in at least two digits. -/
def twoDigits (n : Nat) : String := if n < 10 then "0" ++ toString n else toString n

/-- The line of a row with its number. -/
def Row.line (row : Row) (number : Nat) : String :=
  "  " ++ twoDigits number ++ ". [" ++ (if row.success then "ok" else "failed") ++ "] " ++
    Quoted.encode row.result ++ " (" ++ toString row.entries ++ " sub-events)"

/-- The lines of a listing. -/
def lines (l : Listing) : List String :=
  (l.refreshes.map fun count => "🔄 refresh: " ++ toString count ++ " shot(s)") ++
    ["", "✅ " ++ toString l.events ++ " events -> " ++ toString l.closed ++ " closed shot(s)"] ++
    l.rows.zipIdx.map fun (row, i) => row.line (i + 1)

/-- A listing as text. -/
def text (l : Listing) : String := String.join (l.lines.map (· ++ "\n"))

/-- What is shown where no file is. -/
def notFound (path : String) : String := "❌ File not found: " ++ Folder.normal path ++ "\n"

/-- The text of the listing of a file. -/
def ofFile (files : Folder.Files) (path : String) : Except Fault String :=
  match Folder.look files (Folder.normal path) with
  | .error .missing | .error .notFolder => .ok (notFound path)
  | _ => do
    let events ← Event.listOfFile (← Folder.read files path)
    text <$> ofEvents delay events

/-- The text of the listing of the sample. -/
def ofSample : Except Fault String := text <$> ofEvents delay sample

end Listing

end ShotRecorder
