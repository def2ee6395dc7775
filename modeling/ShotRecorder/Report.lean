import ShotRecorder.Replay
import ShotRecorder.Terminal.Frame
import ShotRecorder.Terminal.Markup

/-!
# The report of a replay

What a replay shows on a terminal: a heading, a line for each thing noticed, a table of the shots
and a summary.
-/

namespace ShotRecorder.Report

/-! ### Shots as rows -/

/-- What became of a shot. -/
inductive Outcome where
  | ok
  | failed
  /-- It has not ended. -/
  | unfinished
  deriving DecidableEq, Repr

/-- The name of an outcome. -/
def Outcome.name : Outcome → String
  | ok => "ok"
  | failed => "failed"
  | unfinished => "open"

/-- What became of a shot that has ended or not. -/
def Outcome.ofShot (ended : Bool) (shot : Shot) : Outcome :=
  if !ended then unfinished else if shot.success then ok else failed

/-- A row of the table of shots. -/
structure Row where
  messages : Nat
  snapshots : Nat
  outcome : Outcome
  result : String
  deriving DecidableEq, Repr

/-- The row of a shot. -/
def Row.ofShot (ended : Bool) (shot : Shot) : Row where
  messages := shot.messages.length
  snapshots := shot.snapshotCount
  outcome := Outcome.ofShot ended shot
  result := shot.result

/-- The rows of all shots, in order. -/
def rows (log : ShotLog) : List Row :=
  log.shots.zipIdx.map fun (shot, i) => Row.ofShot (i < log.closedCount) shot

/-! ### Lines -/

/-- A line on a terminal. -/
abbrev Line := List Char

/-- The lines of a text with markup. -/
def lines (markup : String) : Except Fault (List Line) :=
  return Terminal.wrap .fold Terminal.width (← Terminal.shownText markup.toList)

/-- A text escaped, so that it is shown as it is. -/
def escaped (text : String) : String := String.ofList (Terminal.escape text.toList)

/-- The heading, with the name of the file that is replayed. -/
def heading (name : String) : Except Fault (List Line) := do
  let markup := "[bold cyan]shotstream replay[/bold cyan]\nLoading: [u]" ++ name ++ "[/u]"
  pure (Terminal.panel (← Terminal.shownText markup.toList))

/-- The lines of something noticed. -/
def noticed : Notice → Except Fault (List Line)
  | .refresh number count closed =>
    lines ("[dim]refresh #" ++ toString number ++ ": " ++ toString count ++ " shot(s), " ++
      toString closed ++ " closed[/dim]")
  | .message text => lines ("[blue]>[/blue] " ++ escaped text)

/-- The lines of all that was noticed; what cannot be shown is left out. -/
def allNoticed (notices : List Notice) : List Line :=
  notices.flatMap fun notice => (noticed notice).toOption.getD []

/-- The columns of the table of shots. -/
def columns : List Terminal.Column :=
  [⟨['#'], true⟩, ⟨"Messages".toList, true⟩, ⟨"Snapshots".toList, true⟩,
   ⟨"Outcome".toList, false⟩, ⟨"Result".toList, false⟩]

/-- The cells of a row with its number. -/
def Row.cells (row : Row) (number : Nat) : Except Fault (List Line) := do
  let result ← Terminal.shownText (escaped row.result).toList
  pure [Digits.write number, Digits.write row.messages, Digits.write row.snapshots,
    row.outcome.name.toList, result]

/-- The table of shots. -/
def table (log : ShotLog) : Except Fault (List Line) := do
  let cells ← (rows log).zipIdx.mapM fun (row, i) => row.cells (i + 1)
  pure (Terminal.table "Shots".toList columns cells)

/-- The summary: how many events there were, how many shots, and how many refreshes. -/
def summary (events : Nat) (log : ShotLog) (refreshes : Nat) : List Line :=
  Terminal.titledPanel "Summary".toList
    ("Events: " ++ toString events ++ "\nShots: " ++ toString log.count ++ " (" ++
      toString log.closedCount ++ " closed)\nRefreshes: " ++ toString refreshes).toList

/-- That the shots were saved. -/
def saved (path : String) : Except Fault (List Line) :=
  lines ("[dim]Shots saved to: " ++ path ++ "[/dim]")

/-- That the shots could not be saved, and why. -/
def notSaved (path : String) (fault : Fault) : Except Fault (List Line) :=
  lines ("[bold red]⚠️ Failed to save to " ++ path ++ ": " ++ fault.message ++ "[/bold red]")

/-- That a file holds no stream of events, and why. -/
def notLoaded (fault : Fault) : Except Fault (List Line) :=
  lines ("\n[bold red]❌ Invalid event file:[/bold red] " ++ escaped fault.message)

/-- That a replay broke off, and why. -/
def brokenOff (fault : Fault) : Except Fault (List Line) :=
  lines ("\n[bold red]❌ Replay Error:[/bold red] " ++ escaped fault.message)

/-- Lines as one text. -/
def text (found : List Line) : String := String.ofList (found.flatMap (· ++ ['\n']))

end ShotRecorder.Report
