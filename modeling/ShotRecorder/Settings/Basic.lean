import ShotRecorder.Level

/-!
# Settings

What a recorder can be set to, and what follows from it.
-/

namespace ShotRecorder

/-- Where a recorder runs. -/
inductive Stage where
  | dev
  | test
  | prod
  deriving DecidableEq, Repr

/-- The name of a stage. -/
def Stage.name : Stage → String
  | dev => "dev"
  | test => "test"
  | prod => "prod"

/-- All stages. -/
def Stage.all : List Stage := [dev, test, prod]

/-- The settings of a recorder. -/
structure Settings where
  stage : Stage := .dev
  level : Level := .error
  /-- The least time between refreshes, in milliseconds. -/
  refreshMillis : Nat := 50
  /-- Whether shots are recorded. -/
  capture : Bool := true
  deriving DecidableEq, Repr

/-- Milliseconds in seconds; a whole number beyond all numbers with a fraction has no such form. -/
def secondsOfMillis (millis : Int) : Except Fault Float :=
  match Decimal.ofInt? millis with
  | some x => .ok (x / 1000.0)
  | none => .error .tooLarge

/-- The least time between refreshes, in seconds. -/
def Settings.refreshSeconds (s : Settings) : Except Fault Float := secondsOfMillis s.refreshMillis

end ShotRecorder
