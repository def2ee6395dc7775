import ShotRecorder.Settings.Basic

/-!
# Loggers

The registry of loggers. A logger that is made ready gets a handler if it has none, and has a level
of its own or that of its nearest ancestor with one. A logger's ancestors are the registered loggers
whose names are the fronts of its own name up to a dot; above them all is the root. Loggers that
come under the root before a logger whose name starts as the root's does are not moved from the one
to the other.
-/

namespace ShotRecorder

/-- A logger. -/
structure Logger where
  /-- The number of its level; zero if it has none of its own. -/
  level : Nat := 0
  /-- How many handlers it has. -/
  handlers : Nat := 0
  /-- Whether its records go to its ancestors' handlers too. -/
  propagates : Bool := true
  deriving DecidableEq, Repr

namespace Logger

/-- Whether a logger has a handler. -/
def handled (logger : Logger) : Bool := 0 < logger.handlers

/-- A logger with a handler: its own, or a new one if it has none. -/
def withHandler (logger : Logger) : Logger :=
  if logger.handled then logger else { logger with handlers := logger.handlers + 1 }

end Logger

/-- The registered loggers by name, in the order of their registration. -/
abbrev Loggers := List (String × Logger)

namespace Loggers

/-- The name of the root. -/
def rootName : String := "root"

/-- The level of the root as long as it is given no other. -/
def rootLevel : Nat := 30

/-- The name that a logger is registered under; the empty name means the root. -/
def registered (name : String) : String := if name.isEmpty then rootName else name

/-- A logger by its registered name. -/
def find (loggers : Loggers) (name : String) : Logger :=
  (loggers.lookup name).getD (if name = rootName then { level := rootLevel } else {})

/-- A logger put in place of the one with its name, or added. -/
def put : Loggers → String → Logger → Loggers
  | [], name, logger => [(name, logger)]
  | (n, l) :: rest, name, logger =>
    if n = name then (n, logger) :: rest else (n, l) :: put rest name logger

/-- A logger registered if it is not yet. -/
def register (loggers : Loggers) (name : String) : Loggers := loggers.put name (loggers.find name)

/-- The fronts of a reversed name up to its dots, longest first; of two dots in a row the first is
passed over, and no front is empty. -/
def fronts : (fuel : Nat) → List Char → List String
  | 0, _ => []
  | fuel + 1, reversed =>
    match reversed.dropWhile (· != '.') with
    | [] | [_] => []
    | _ :: before => String.ofList before.reverse :: fronts fuel (before.drop 1)

/-- Whether a front of a logger's name is the name of an ancestor: of a registered one, and if it
starts as the root's name does, of one registered before the logger. -/
def isAncestor (loggers : Loggers) (name front : String) : Bool :=
  if front.isPrefixOf rootName then (loggers.takeWhile (·.1 != name)).any (·.1 == front)
  else loggers.any (·.1 == front)

/-- The first ancestor among the fronts of a name, or the root. -/
def parent (loggers : Loggers) (name : String) : String :=
  ((fronts name.length name.toList.reverse).find? (loggers.isAncestor name)).getD rootName

/-- The level that counts for a logger: its own, or that of the nearest ancestor with one. -/
def effectiveFrom (loggers : Loggers) : (fuel : Nat) → String → Nat
  | 0, _ => (loggers.find rootName).level
  | fuel + 1, name =>
    if (loggers.find name).level ≠ 0 || name = rootName then (loggers.find name).level
    else effectiveFrom loggers fuel (loggers.parent name)

/-- The level that counts for a logger; every ancestor has a shorter name. -/
def effective (loggers : Loggers) (name : String) : Nat :=
  loggers.effectiveFrom (name.length + 1) name

/-- The numbers of levels, from the lowest to the highest. -/
def numbers : List Nat := [5, 10, 20, 30, 40, 50, 60]

/-- The level numbers whose records a logger logs. -/
def enabled (loggers : Loggers) (name : String) : List Nat :=
  numbers.filter (loggers.effective name ≤ ·)

/-- A logger made ready for use: it gets a handler if it has none, the level if one is given, and
keeps its records to itself. A level that means nothing is a fault, which leaves the handler. -/
def configure (loggers : Loggers) (name : String) (level : Option Json) :
    Except Fault Unit × Loggers :=
  let name := registered name
  let logger := (loggers.find name).withHandler
  match level with
  | none => (.ok (), loggers.put name { logger with propagates := false })
  | some v =>
    match Level.ofJson v with
    | .ok level =>
      (.ok (), loggers.put name { logger with level := level.number, propagates := false })
    | .error why => (.error (.level why), loggers.put name logger)

/-- The name of a component's logger: it holds the level, so that no two levels share a logger. -/
def componentName (component : String) (level : Level) : String :=
  "shotstream." ++ component ++ "." ++ level.name.toLower

/-- The logger of a component made ready with the level of the settings. -/
def configureComponent (loggers : Loggers) (settings : Settings) (component : String) :
    Except Fault Unit × Loggers :=
  loggers.configure (componentName component settings.level) (some (.string settings.level.name))

end Loggers

end ShotRecorder
