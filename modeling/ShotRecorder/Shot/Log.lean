import ShotRecorder.Shot.Basic

/-!
# The log of shots

The shots of a run, rebuilt from its events. Nothing announces a shot: it starts with the first
event that comes while none is open, and it ends with its result. Shots that have ended are never
touched again.
-/

namespace ShotRecorder

/-- The shots that have ended, and what was observed of the one that has not. -/
structure ShotLog where
  closed : List Shot := []
  current : Option (List Entry) := none

namespace ShotLog

/-- Whether a shot is open. -/
def isOpen (log : ShotLog) : Bool := log.current.isSome

/-- What was observed of the open shot; nothing if none is open. -/
def entries (log : ShotLog) : List Entry := log.current.getD []

/-- The records of all shots, in order; the open one has no outcome yet. -/
def shots (log : ShotLog) : List Shot :=
  log.closed ++ log.current.toList.map fun entries => { entries := entries }

/-- How many shots have ended. -/
def closedCount (log : ShotLog) : Nat := log.closed.length

/-- How many shots there are, an open one included. -/
def count (log : ShotLog) : Nat := log.closed.length + if log.isOpen then 1 else 0

/-- Something observed, in the open shot or in a new one. -/
def observe (log : ShotLog) (entry : Entry) : ShotLog :=
  { log with current := some (log.entries ++ [entry]) }

/-- The end of the open shot, or of a new one in which nothing was observed. -/
def close (log : ShotLog) (success : Bool) (result : String) : ShotLog :=
  { closed := log.closed ++ [{ entries := log.entries, success, result }], current := none }

/-- The log after an event; a refresh changes nothing. -/
def apply (log : ShotLog) : Event → ShotLog
  | .message text => log.observe (.message text)
  | .snapshot state rendered => log.observe (.snapshot state rendered)
  | .result success value => log.close success value
  | .refresh => log

theorem length_shots (log : ShotLog) : log.shots.length = log.count := by
  unfold shots count isOpen
  cases log.current <;> simp

end ShotLog

end ShotRecorder
