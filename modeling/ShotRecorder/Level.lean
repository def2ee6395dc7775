import ShotRecorder.Fault
import ShotRecorder.Text.Blank
import ShotRecorder.Text.Capital
import ShotRecorder.Text.Numeral

/-!
# Log levels

The eight named levels, their numbers, and the ways to write them: a name in any case with blanks
around it, or a place on the scale from 0 (off) to 5 (trace), as a number or in digits of any
script.
-/

namespace ShotRecorder

/-- A log level. -/
inductive Level where
  | off
  | critical
  | error
  | warn
  | warning
  | info
  | debug
  | trace
  deriving DecidableEq, Repr

namespace Level

/-- The name of a level. -/
def name : Level → String
  | off => "OFF"
  | critical => "CRITICAL"
  | error => "ERROR"
  | warn => "WARN"
  | warning => "WARNING"
  | info => "INFO"
  | debug => "DEBUG"
  | trace => "TRACE"

/-- The number of a level: records below it are not logged. -/
def number : Level → Nat
  | off => 60
  | critical => 50
  | error => 40
  | warn => 30
  | warning => 30
  | info => 20
  | debug => 10
  | trace => 5

/-- All levels. -/
def all : List Level := [off, critical, error, warn, warning, info, debug, trace]

/-- The levels on the scale from 0 to 5. -/
def scale : List Level := [off, error, warn, info, debug, trace]

/-- The level of a name. -/
def ofName? (name : String) : Option Level := all.find? (·.name == name)

/-- The level at a place on the scale. -/
def ofInt (n : Int) : Except LevelFault Level :=
  if n < 0 then .error (.outOfScale n)
  else match scale[n.toNat]? with
    | some level => .ok level
    | none => .error (.outOfScale n)

/-- The level that a text names; `given` is what is reported when it names none. -/
def ofText (given : Json) (text : String) : Except LevelFault Level :=
  let cs := Capital.ofList (Blank.trim Blank.isBlank text.toList)
  if !cs.isEmpty && cs.all Numeral.isDigit then
    match Numeral.read cs with
    | .ok n => ofInt n
    | .error why => .error (.noNumber why)
  else match ofName? (String.ofList cs) with
    | some level => .ok level
    | none => .error (.unknown given)

/-- The level that a value means: truth values mean none, and what is no number is taken as text. -/
def ofJson : Json → Except LevelFault Level
  | .bool b => .error (.truth b)
  | .number (.int n) => ofInt n
  | other => ofText other other.plain

/-- The number of the level that a value means. -/
def numberOfJson (v : Json) : Except LevelFault Nat := (ofJson v).map number

end Level

end ShotRecorder
