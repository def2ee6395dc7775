import ShotRecorder.Command.Words
import ShotRecorder.Folder
import ShotRecorder.Text.Integer

/-!
# Requests

What a command line asks for: help, the schema of events, or a replay.
-/

namespace ShotRecorder.Command

/-- The options of all commands. -/
inductive Key where
  | help
  | delay
  | interval
  | echo
  | quiet
  | output
  | verbose
  deriving DecidableEq, Repr

/-- The options in front of a command. -/
def leading : Options Key where
  long := [("--help", .help)]
  short := []
  takesValue _ := false
  mixed := false

/-- The options of a command without options of its own. -/
def plain : Options Key := { leading with mixed := true }

/-- The options of a replay. -/
def ofReplay : Options Key where
  long := [("--help", .help), ("--delay-ms", .delay), ("--interval-ms", .interval),
    ("--echo", .echo), ("--no-echo", .quiet), ("--output", .output), ("--verbose", .verbose)]
  short := [('d', .delay), ('i', .interval), ('o', .output), ('v', .verbose)]
  takesValue key := [.delay, .interval, .output].contains key
  mixed := true

/-- A replay that is asked for. -/
structure ReplayRequest where
  file : String
  /-- The time from a change to its refresh, if not that of the settings. -/
  delayMillis : Option Int := none
  intervalMillis : Int := 0
  /-- Whether messages are shown as they are published. -/
  echo : Bool := false
  /-- Where the shots are saved. -/
  output : Option String := none
  deriving DecidableEq, Repr

/-- What is asked for. -/
inductive Request where
  | help
  | schema
  | replay (request : ReplayRequest)
  deriving DecidableEq, Repr

/-- A whole number that is not negative. -/
def millisOfWord (word : String) : Except Misuse Int :=
  match Integer.read word.toList with
  | .ok n => if n < 0 then .error (.badNumber word) else .ok n
  | .error _ => .error (.badNumber word)

/-- The value that was given last for a key. -/
def lastOf (options : List (Key × String)) (key : Key) : Option String :=
  options.reverse.lookup key

/-- The number of milliseconds that was given last for a key. -/
def millisOf (options : List (Key × String)) (key : Key) : Except Misuse (Option Int) :=
  match lastOf options key with
  | some word => (millisOfWord word).map some
  | none => .ok none

/-- Whether messages are to be shown, as was said last. -/
def echoOf (options : List (Key × String)) : Bool :=
  ((options.reverse.map Prod.fst).find? fun key => key = .echo || key = .quiet) == some .echo

/-- The replay that sorted words ask for. -/
def replayOf (s : Sorted Key) : Except Misuse Request := do
  let delayMillis ← millisOf s.options .delay
  let intervalMillis ← millisOf s.options .interval
  match s.arguments with
  | [] => throw .argumentMissing
  | [file] =>
    pure (.replay {
      file, delayMillis, intervalMillis := intervalMillis.getD 0, echo := echoOf s.options
      output := lastOf s.options .output })
  | _ :: extra :: _ => throw (.extraArgument extra)

/-- A request for help, if words sorted by a command's options hold one, or else another request. -/
def helpOr (o : Options Key) (words : List String) (other : Sorted Key → Except Misuse Request) :
    Except Misuse Request := do
  let s ← o.sort words
  if s.options.any (·.1 == .help) then pure .help else other s

/-- The schema, if there are no arguments. -/
def schemaOf (s : Sorted Key) : Except Misuse Request :=
  match s.arguments with
  | [] => .ok .schema
  | word :: _ => .error (.extraArgument word)

/-- What a command and the words behind it ask for; behind a word that is no command, help may still
be asked for. -/
def ofCommand : List String → Except Misuse Request
  | [] => .error .commandMissing
  | "replay" :: words => helpOr ofReplay words replayOf
  | "schema" :: words => helpOr plain words schemaOf
  | word :: words => helpOr leading (word :: words) fun _ => .error (.noCommand word)

/-- What the words of a command line ask for. -/
def ofWords (words : List String) : Except Misuse Request :=
  helpOr leading words fun s => ofCommand s.arguments

namespace Request

/-- The paths that a request uses. -/
def paths : Request → List String
  | .replay request => request.file :: request.output.toList
  | _ => []

/-- A request, if the file that is to be replayed is there. -/
def checked (files : Folder.Files) (request : Request) : Except Misuse Request :=
  match request with
  | .replay { file, .. } =>
    match Folder.look files (Folder.normal file) with
    | .ok _ => .ok request
    | .error _ => .error (.badFile file)
  | _ => .ok request

end Request

end ShotRecorder.Command
