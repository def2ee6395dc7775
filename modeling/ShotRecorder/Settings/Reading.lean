import ShotRecorder.Folder
import ShotRecorder.Settings.Basic
import ShotRecorder.Settings.VariableFile
import ShotRecorder.Text.Integer
import ShotRecorder.Text.Small

/-!
# Reading settings

Settings come from arguments, from the environment and from variable files; the first of these that
gives a setting counts. Each setting has two names, an official one and a short one. In every source
the official name goes first, and a variable under an official name goes before all variables under
a short one; names are compared without regard to case. A complaint about a setting is placed under
the name that gave it; for arguments this is the official one unless the short one was spelt as it
should be.

Arguments whose names start with a low line are no settings: they say which files are read, and how
variables are looked at.
-/

namespace ShotRecorder

/-- The names of a setting. -/
structure SettingName where
  official : String
  short : String

namespace SettingName

def stage : SettingName := ⟨"SHOTSTREAM_ENV", "environment"⟩
def level : SettingName := ⟨"LOG_LEVEL", "log_level"⟩
def refreshMillis : SettingName := ⟨"SHOTSTREAM_REFRESH_DELAY_MS", "refresh_delay_ms"⟩
def capture : SettingName := ⟨"SHOTSTREAM_CAPTURE_EVENTS", "capture_events"⟩

/-- The names of all settings. -/
def all : List SettingName := [stage, level, refreshMillis, capture]

end SettingName

/-- A value for a setting, and the name that complaints about it go by. -/
structure Given where
  value : Json
  place : String

/-! ### How sources are looked at -/

/-- Which files are read, and how variables are looked at. -/
structure Outlook where
  /-- The variable files, from the weakest to the strongest. -/
  files : List String := [".env", ".env.local", ".env.dev", ".env.test", ".env.prod"]
  /-- Whether the case of a variable's name counts. -/
  caseCounts : Bool := false
  /-- What variables under short names start with. -/
  front : String := ""
  /-- Whether variables with empty values count as not given. -/
  ignoresEmpty : Bool := false
  /-- The value that stands for null. -/
  null : Option String := none

namespace Outlook

/-- The files that an argument names: one, several, or none. -/
def filesOf : Json → List String
  | .string name => [name]
  | .array names => names.filterMap fun name =>
    match name with
    | .string name => some name
    | _ => none
  | _ => []

/-- The outlook that arguments ask for. -/
def ofArguments (arguments : Members) : Outlook :=
  let default : Outlook := {}
  let isTrue := fun name => arguments.get? name matches some (.bool true)
  let text := fun name =>
    match arguments.get? name with
    | some (.string text) => some text
    | _ => none
  { files := ((arguments.get? "_env_file").map filesOf).getD default.files
    caseCounts := isTrue "_case_sensitive"
    front := (text "_env_prefix").getD default.front
    ignoresEmpty := isTrue "_env_ignore_empty"
    null := text "_env_parse_none_str" }

/-- Whether two names of variables are the same. -/
def sameName (o : Outlook) (a b : String) : Bool :=
  if o.caseCounts then a == b else Small.ofText a == Small.ofText b

/-- The variables that count. -/
def counted (o : Outlook) (entries : VariableFile.Entries) : VariableFile.Entries :=
  if o.ignoresEmpty then entries.filter (·.2 != some "") else entries

/-- The last variable of a name, if it has a value. -/
def find? (o : Outlook) (entries : VariableFile.Entries) (name : String) : Option Json := do
  let (_, value) ← (o.counted entries).reverse.find? fun (key, _) => o.sameName key name
  let text ← value
  some (if o.null == some text then .null else .string text)

end Outlook

/-! ### Sources -/

/-- Where settings come from; of the variable files a later one goes before an earlier one. -/
structure Sources where
  arguments : Members := []
  environment : VariableFile.Variables := []
  files : VariableFile.Entries := []
  outlook : Outlook := {}

namespace Sources

/-- The first argument under one of the names. -/
def ofArguments? (sources : Sources) (name : SettingName) : Option Given :=
  let ofName := fun (wanted : String) =>
    (sources.arguments.find? fun (key, _) => Small.ofText key == Small.ofText wanted).map
      fun (key, value) => { value, place := if key = name.short then key else name.official }
  (ofName name.official).or (ofName name.short)

/-- The variable of a name, from the environment or else from the files. -/
def ofVariables? (sources : Sources) (name : String) : Option Json :=
  let environment := sources.environment.map fun (name, value) => (name, some value)
  (sources.outlook.find? environment name).or (sources.outlook.find? sources.files name)

/-- The value for a setting that goes before all others. -/
def find? (sources : Sources) (name : SettingName) : Option Given :=
  let official := (sources.ofVariables? name.official).map fun value =>
    { value, place := name.official }
  let short := (sources.ofVariables? (sources.outlook.front ++ name.short)).map fun value =>
    { value, place := name.short }
  (sources.ofArguments? name).or (official.or short)

end Sources

namespace Settings

/-! ### Single settings -/

/-- One of the stages by name. -/
def stageOf (path : Path) (v : Json) : Checked Stage :=
  let problem := Problem.notOneOf (Stage.all.map Stage.name)
  match v with
  | .string s =>
    match Stage.all.find? (·.name == s) with
    | some stage => .pass stage
    | none => .fail problem path v
  | _ => .fail problem path v

/-- A log level. -/
def levelOf (path : Path) (v : Json) : Checked Level :=
  match Level.ofJson v with
  | .ok level => .pass level
  | .error why => .fail (.refused why.message) path v

/-- A whole number in digits. -/
def intOfText (path : Path) (v : Json) (text : String) : Checked Int :=
  match Integer.read text.toList with
  | .ok n => .pass n
  | .error .unclear => .fail .unclearInt path v
  | .error .tooLong => .fail .hugeInt path v

/-- A whole number: itself, a truth value, a number without a fraction, or digits. -/
def intOf (path : Path) (v : Json) : Checked Int :=
  match v with
  | .number (.int n) => .pass n
  | .bool b => .pass (if b then 1 else 0)
  | .number (.float x) =>
    let b := Decimal.Binary.ofFloat x
    if !Decimal.finite x then .fail .notFinite path v
    else if !b.isWhole then .fail .fractional path v
    else if b.truncate.natAbs < Decimal.twoTo 63 then .pass b.truncate
    else .fail .hugeInt path v
  | .string text => intOfText path v text
  | _ => .fail .notInt path v

/-- A number of milliseconds, not negative. -/
def millisOf (path : Path) (v : Json) : Checked Nat :=
  match intOf path v with
  | .ok n => if n < 0 then .fail .negative path v else .pass n.toNat
  | .error found => .error found

/-! ### All settings -/

/-- A setting from the sources, or its default where none gives it. -/
def setting {α : Type} (sources : Sources) (name : SettingName) (check : Path → Json → Checked α)
    (absent : α) : Checked α :=
  match sources.find? name with
  | some given => check [.key given.place] given.value
  | none => .pass absent

/-- The settings that the sources give. -/
def ofSources (sources : Sources) : Checked Settings :=
  let default : Settings := {}
  Settings.mk <$> setting sources .stage stageOf default.stage
    <*> setting sources .level levelOf default.level
    <*> setting sources .refreshMillis millisOf default.refreshMillis
    <*> setting sources .capture Field.bool default.capture

/-- The entries of the variable files in a folder; those that are not there have none. -/
def entriesOf (environment : VariableFile.Variables) (folder : Folder.Files)
    (names : List String) : Except Fault VariableFile.Entries := do
  let files ← names.mapM fun name =>
    match Folder.look folder (Folder.normal name) with
    | .error _ => .ok []
    | .ok (_, bytes) => (Encoding.textOf bytes).map (VariableFile.read environment true)
  pure files.flatten

/-- The settings that arguments, the environment and the files of a folder give. -/
def load (arguments : Members) (environment : VariableFile.Variables)
    (folder : Folder.Files) : Except Fault Settings := do
  let outlook := Outlook.ofArguments arguments
  let files ← entriesOf environment folder outlook.files
  (ofSources { arguments, environment, files, outlook }).orFault

end Settings

end ShotRecorder
