import ShotRecorder.Folder
import ShotRecorder.Logger
import ShotRecorder.Settings.Reading

/-!
# The configuration of a process

The environment, the files of the working folder, the loggers, and the settings that were loaded
from them. Settings are loaded once and kept until they are forgotten. Loading names a stage in the
environment if it names none; names of variables count with their case there.
-/

namespace ShotRecorder

/-- What settings and loggers depend on. -/
structure Configuration where
  environment : VariableFile.Variables := []
  folder : Folder.Files := []
  loggers : Loggers := []
  /-- The settings loaded last, unless forgotten. -/
  loaded : Option Settings := none

namespace Configuration

/-- A variable set only if its exact name is not set. -/
def setDefault (environment : VariableFile.Variables) (name value : String) :
    VariableFile.Variables :=
  match environment.lookup name with
  | some _ => environment
  | none => environment ++ [(name, value)]

/-- A variable removed. -/
def unset (c : Configuration) (name : String) : Configuration :=
  { c with environment := c.environment.filter (·.1 != name) }

/-- Why a variable cannot be set. -/
def refusal? (name value : String) : Option Fault :=
  if name.contains zero || value.contains zero then some .zeroCharacter
  else if name.contains '=' then some .equalsSign
  else if name.isEmpty then some (.system 22 "Invalid argument")
  else none
where
  zero := Char.ofNat 0

/-- Variables set one after the other, up to the first that cannot be set. -/
def setAll (c : Configuration) :
    VariableFile.Variables → Except Fault Unit × Configuration
  | [] => (.ok (), c)
  | (name, value) :: rest =>
    match refusal? name value with
    | some fault => (.error fault, c)
    | none => setAll { c with environment := VariableFile.put c.environment name value } rest

/-- Files written into the folder. -/
def write (c : Configuration) (files : Folder.Files) : Configuration :=
  { c with folder := files ++ c.folder.filter fun (name, _) => (files.lookup name).isNone }

/-- The variable that keeps variables of files from being set. -/
def lock : String := "PYTHON_DOTENV_DISABLED"

/-- Whether variables of files are kept from being set. -/
def isLocked (c : Configuration) : Bool :=
  (c.environment.lookup lock).any fun word => ["1", "true", "t", "yes", "y"].contains word.toLower

/-- The variables of a file that are not set already. -/
def news (c : Configuration) (entries : VariableFile.Entries) : VariableFile.Variables :=
  entries.filterMap fun (name, value) =>
    if (c.environment.lookup name).isSome then none else value.map fun value => (name, value)

/-- The variables of a file set, but for those that are set already. -/
def adopt (c : Configuration) (file : String) : Except Fault Configuration :=
  match c.folder.lookup file with
  | none => .ok c
  | some bytes =>
    if c.isLocked then .ok c
    else do
      let text ← Encoding.textOf bytes
      let (done, c) := c.setAll (c.news (VariableFile.read c.environment false text))
      done
      pure c

/-- The loaded settings forgotten. -/
def forget (c : Configuration) : Configuration := { c with loaded := none }

/-- The kept settings, or those that the environment and the files give, which are then kept. -/
def load (c : Configuration) : Except Fault Settings × Configuration :=
  match c.loaded with
  | some settings => (.ok settings, c)
  | none =>
    let environment := setDefault c.environment SettingName.stage.official Stage.dev.name
    let c := { c with environment }
    match Settings.load [] environment c.folder with
    | .ok settings => (.ok settings, { c with loaded := some settings })
    | .error fault => (.error fault, c)

end Configuration

end ShotRecorder
