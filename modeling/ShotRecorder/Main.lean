import ShotRecorder.Command.Run

/-!
# The program

Reads what a request needs from the environment and the disk, answers the request, and writes what
it leaves.
-/

namespace ShotRecorder.Program

/-- The variables of the environment that settings may come from. -/
def environmentVariables : IO VariableFile.Variables := do
  let names := SettingName.all.flatMap fun name => [name.official, name.short]
  let found ← names.mapM fun name => return (← IO.getEnv name).map fun value => (name, value)
  return found.filterMap id

/-- What is on the disk under a name: a file, a folder, or nothing. -/
def onDisk (name : String) : IO Folder.Files := do
  try
    return [(name, ← IO.FS.readBinFile name)]
  catch _ =>
    try
      discard (IO.FS.Handle.mk name .read)
      return [(name ++ "/", ByteArray.empty)]
    catch _ => return []

/-- What is on the disk along some paths. -/
def alongPaths (paths : List String) : IO Folder.Files := do
  return (← (paths.flatMap Folder.along).eraseDups.mapM onDisk).flatten

/-- Writes the files that are new or have changed. -/
def writeChanges (before after : Folder.Files) : IO Unit :=
  after.forM fun (name, bytes) =>
    if before.lookup name == some bytes then pure () else IO.FS.writeBinFile name bytes

/-- Answers a command line; its status is 2 if it is misused. -/
def run (words : List String) : IO UInt32 := do
  let misused := fun (misuse : Command.Misuse) => do
    IO.eprintln misuse.message
    return (2 : UInt32)
  match Command.ofWords words with
  | .error misuse => misused misuse
  | .ok request =>
    let folder ← alongPaths (({} : Outlook).files ++ request.paths)
    match request.checked folder with
    | .error misuse => misused misuse
    | .ok request =>
      let environment ← environmentVariables
      let outcome := Command.run { environment, folder } request
      IO.print outcome.text
      writeChanges folder outcome.configuration.folder
      if let some fault := outcome.fault then IO.eprintln fault.message
      return outcome.status.toUInt32

end ShotRecorder.Program

/-- The program. -/
def main (words : List String) : IO UInt32 := ShotRecorder.Program.run words
