import ShotRecorder.Fault

/-!
# Folders

The files of a working folder, by their names from there. A folder inside it is there if a file is
in it, or if it is named itself. Paths are followed part by part; a path is shown in its normal
form, without parts that lead nowhere.
-/

namespace ShotRecorder.Folder

/-- Files by their names. A name that ends with a stroke stands for a folder. -/
abbrev Files := List (String × ByteArray)

/-! ### Paths -/

/-- The parts of a path between its strokes. -/
def parts (path : String) : List String := path.splitOn "/"

/-- The parts of a path that lead somewhere. -/
def steps (path : String) : List String := (parts path).filter fun part => part != "" && part != "."

/-- The strokes at the front of a path that does not start in the working folder: one, or exactly
two. -/
def root (path : String) : String :=
  match path.toList with
  | '/' :: '/' :: '/' :: _ => "/"
  | '/' :: '/' :: _ => "//"
  | '/' :: _ => "/"
  | _ => ""

/-- The normal form of a path. -/
def normal (path : String) : String :=
  let text := root path ++ "/".intercalate (steps path)
  if text.isEmpty then "." else text

/-- The last part of a path. -/
def lastName (path : String) : String := (steps path).getLastD ""

/-! ### Following paths -/

/-- Why a path leads nowhere, or cannot be used as wanted. -/
inductive Obstacle where
  | missing
  | notFolder
  | isFolder
  | longName
  deriving DecidableEq, Repr

namespace Obstacle

/-- The system's number. -/
def number : Obstacle → Int
  | missing => 2
  | notFolder => 20
  | isFolder => 21
  | longName => 36

/-- The system's words. -/
def words : Obstacle → String
  | missing => "No such file or directory"
  | notFolder => "Not a directory"
  | isFolder => "Is a directory"
  | longName => "File name too long"

/-- The fault that a path meets an obstacle. -/
def fault (path : String) (o : Obstacle) : Fault :=
  .system o.number (o.words ++ ": " ++ Quoted.encode path)

end Obstacle

/-- The name of a file at the end of steps. -/
def nameOf (steps : List String) : String := "/".intercalate steps

/-- The step to the root, from which the names of files elsewhere start. -/
def rootStep : String := ""

/-- Whether steps lead to a folder: out of the working folder, to the root, or where a file is. -/
def isFolder (files : Files) (steps : List String) : Bool :=
  steps.all (· == "..") || steps == [rootStep] ||
    files.any fun (name, _) => (nameOf steps ++ "/").isPrefixOf name

/-- Whether steps lead to a file. -/
def isFile (files : Files) (steps : List String) : Bool := (files.lookup (nameOf steps)).isSome

/-- One step more from a folder: a step back undoes the one before it, and from the root it leads
nowhere else. -/
def advance (behind : List String) (part : String) : List String :=
  if part = "" || part = "." then behind
  else if part = ".." && behind == [rootStep] then behind
  else if part = ".." && behind.any (· != "..") then behind.dropLast
  else behind ++ [part]

/-- The steps before the first part of a path: none, or the one to the root. -/
def outset (path : String) : List String := if root path = "" then [] else [rootStep]

/-- Where the parts of a path lead, from steps that were made; all but the last must lead to
folders. -/
def follow (files : Files) (behind : List String) : List String → Except Obstacle (List String)
  | [] => .ok behind
  | part :: rest =>
    if isFolder files behind then
      if 255 < part.utf8ByteSize then .error .longName
      else follow files (advance behind part) rest
    else if isFile files behind then .error .notFolder
    else .error .missing

/-- The most bytes that a path may have. -/
def maxBytes : Nat := 4095

/-- The steps that a path leads along; an empty one leads nowhere. -/
def find (files : Files) (path : String) : Except Obstacle (List String) :=
  if path.isEmpty then .error .missing
  else if maxBytes < path.utf8ByteSize then .error .longName
  else follow files (outset path) (parts path)

/-- The names of all places along a path, if there are folders where it needs them. -/
def along (path : String) : List String :=
  ((steps path).foldl (fun (behind, names) part =>
    let behind := advance behind part
    (behind, names ++ [nameOf behind])) (outset path, [])).2

/-! ### Files -/

/-- The name and the bytes of the file that a path leads to. -/
def look (files : Files) (path : String) : Except Obstacle (String × ByteArray) := do
  let steps ← find files path
  match files.lookup (nameOf steps) with
  | some bytes => .ok (nameOf steps, bytes)
  | none => .error (if isFolder files steps then .isFolder else .missing)

/-- The bytes of the file that a path leads to. -/
def read (files : Files) (path : String) : Except Fault ByteArray :=
  match look files (normal path) with
  | .ok (_, bytes) => .ok bytes
  | .error obstacle => .error (obstacle.fault (normal path))

/-- The name under which a file is written at the end of a path. -/
def place (files : Files) (path : String) : Except Fault String :=
  if path.contains (Char.ofNat 0) then .error .zeroCharacter
  else match find files (normal path) with
  | .ok steps =>
    if isFolder files steps then .error (Obstacle.isFolder.fault (normal path))
    else .ok (nameOf steps)
  | .error obstacle => .error (obstacle.fault (normal path))

end ShotRecorder.Folder
