import ActionForge.Project.Path
import ActionForge.Text.Bytes

/-!
# File trees

The files and directories that a run can see, and the operations on them: reading, writing, asking
whether something is there, and making directories. Paths are followed part by part from the working
directory. An operation that fails says why, as an operating system would.
-/

namespace ActionForge

/-- Where something lies: the names on the way from the root. -/
abbrev Location := List String

/-- A file with its text, or a directory. -/
inductive Node where
  | file (text : String)
  | directory
  deriving DecidableEq, Repr

/-- Files and directories by location, and the working directory. The root is always there. -/
structure FileTree where
  nodes : List (Location × Node)
  workingDirectory : Location
  deriving Repr

/-- Why an operation on files fails. -/
inductive FileFault where
  | notFound
  | notADirectory
  | isADirectory
  | alreadyExists
  | invalidInput
  | invalidFilename
  deriving DecidableEq, Repr

/-- The wording of a fault. -/
def FileFault.message : FileFault → String
  | .notFound => "No such file or directory"
  | .notADirectory => "Not a directory"
  | .isADirectory => "Is a directory"
  | .alreadyExists => "File exists"
  | .invalidInput => "file name contained an unexpected NUL byte"
  | .invalidFilename => "File name too long"

namespace FileTree

/-- What lies at a location. -/
def node? (tree : FileTree) (location : Location) : Option Node :=
  if location.isEmpty then some .directory else tree.nodes.lookup location

/-- Puts something at a location, in place of what was there. -/
def put (tree : FileTree) (location : Location) (node : Node) : FileTree :=
  { tree with nodes := (location, node) :: tree.nodes.filter fun entry => entry.1 != location }

/-- The files with their locations. -/
def files (tree : FileTree) : List (Location × String) :=
  tree.nodes.filterMap fun entry =>
    match entry.2 with
    | .file text => some (entry.1, text)
    | .directory => none

/-- Bytes that a name may have. -/
def nameLimit : Nat := 255

/-- The location of a part below a directory. -/
def below (directory : Location) (part : List Char) : Except FileFault Location :=
  if part = ['.'] then .ok directory
  else if part = ['.', '.'] then .ok directory.dropLast
  else if nameLimit < Text.byteLength part then .error .invalidFilename
  else .ok (directory ++ [String.ofList part])

/-- Follows the parts of a path. What lies on the way must be a directory; at its end there may be
nothing. -/
def follow (tree : FileTree) (location : Location) : List (List Char) → Except FileFault Location
  | [] => .ok location
  | part :: rest =>
    match tree.node? location with
    | none => .error .notFound
    | some (.file _) => .error .notADirectory
    | some .directory => do tree.follow (← below location part) rest

/-- Where a path starts. -/
def start (tree : FileTree) (path : String) : Location :=
  if Path.isAbsolute path then [] else tree.workingDirectory

/-- The parts of a path; a slash at the end asks for a directory, as a point would. -/
def steps (path : String) : List (List Char) :=
  Path.parts path ++ (if path.toList.getLast? = some '/' then [['.']] else [])

/-- The location of a path. -/
def locate (tree : FileTree) (path : String) : Except FileFault Location :=
  if path.toList.contains (Char.ofNat 0) then .error .invalidInput
  else if path.isEmpty then .error .notFound
  else tree.follow (tree.start path) (steps path)

/-- Whether something lies at a path. -/
def isThere (tree : FileTree) (path : String) : Bool :=
  match tree.locate path with
  | .ok location => (tree.node? location).isSome
  | .error _ => false

/-- The text of a file. -/
def read (tree : FileTree) (path : String) : Except FileFault String := do
  let location ← tree.locate path
  match tree.node? location with
  | some (.file text) => .ok text
  | some .directory => .error .isADirectory
  | none => .error .notFound

/-- Whether a path names a directory by its form. -/
def namesDirectory (path : String) : Bool :=
  match (steps path).getLast? with
  | some ['.'] | some ['.', '.'] | none => true
  | some _ => false

/-- Where a file would be written. -/
def writeLocation (tree : FileTree) (path : String) : Except FileFault Location := do
  let _ ← if namesDirectory path && !path.isEmpty then
      tree.follow (tree.start path) ((Path.parts path).dropLast)
    else tree.locate path
  if namesDirectory path then .error .isADirectory
  else
    let location ← tree.locate path
    match tree.node? location with
    | some .directory => .error .isADirectory
    | _ => .ok location

/-- Writes a file, in place of one that is there. -/
def write (tree : FileTree) (path text : String) : Except FileFault FileTree := do
  let location ← tree.writeLocation path
  return tree.put location (.file text)

/-- Makes the directories on the way along parts that are not there yet. -/
def makeAlong (tree : FileTree) (location : Location) :
    List (List Char) → Except FileFault FileTree
  | [] => .ok tree
  | part :: rest => do
    let next ← below location part
    match tree.node? next with
    | some .directory => tree.makeAlong next rest
    | none => (tree.put next .directory).makeAlong next rest
    | some (.file _) => .error (if rest.isEmpty then .alreadyExists else .notADirectory)

/-- Makes a directory and all that is missing above it. -/
def makeDirectories (tree : FileTree) (path : String) : Except FileFault FileTree :=
  if path.toList.contains (Char.ofNat 0) then .error .invalidInput
  else tree.makeAlong (tree.start path) (Path.parts path)

end FileTree

end ActionForge
