import ActionForge.CommandLine.Run
import ActionForge.Moment
import Std.Time.DateTime.Timestamp

/-!
# The program

Reads the files that a run may need into a file tree, runs the command line on it, and writes back what
has changed. This program cannot reach services, so schemas come from files.
-/

namespace ActionForge.Program

/-! ## Files -/

/-- The locations on the way along parts. -/
def wayFrom (location : Location) : List (List Char) → List Location
  | [] => [location]
  | part :: rest =>
    location :: match FileTree.below location part with
      | .ok next => wayFrom next rest
      | .error _ => []

/-- The path of a location on the disk. -/
def diskPath (location : Location) : String := "/" ++ "/".intercalate location

/-- What lies at a location on the disk. -/
def readNode (location : Location) : IO (Option Node) := do
  try return some (.file (← IO.FS.readFile (diskPath location)))
  catch error =>
    match error with
    | .inappropriateType .. => return some .directory
    | _ => return none

/-- Adds what lies on the way to a path. -/
def look (tree : FileTree) (path : String) : IO FileTree := do
  let mut tree := tree
  for location in wayFrom (tree.start path) (Path.parts path) do
    match ← readNode location with
    | some node =>
      tree := tree.put location node
      if node != .directory then break
    | none => break
  return tree

/-- Writes what differs between two trees. -/
def writeChanges (before after : FileTree) : IO Unit := do
  for (location, node) in after.nodes.reverse do
    if before.nodes.lookup location != some node then
      match node with
      | .directory => IO.FS.createDirAll (diskPath location)
      | .file text => IO.FS.writeFile (diskPath location) text

/-- The paths that a command line may read or write. -/
def paths (line : CommandLine) : List String :=
  let directory := line.options.projectDirectory
  let scripts := match line.command with
    | .generate kind key =>
      [Project.modulePath directory kind key, Project.testPath directory kind key,
        Path.join directory Project.entryName]
    | _ => []
  line.options.settingsPath :: line.options.schemaFile.toList ++ scripts

/-- The file tree that a command line works on. -/
def treeFor (line : CommandLine) : IO FileTree := do
  let directory := (Path.parts (toString (← IO.currentDir))).map String.ofList
  (paths line).foldlM look { nodes := [(directory, .directory)], workingDirectory := directory }

/-! ## Running -/

/-- The environment variables of the given names. -/
def readVariables (names : List String) : IO (Entries String) :=
  names.filterMapM fun name => do return (← IO.getEnv name).map fun value => (name, value)

/-- How the program is called. -/
def usage : String :=
  String.intercalate "\n"
    ["Usage: zapier-graphql [OPTIONS] <COMMAND>",
      "",
      "Commands: init, trigger NAME, search NAME, create NAME, describe KIND NAME, version",
      "Options: --output, --color, --dry-run, --project-dir, --config, --schema, --url",
      ""]

/-- Answers a command line that is refused. -/
def refuse (refusal : Refusal) : IO UInt32 := do
  match refusal with
  | .help => IO.print usage; return 0
  | .version => IO.print CommandLine.versionText; return 0
  | _ => IO.eprint ("error: " ++ refusal.message ++ "\n\n" ++ usage); return 2

/-- Runs a command line. -/
def execute (line : CommandLine) (known : Entries String) : IO UInt32 := do
  let before ← treeFor line
  let urlVariables := match (Project.loadSettings line.options.settingsPath).run before with
    | (.ok settings, _) => [settings.request.urlVariable]
    | (.error _, _) => []
  let known := known ++ (← readVariables urlVariables)
  let now ← Std.Time.Timestamp.now
  let environment : Environment :=
    { envVar := known.get?
      network := fun _ _ => .unreachable
      time := Moment.text now.toSecondsSinceUnixEpoch.val }
  let (result, after) := (line.run environment).run before
  writeChanges before after
  match result with
  | .ok output => IO.print output; return 0
  | .error failure => IO.eprintln ("Error: " ++ ": ".intercalate failure.messages); return 1

end ActionForge.Program

def main (words : List String) : IO UInt32 := do
  let known ←
    ActionForge.Program.readVariables ("COLUMNS" :: ActionForge.variableOptions.map Prod.snd)
  match ActionForge.CommandLine.ofWords known.get? words with
  | .ok line => ActionForge.Program.execute line known
  | .error refusal => ActionForge.Program.refuse refusal
