import ActionForge.EntryFile
import ActionForge.Introspection.Reply
import ActionForge.Sdl.Grammar

/-!
# Projects on a file tree

Settings and schemas are loaded from files, settings are saved, and the scripts of an action are written
and registered. A `Run` acts on a file tree; what it has written stays written when it fails later on.
-/

namespace ActionForge

/-- A computation that reads and changes a file tree and may fail. -/
abbrev Run (α : Type) := ExceptT Failure (StateM FileTree) α

namespace Run

/-- Reads from the file tree; a fault ends the activity. -/
def look {α : Type} (activity : Activity) (f : FileTree → Except FileFault α) : Run α := do
  match f (← get) with
  | .ok value => return value
  | .error fault => throw ((Cause.file fault).failure.during activity)

/-- Changes the file tree; a fault ends the activities, innermost last. -/
def change (activities : List Activity) (f : FileTree → Except FileFault FileTree) : Run Unit := do
  match f (← get) with
  | .ok tree => set tree
  | .error fault => throw ⟨activities, .file fault⟩

/-- Takes over a result. -/
def lift {α : Type} : Except Failure α → Run α
  | .ok value => return value
  | .error failure => throw failure

/-- Whether something lies at a path. -/
def isThere (path : String) : Run Bool := do return (← get).isThere path

end Run

namespace Project

/-! ## Settings -/

/-- The name of the settings file. -/
def settingsName : String := ".zapiergraphql.json"

/-- The settings file of a project. -/
def settingsPath (directory : String) : String := Path.join directory settingsName

/-- The settings in a file, or the default settings when there is no file. -/
def loadSettings (path : String) : Run Settings := do
  if ← Run.isThere path then
    let text ← Run.look (.readingSettings path) (·.read path)
    Run.lift ((Settings.ofText text).mapError fun fault => fault.failure.during (.loadingSettings path))
  else return Settings.default

/-- The text of a settings file. -/
def settingsText (settings : Settings) : String := settings.toJson.pretty ++ "\n"

/-- Makes the directory that a file is to lie in. -/
def makeParent (path : String) (activities : String → List Activity) : Run Unit := do
  match Path.parent? path with
  | some parent => Run.change (activities parent) (·.makeDirectories parent)
  | none => return ()

/-- Writes settings to a file. -/
def saveSettings (path : String) (settings : Settings) : Run Unit := do
  makeParent path fun _ => []
  Run.change [.writingSettings path] (·.write path (settingsText settings))

/-! ## Schemas -/

/-- Where a schema comes from: a service at an address, or a file. -/
inductive SchemaSource where
  | service (address : String) (headers : Entries String)
  | file (path : String)
  deriving DecidableEq, Repr

/-- The schema in the text of a file. Files with the extension `json` hold introspection replies, others
definitions. -/
def schemaOfFile (path text : String) : Except Failure Schema :=
  if Path.hasJsonExtension path then do
    let reply ← (Json.ofText text).mapError fun fault =>
      (Cause.json fault).failure.during (.parsingReply path)
    (Schema.ofIntrospection reply).mapError Introspection.ReplyFault.failure
  else
    ((Sdl.definitions text).map Schema.ofDefinitions).mapError fun position =>
      (Cause.sdl position).failure.during (.readingDefinitions path)

/-- The schema of a source. -/
def loadSchema (network : Introspection.Network) : SchemaSource → Run Schema
  | .service address headers => Run.lift (Introspection.schemaOf network address headers)
  | .file path => do
    let text ← Run.look (.readingSchema path) (·.read path)
    Run.lift (schemaOfFile path text)

/-! ## Actions -/

/-- The name of the entry file. -/
def entryName : String := "index.js"

/-- The file of an action's module. -/
def modulePath (directory : String) (kind : ActionKind) (key : String) : String :=
  Path.join (Path.join directory kind.sectionName) (key ++ ".js")

/-- The file of an action's test. -/
def testPath (directory : String) (kind : ActionKind) (key : String) : String :=
  Path.join (Path.join (Path.join directory "test") kind.sectionName) (key ++ ".test.js")

/-- Writes a file and makes the directories it needs. -/
def writeScript (path text : String) : Run Unit := do
  makeParent path fun parent => [.making parent]
  Run.change [.writing path] (·.write path text)

/-- Adds an action to an entry file and says whether that changed the file. -/
def registerIn (entry : String) (kind : ActionKind) (key : String) : Run Bool := do
  let source ← Run.look (.reading entry) (·.read entry)
  match EntryFile.register source kind key with
  | none => throw ((Cause.noSection kind.sectionName).failure.during (.registering entry))
  | some updated =>
    if updated = source then return false
    else
      Run.change [.writing entry] (·.write entry updated)
      return true

/-- Writes the scripts of an action and registers it in the entry file, if the project has one. Gives
the files that were written. -/
def writeAction (directory : String) (scripts : Scripts) : Run (List String) := do
  let module := modulePath directory scripts.kind scripts.key
  let test := testPath directory scripts.kind scripts.key
  let entry := Path.join directory entryName
  writeScript module scripts.module
  writeScript test scripts.test
  if ← Run.isThere entry then
    let changed ← registerIn entry scripts.kind scripts.key
    return [module, test] ++ (if changed then [entry] else [])
  else return [module, test]

end Project

end ActionForge
