import ActionForge.CommandLine.Reading
import ActionForge.CommandLine.Report
import ActionForge.Project.Store

/-!
# Running commands

A run acts on a file tree and gives the text it prints. What else it knows of the world is in an
`Environment`. `CommandLine.run` is the program, apart from reading its words.
-/

namespace ActionForge

/-- What a run knows of the world apart from files: environment variables, the network and the time. -/
structure Environment where
  envVar : String → Option String
  network : Introspection.Network
  time : String

/-- The number that digits are, after a plus sign if there is one; none when it exceeds 16 bits. -/
def columnCount? (text : List Char) : Option Nat :=
  let digits := match text with
    | '+' :: rest => rest
    | _ => text
  if digits.isEmpty || !digits.all Char.isDigit then none
  else
    let count := digits.foldl (fun count digit => 10 * count + (digit.toNat - 48)) 0
    if count < Nat.pow 2 16 then some count else none

/-- The width of the display, if it is known. -/
def Environment.display (environment : Environment) : Option Nat :=
  (environment.envVar "COLUMNS").bind fun text => columnCount? text.toList

namespace Options

/-- The settings file of a run. -/
def settingsPath (options : Options) : String :=
  options.settingsFile.getD (Project.settingsPath options.projectDirectory)

/-- Where a run takes its schema from: a file, an address, or else the address in the environment
variable that the settings name. -/
def schemaSource (options : Options) (environment : Environment) (settings : Settings) :
    Except Failure Project.SchemaSource :=
  let name := settings.request.urlVariable
  match options.schemaFile, options.address.or (environment.envVar name) with
  | some path, _ => .ok (.file path)
  | none, some address => .ok (.service address settings.request.headers)
  | none, none => .error (Cause.unsetVariable.failure.during (.choosingSchema name))

/-- Loads settings and schema. -/
def load (options : Options) (environment : Environment) : Run Context := do
  let settings ← Project.loadSettings options.settingsPath
  let source ← Run.lift (options.schemaSource environment settings)
  return { schema := ← Project.loadSchema environment.network source, settings }

/-- Writes default settings. -/
def runInit (options : Options) (environment : Environment) (force : Bool) : Run String := do
  let path := options.settingsPath
  if (← Run.isThere path) && !force then throw (Cause.settingsExist path).failure
  if options.dryRun then return Project.settingsText Settings.default
  Project.saveSettings path Settings.default
  return entriesReport options.output environment.display [("config", path)]

/-- The scripts of an action as text, each after its path. -/
def preview (options : Options) (scripts : Scripts) : String :=
  let directory := options.projectDirectory
  "// " ++ Project.modulePath directory scripts.kind scripts.key ++ "\n" ++ scripts.module ++ "\n" ++
    "// " ++ Project.testPath directory scripts.kind scripts.key ++ "\n" ++ scripts.test

/-- Generates an action. -/
def runGenerate (options : Options) (environment : Environment) (kind : ActionKind)
    (operation : String) : Run String := do
  let context ← options.load environment
  let action ← Run.lift ((context.generate kind operation).mapError fun error =>
    (Cause.action error).failure.during (.generating kind operation))
  let scripts := action.scripts context.settings environment.time
  if options.dryRun then return options.preview scripts
  let written ← Project.writeAction options.projectDirectory scripts
  return entriesReport options.output environment.display (written.map fun path => ("written", path))

/-- Describes an operation. -/
def runDescribe (options : Options) (environment : Environment) (kind : OperationKind)
    (operation : String) : Run String := do
  let context ← options.load environment
  let description ← Run.lift ((context.describe kind operation).mapError fun error =>
    (Cause.action error).failure)
  return description.report options.output environment.display

end Options

namespace CommandLine

/-- What the program prints when it is asked for its version. -/
def versionText : String := "zapier-graphql 0.1.0\n"

/-- Runs a command and gives what it prints. -/
def run (line : CommandLine) (environment : Environment) : Run String :=
  match line.command with
  | .init force => line.options.runInit environment force
  | .generate kind operation => line.options.runGenerate environment kind operation
  | .describe kind operation => line.options.runDescribe environment kind operation
  | .version => return versionText

/-- Reads the words of a command line and runs it. -/
def runWords (words : List String) (environment : Environment) : Run String := do
  let line ← Run.lift ((ofWords environment.envVar words).mapError fun refusal =>
    (Cause.refused refusal).failure)
  line.run environment

end CommandLine

end ActionForge
