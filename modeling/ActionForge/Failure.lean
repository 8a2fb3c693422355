import ActionForge.ActionError
import ActionForge.Introspection.Schema
import ActionForge.Project.FileTree
import ActionForge.Sdl.Token
import ActionForge.Settings

/-!
# Failures

A run fails for one `Cause`. On the way out each part of the program may add what it was doing, so a
`Failure` reads from the outermost `Activity` down to the cause.
-/

namespace ActionForge

/-- Why a command line is refused or only shows a text about the program. -/
inductive Refusal where
  | help
  | helpForNothing
  | version
  | unknownArgument
  | unknownSubcommand
  | missingSubcommand
  | missingArgument
  | invalidValue
  | repeated
  | needlessValue
  deriving DecidableEq, Repr

/-- The wording of a refusal. -/
def Refusal.message : Refusal → String
  | .help | .helpForNothing => "help asked for"
  | .version => "version asked for"
  | .unknownArgument => "unexpected argument"
  | .unknownSubcommand => "unrecognized subcommand"
  | .missingSubcommand => "a subcommand is required"
  | .missingArgument => "a required argument is missing"
  | .invalidValue => "invalid value for an argument"
  | .repeated => "an argument cannot be used multiple times"
  | .needlessValue => "unexpected value for an argument"

/-- What a failure comes down to. -/
inductive Cause where
  | action (error : ActionError)
  | settings (defect : Settings.Defect)
  | json (fault : Json.Fault)
  | sdl (position : Sdl.Position)
  | reference (fault : Introspection.RefFault)
  | wrapperAtTop (type : String)
  | file (fault : FileFault)
  | network
  | service (code : Option String) (message : String)
  | status (line : String)
  | unsetVariable
  | settingsExist (path : String)
  | noSection (name : String)
  | refused (refusal : Refusal)
  deriving DecidableEq, Repr

/-- The wording of a cause. -/
def Cause.message : Cause → String
  | .action error => error.message
  | .settings defect => defect.message
  | .json fault => fault.message
  | .sdl position =>
    "parse error: schema parse error: Parse error at " ++ toString position.line ++ ":" ++
      toString position.column
  | .reference fault => fault.message
  | .wrapperAtTop type => "type `" ++ type ++ "` is a wrapper kind at the top level"
  | .file fault => fault.message
  | .network => "error sending request"
  | .service code message =>
    "graphql error" ++ (match code with | some code => " (" ++ code ++ ")" | none => "") ++
      (if message.isEmpty then "" else ": " ++ message)
  | .status line => "graphql http error " ++ line
  | .unsetVariable => "environment variable not found"
  | .settingsExist path => path ++ " already exists (pass --force to overwrite)"
  | .noSection name => "no `" ++ name ++ "` object in entry file"
  | .refused refusal => refusal.message

/-- What a part of the program was doing when it failed. -/
inductive Activity where
  | parsingSettings
  | readingSettings (path : String)
  | loadingSettings (path : String)
  | writingSettings (path : String)
  | choosingSchema (unset : String)
  | readingSchema (path : String)
  | parsingReply (path : String)
  | readingDefinitions (path : String)
  | understandingReply
  | followingReference (owner : Introspection.Owner)
  | asking (address : String)
  | parsingAnswer
  | generating (kind : ActionKind) (operation : String)
  | making (path : String)
  | writing (path : String)
  | reading (path : String)
  | registering (path : String)
  deriving DecidableEq, Repr

/-- The wording of an activity. -/
def Activity.message : Activity → String
  | .parsingSettings => "config is not valid JSON"
  | .readingSettings path => "failed to read config " ++ path
  | .loadingSettings path => "failed to load config " ++ path
  | .writingSettings path => "failed to write config " ++ path
  | .choosingSchema name => "no schema source: pass --schema or --url, or set " ++ name
  | .readingSchema path => "failed to read schema " ++ path
  | .parsingReply path => path ++ " is not valid JSON"
  | .readingDefinitions path => "in " ++ path
  | .understandingReply => "unexpected introspection shape"
  | .followingReference owner => owner.message
  | .asking address => "introspection request to " ++ address ++ " failed"
  | .parsingAnswer => "introspection response is not JSON"
  | .generating kind operation => "failed to generate " ++ kind.name ++ " `" ++ operation ++ "`"
  | .making path => "failed to create " ++ path
  | .writing path => "failed to write " ++ path
  | .reading path => "failed to read " ++ path
  | .registering path => "failed to register action in " ++ path

/-- A cause and the activities it put an end to, outermost first. -/
structure Failure where
  activities : List Activity
  cause : Cause
  deriving DecidableEq, Repr

/-- A failure outside any activity. -/
def Cause.failure (cause : Cause) : Failure := ⟨[], cause⟩

/-- The failure within one more activity. -/
def Failure.during (failure : Failure) (activity : Activity) : Failure :=
  { failure with activities := activity :: failure.activities }

/-- The wording, one line for each activity and the cause. -/
def Failure.messages (failure : Failure) : List String :=
  failure.activities.map Activity.message ++ [failure.cause.message]

/-- The failure of settings that cannot be had from a text. -/
def Settings.Fault.failure : Settings.Fault → Failure
  | .unreadable fault => (Cause.json fault).failure.during .parsingSettings
  | .refused defect => (Cause.settings defect).failure

/-- The failure of a reply that gives no schema. -/
def Introspection.ReplyFault.failure : Introspection.ReplyFault → Failure
  | .shape fault => (Cause.json fault).failure.during .understandingReply
  | .reference owner fault => (Cause.reference fault).failure.during (.followingReference owner)
  | .wrapperAtTop type => (Cause.wrapperAtTop type).failure

end ActionForge
