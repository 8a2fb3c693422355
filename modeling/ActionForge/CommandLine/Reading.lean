import ActionForge.CommandLine.Basic
import ActionForge.CommandLine.Word
import ActionForge.Failure

/-!
# Reading command lines

A command line has options of its own, then the name of a command, then that command's arguments and
options; the shared options may stand on both sides of the name. The words are read from left to right. A
value is checked when the next option or argument begins, so a word that fits nowhere is reported before a
bad value in front of it, and what is wrong after the name of the command before what is wrong ahead of it.
-/

namespace ActionForge

/-! ## Options and arguments -/

/-- What a value on the command line is for. -/
inductive Slot where
  | output
  | color
  | projectDirectory
  | settingsFile
  | schemaFile
  | address
  | operationKind
  | operation
  deriving DecidableEq, Repr

/-- Whether a slot takes a value. Paths may not be empty. -/
def Slot.accepts (slot : Slot) (value : String) : Bool :=
  match slot with
  | .output => OutputFormat.named.keys.contains value
  | .color => ["auto", "always", "never"].contains value
  | .projectDirectory | .settingsFile | .schemaFile => !value.isEmpty
  | .operationKind => OperationKind.named.keys.contains value
  | .address | .operation => true

/-- The options that take values. -/
def valueOptions : Entries Slot :=
  [("output", .output), ("color", .color), ("project-dir", .projectDirectory),
    ("config", .settingsFile), ("schema", .schemaFile), ("url", .address)]

/-- The environment variables that stand in for options. -/
def variableOptions : List (Slot × String) :=
  [(.settingsFile, "ZAPIER_GRAPHQL_CONFIG"), (.schemaFile, "ZAPIER_GRAPHQL_SCHEMA")]

/-- The options that take no values. -/
inductive Flag where
  | dryRun
  | force
  deriving DecidableEq, Repr

/-- The names of commands. -/
inductive Subcommand where
  | init
  | generate (kind : ActionKind)
  | describe
  | version
  deriving DecidableEq, Repr

/-- The commands under their names. -/
def Subcommand.named : Entries Subcommand :=
  [("init", .init), ("trigger", .generate .trigger), ("search", .generate .search),
    ("create", .generate .create), ("describe", .describe), ("version", .version)]

/-- The name under which help is asked for as if it were a command. -/
def helpName : String := "help"

/-- Whether a word is the name of a command. -/
def isCommandName (word : String) : Bool := word = helpName || Subcommand.named.keys.contains word

/-- Where words are read: before the name of the command, or after it. -/
abbrev Place := Option Subcommand

namespace Place

/-- The options without values that may stand here. -/
def flags : Place → Entries Flag
  | some .init => [("dry-run", .dryRun), ("force", .force)]
  | _ => [("dry-run", .dryRun)]

/-- The arguments that are read here. -/
def arguments : Place → List Slot
  | some (.generate _) => [.operation]
  | some .describe => [.operationKind, .operation]
  | _ => []

/-- What a long option that shows a text asks for. -/
def shownBy (place : Place) (name : String) : Option Refusal :=
  if name = "help" then some .help
  else if name = "version" && place.isNone then some .version
  else none

/-- What a short option asks for. -/
def shownByLetter (place : Place) (letter : Char) : Option Refusal :=
  if letter = 'h' then some .help
  else if letter = 'V' && place.isNone then some .version
  else none

/-- Why a plain word is refused that nothing is left to read for. -/
def stray (place : Place) (literal : Bool) (word : String) : Refusal :=
  if place.isSome || (literal && isCommandName word) then .unknownArgument else .unknownSubcommand

end Place

/-! ## Reading words -/

/-- What has been read in one place. `pending` is a slot whose value is not checked yet, or still to come;
`free` are the arguments still to come; after the end of options every word is literal. -/
structure Reading where
  values : List (Slot × String)
  flags : List Flag
  pending : Option (Slot × Option String)
  free : List Slot
  literal : Bool
  deriving DecidableEq, Repr

namespace Reading

/-- Nothing read yet. -/
def start (place : Place) : Reading :=
  { values := [], flags := [], pending := none, free := place.arguments, literal := false }

/-- Whether the next word is the value of an option, if it may be one. -/
def awaitsValue (reading : Reading) : Bool :=
  match reading.pending with
  | some (_, none) => true
  | _ => false

/-- Gives a slot its value, once. -/
def give (reading : Reading) (slot : Slot) (value : String) : Except Refusal Reading :=
  if (reading.values.lookup slot).isSome then .error .repeated
  else if slot.accepts value then .ok { reading with values := reading.values ++ [(slot, value)] }
  else .error .invalidValue

/-- Checks the pending value. -/
def settle (reading : Reading) : Except Refusal Reading :=
  match reading.pending with
  | none => .ok reading
  | some (_, none) => .error .invalidValue
  | some (slot, some value) => { reading with pending := none }.give slot value

/-- Sets a flag, once. -/
def setFlag (reading : Reading) (flag : Flag) : Except Refusal Reading :=
  if reading.flags.contains flag then .error .repeated
  else .ok { reading with flags := flag :: reading.flags }

/-- Refuses the line once the pending value is checked. -/
def refuse (reading : Reading) (refusal : Refusal) : Except Refusal Reading := do
  let _ ← reading.settle
  .error refusal

/-- Reads a long option that takes no value. -/
def readFlag (reading : Reading) (place : Place) (name : String) : Except Refusal Reading :=
  match place.shownBy name, place.flags.get? name with
  | some refusal, _ => reading.refuse refusal
  | none, some flag => do (← reading.settle).setFlag flag
  | none, none => .error .unknownArgument

/-- Whether a long option that takes no value may stand here. -/
def knowsFlag (place : Place) (name : String) : Bool :=
  (place.shownBy name).isSome || (place.flags.get? name).isSome

/-- Reads a long option. -/
def readLong (reading : Reading) (place : Place) (name : String) (value : Option String) :
    Except Refusal Reading :=
  match valueOptions.get? name, value with
  | some slot, some value => do (← reading.settle).give slot value
  | some slot, none => do return { ← reading.settle with pending := some (slot, none) }
  | none, some _ => .error (if knowsFlag place name then .needlessValue else .unknownArgument)
  | none, none => reading.readFlag place name

/-- Reads short options, the first of which decides. -/
def readShort (reading : Reading) (place : Place) (letters : List Char) : Except Refusal Reading :=
  match letters.head?.bind place.shownByLetter with
  | some refusal => reading.refuse refusal
  | none => .error .unknownArgument

/-- Reads a plain word as an argument. -/
def readArgument (reading : Reading) (place : Place) (word : String) : Except Refusal Reading :=
  match reading.free with
  | slot :: free => do return { ← reading.settle with pending := some (slot, some word), free }
  | [] => .error (place.stray reading.literal word)

/-- Reads a plain word as a value that is awaited, else as an argument. -/
def readPlain (reading : Reading) (place : Place) (word : String) : Except Refusal Reading :=
  match reading.pending with
  | some (slot, none) => .ok { reading with pending := some (slot, some word) }
  | _ => reading.readArgument place word

/-- Reads a word. -/
def read (reading : Reading) (place : Place) (word : String) : Except Refusal Reading :=
  if reading.literal then reading.readArgument place word
  else
    match Word.ofText word with
    | .endOfOptions => .ok { reading with literal := true }
    | .long name value => reading.readLong place name value
    | .short letters => reading.readShort place letters
    | .plain => reading.readPlain place word

/-- Whether a word is the name of a command, where one may stand. -/
def isCommand (reading : Reading) (word : String) : Bool :=
  !reading.literal && !reading.awaitsValue && isCommandName word

/-- Checks the last value and the environment variables that stand in for options. -/
def close (reading : Reading) (envVar : String → Option String) : Except Refusal Reading := do
  let reading ← reading.settle
  let isBad := variableOptions.any fun (slot, name) =>
    (reading.values.lookup slot).isNone && (envVar name).any (!slot.accepts ·)
  if isBad then .error .invalidValue else .ok reading

/-- The command that the arguments make up, if none is missing. -/
def command? (reading : Reading) : Subcommand → Option Command
  | .init => some (.init (reading.flags.contains .force))
  | .version => some .version
  | .generate kind => (reading.values.lookup .operation).map (.generate kind)
  | .describe => do
    let kind ← OperationKind.named.get? (← reading.values.lookup .operationKind)
    return .describe kind (← reading.values.lookup .operation)

end Reading

/-! ## Whole lines -/

namespace CommandLine

/-- What a request for help comes to. Commands have no commands of their own to show help for. -/
def helpRefusal : List String → Refusal
  | [] => .help
  | [word] => if isCommandName word then .help else .unknownSubcommand
  | _ => .unknownSubcommand

/-- Reads the words after the name of a command. -/
def readCommand (envVar : String → Option String) (name : Subcommand) (words : List String) :
    Except Refusal (Reading × Command) := do
  let reading ← words.foldlM (Reading.read · (some name)) (.start (some name))
  let reading ← reading.close envVar
  match reading.command? name with
  | some command => .ok (reading, command)
  | none => .error .missingArgument

/-- Why a line without a command is refused: nothing at all asks for help. -/
def refusalWithoutCommand (envVar : String → Option String) (reading : Reading) : Refusal :=
  if reading.values.isEmpty && reading.flags.isEmpty &&
      variableOptions.all fun option => (envVar option.2).isNone then .helpForNothing
  else .missingSubcommand

/-- The options from both sides of the command's name, the environment and the defaults, the later
counting less. -/
def optionsFrom (envVar : String → Option String) (before after : Reading) : Options :=
  let value? (slot : Slot) : Option String :=
    (after.values.lookup slot).or ((before.values.lookup slot).or
      ((variableOptions.lookup slot).bind envVar))
  { output := ((value? .output).bind OutputFormat.named.get?).getD .table
    dryRun := (after.flags ++ before.flags).contains .dryRun
    projectDirectory := (value? .projectDirectory).getD "."
    settingsFile := value? .settingsFile
    schemaFile := value? .schemaFile
    address := value? .address }

/-- Reads the words of a line of which some have been read before the name of the command. -/
def readFrom (envVar : String → Option String) (reading : Reading) :
    List String → Except Refusal CommandLine
  | [] => do
    let reading ← reading.close envVar
    .error (refusalWithoutCommand envVar reading)
  | word :: rest =>
    if reading.isCommand word then
      match Subcommand.named.get? word with
      | none => .error (helpRefusal rest)
      | some name => do
        let (after, command) ← readCommand envVar name rest
        let before ← reading.close envVar
        .ok { options := optionsFrom envVar before after, command }
    else do readFrom envVar (← reading.read none word) rest

/-- The command line that words make up, with the environment variables that stand in for options. -/
def ofWords (envVar : String → Option String) (words : List String) : Except Refusal CommandLine :=
  readFrom envVar (.start none) words

end CommandLine

end ActionForge
