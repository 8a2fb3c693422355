import ActionForge.Entries
import ActionForge.Vocabulary

/-!
# Command lines

What a run of the program is asked to do: a command, and the options that every command shares.
-/

namespace ActionForge

/-- How results are printed. -/
inductive OutputFormat where
  | json
  | table
  deriving DecidableEq, Repr

/-- The output formats under their names. -/
def OutputFormat.named : Entries OutputFormat := [("json", .json), ("table", .table)]

/-- What the program is to do. -/
inductive Command where
  /-- Write default settings, over settings that are there if forced to. -/
  | init (force : Bool)
  /-- Generate the action of a kind for a root field. -/
  | generate (kind : ActionKind) (operation : String)
  /-- Show the fields of a root field. -/
  | describe (kind : OperationKind) (operation : String)
  /-- Show the version of the program. -/
  | version
  deriving DecidableEq, Repr

/-- Options of every command. In a dry run, files are printed and not written. -/
structure Options where
  output : OutputFormat
  dryRun : Bool
  projectDirectory : String
  settingsFile : Option String
  schemaFile : Option String
  address : Option String
  deriving DecidableEq, Repr

/-- A command with its options. -/
structure CommandLine where
  options : Options
  command : Command
  deriving DecidableEq, Repr

end ActionForge
