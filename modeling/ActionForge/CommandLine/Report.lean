import ActionForge.Action
import ActionForge.CommandLine.Basic
import ActionForge.Json.Printer
import ActionForge.Table.Drawing

/-!
# Reports

What a command has to tell, as JSON or as a table: rows of a key and a value, or the fields of an
operation. In tables, help texts are cut to a third of the display.
-/

namespace ActionForge

/-! ## Keys and values -/

/-- Rows of a key and a value as JSON. -/
def entriesJson (entries : List (String × String)) : Json :=
  .array (entries.map fun entry => .object [("key", .text entry.1), ("value", .text entry.2)])

/-- Rows of a key and a value as a table. -/
def entriesTable (entries : List (String × String)) : Table :=
  { header := ["key", "value"], rows := entries.map fun entry => [entry.1, entry.2] }

/-- A report of keys and values on a display of the given width, if it has one. -/
def entriesReport (output : OutputFormat) (display : Option Nat) (entries : List (String × String)) :
    String :=
  match output with
  | .json => (entriesJson entries).pretty ++ "\n"
  | .table => (entriesTable entries).text display ++ "\n"

/-! ## Fields -/

/-- The fields of an operation, as the platform shows them. -/
structure Description where
  kind : OperationKind
  operation : String
  inputs : List InputField
  outputs : List OutputField
  deriving Repr

/-- Describes an operation. -/
def Context.describe (context : Context) (kind : OperationKind) (operation : String) :
    Except ActionError Description := do
  let root ← context.schema.operation kind operation
  let (inputs, outputs) ← context.platformFields operation root
  return { kind, operation, inputs, outputs }

namespace Description

/-- A description as JSON. -/
def toJson (description : Description) : Json :=
  .object
    [("kind", .text description.kind.name), ("name", .text description.operation),
      ("inputs", .array (inputsToJson description.inputs)),
      ("outputs", .array (description.outputs.map OutputField.toJson))]

/-- The mark of a required field. -/
def requiredMark (required : Bool) : String := if required then "yes" else ""

/-- The name of a field's type, in brackets for lists. -/
def typeMark (field : InputSpec) : String :=
  match field.type with
  | none => ""
  | some type => if field.list then "[" ++ type.name ++ "]" else type.name

/-- What helps to fill in a field: its choices, or else its help text. -/
def help (field : InputSpec) : String :=
  if field.choices.isEmpty then field.helpText.getD "" else String.intercalate " | " field.choices

/-- A text cut to a number of columns. -/
def clipped (limit : Nat) (text : String) : String :=
  String.ofList (Text.clip Text.display limit text.toList)

mutual

/-- The row of an input field and those of its children. -/
def inputRows (limit : Nat) : InputField → List (List String)
  | ⟨spec, children⟩ =>
    ["input", spec.key, spec.label, typeMark spec, requiredMark spec.required,
      clipped limit (help spec)] :: allInputRows limit children

/-- The rows of input fields and their children. -/
def allInputRows (limit : Nat) : List InputField → List (List String)
  | [] => []
  | field :: rest => inputRows limit field ++ allInputRows limit rest

end

/-- The row of an output field. -/
def outputRow (limit : Nat) (field : OutputField) : List String :=
  ["output", field.key, field.label, field.type.name, requiredMark field.required,
    clipped limit (field.helpText.getD "")]

/-- The columns that a help text may take. -/
def helpLimit (display : Option Nat) : Nat := max 12 ((display.map (· / 3)).getD 40)

/-- A description as a table. -/
def table (description : Description) (display : Option Nat) : Table :=
  let limit := helpLimit display
  { header := ["", "key", "label", "type", "required", "help"]
    rows := allInputRows limit description.inputs ++ description.outputs.map (outputRow limit) }

/-- A description on a display of the given width, if it has one. -/
def report (output : OutputFormat) (display : Option Nat) (description : Description) : String :=
  match output with
  | .json => description.toJson.pretty ++ "\n"
  | .table => (description.table display).text display ++ "\n"

end Description

end ActionForge
