import ActionForge.Document
import ActionForge.Form.Build
import ActionForge.Sample

/-!
# Actions

`Context.generate` turns a root field into an action: its document, its form, its records and sample data
for both.
-/

namespace ActionForge

/-- What an operation gives back. -/
inductive ResultShape where
  | list
  | object
  | scalar
  deriving DecidableEq, Repr

/-- The name of a result shape. -/
def ResultShape.name : ResultShape → String
  | .list => "list"
  | .object => "object"
  | .scalar => "scalar"

/-- The result shapes under their names. -/
def ResultShape.named : Entries ResultShape :=
  [.list, .object, .scalar].map fun shape => (shape.name, shape)

/-- A generated action. `key` is the name of its root field; `idSource` is the field that is copied into
the identifier of every record. -/
structure Action where
  kind : ActionKind
  key : String
  noun : String
  label : String
  description : String
  document : String
  inputs : List InputField
  outputs : List OutputField
  inputSample : SampleData
  outputSample : SampleData
  shape : ResultShape
  idSource : Option String
  deriving Repr

/-- The description of an action whose root field has none. -/
def ActionKind.describe (kind : ActionKind) (label : String) : String :=
  match kind with
  | .trigger => "Triggers on " ++ label ++ "."
  | .search => "Finds " ++ label ++ "."
  | .create => "Creates " ++ label ++ "."

/-- The shape of a result with the given details. -/
def TypeDetails.shape (details : TypeDetails) : ResultShape :=
  if details.fieldType.isSome then .scalar else if details.isList then .list else .object

namespace Context

/-- The document of an operation. -/
def document (context : Context) (kind : OperationKind) (operation : String) (root : FieldDef)
    (shape : ResultShape) : Except ActionError String := do
  let inputs ← context.inputFields root.arguments .document
  let outputs ← context.outputFields root.type operation .document
  let selection := match shape with
    | .scalar => Selection.scalar
    | .list | .object => .ofFields outputs
  return (Operation.ofForm kind operation inputs selection).text

/-- The form of an operation as the platform shows it, and the fields of its records. -/
def platformFields (context : Context) (operation : String) (root : FieldDef) :
    Except ActionError (List InputField × List OutputField) := do
  let inputs ← context.inputFields root.arguments .platform
  let outputs ← context.outputFields root.type operation .platform
  return (flatten inputs, outputs)

/-- The root field for an action. A search must have an argument to search by. -/
def rootFor (context : Context) (kind : ActionKind) (operation : String) :
    Except ActionError FieldDef := do
  let root ← context.schema.operation kind.operationKind operation
  if kind = .search && root.arguments.isEmpty then .error (.noArguments operation) else .ok root

/-- The action of the given kind for an operation. -/
def generate (context : Context) (kind : ActionKind) (operation : String) :
    Except ActionError Action := do
  let root ← context.rootFor kind operation
  let returned ← context.resolve root.type (some operation)
  let document ← context.document kind.operationKind operation root returned.shape
  let (inputs, outputs) ← context.platformFields operation root
  let inputSample ← sampleInputs context.settings.samples inputs
  let outputSample ← sampleOutputs context.settings.samples outputs
  let label := labelFor operation
  return {
    kind, key := operation, noun := labelFor returned.typeName, label,
    description := root.description.getD (kind.describe label),
    document, inputs, outputs, inputSample, outputSample, shape := returned.shape,
    idSource := context.idSource? returned.typeName }

end Context

end ActionForge
