import ActionForge.ActionError
import ActionForge.Form.Basic

/-!
# Operation documents

The GraphQL operation that an action sends. It is first an `Operation`: a root field with arguments and
selected fields. Argument values are placeholders of a template text that read what the user filled in.
The children of a lone wrapper are read from the top level, other children from inside their parent's
object. `Operation.text` lays the operation out, two blanks a level.
-/

namespace ActionForge

/-- The object that holds what the user filled in. -/
def inputData : String := "bundle.inputData"

/-- A value read when the action runs: from the object reached through `parents`, under `key`. -/
structure Placeholder where
  parents : List String
  key : String
  list : Bool
  quoted : Bool
  required : Bool
  deriving DecidableEq, Repr

/-- An argument: a placeholder, or an object of arguments. -/
inductive Argument where
  | value (name : String) (placeholder : Placeholder)
  | object (name : String) (members : List Argument)
  deriving Repr

/-- What an operation selects from its result: nothing from a scalar, fields from an object. -/
inductive Selection where
  | scalar
  | fields (names : List String)
  deriving DecidableEq, Repr

/-- An operation with a single root field. -/
structure Operation where
  kind : OperationKind
  name : String
  arguments : List Argument
  selection : Selection
  deriving Repr

/-! ## Operations from forms -/

/-- The placeholder of a leaf below an object. Texts are quoted unless they name an enum value. -/
def Placeholder.ofField (parents : List String) (field : InputSpec) : Placeholder :=
  { parents
    key := field.platformKey
    list := field.list
    quoted := field.choices.isEmpty && field.type.any FieldType.isTextual
    required := field.required }

mutual

/-- The argument for a field whose siblings are read from the object reached through `parents`.
`promoted` says that the children are read from there too. -/
def Argument.ofField (parents : List String) (promoted : Bool) : InputField → Argument
  | ⟨spec, []⟩ => .value spec.schemaName (.ofField parents spec)
  | ⟨spec, child :: rest⟩ =>
    let parents := if promoted then parents else parents ++ [spec.platformKey]
    .object spec.schemaName (.ofField parents false child :: argumentsOf parents false rest)

/-- The arguments for fields. -/
def argumentsOf (parents : List String) (promoted : Bool) : List InputField → List Argument
  | [] => []
  | field :: rest => .ofField parents promoted field :: argumentsOf parents promoted rest

end

/-- The name under which an output field is selected. -/
def OutputField.selectedName (field : OutputField) : String := field.field.getD field.key

/-- The selection of output fields. -/
def Selection.ofFields (outputs : List OutputField) : Selection :=
  .fields (outputs.map OutputField.selectedName)

/-- The operation for a form. -/
def Operation.ofForm (kind : OperationKind) (name : String) (inputs : List InputField)
    (selection : Selection) : Operation :=
  { kind, name, arguments := argumentsOf [] (isLoneWrapper inputs) inputs, selection }

/-! ## Text -/

/-- The expression that reads the value: objects on the way may be missing. -/
def Placeholder.path (p : Placeholder) : String :=
  inputData ++ String.join (p.parents.map fun parent => "." ++ parent ++ "?") ++ "." ++ p.key

/-- The placeholder's text. Lists are written as JSON, and optional values have something to fall back
to. -/
def Placeholder.text (p : Placeholder) : String :=
  if p.list then
    if p.required then "$\x7bJSON.stringify(" ++ p.path ++ ")\x7d"
    else "$\x7bJSON.stringify(" ++ p.path ++ " ?? null)\x7d"
  else
    match p.quoted, p.required with
    | true, true => "\"$\x7b" ++ p.path ++ "\x7d\""
    | true, false => "\"$\x7b" ++ p.path ++ " ?? ''\x7d\""
    | false, true => "$\x7b" ++ p.path ++ "\x7d"
    | false, false => "$\x7b" ++ p.path ++ " ?? null\x7d"

/-- The blanks in front of a line at a nesting level. -/
def indentation (level : Nat) : String := String.ofList (List.replicate (2 * level) ' ')

mutual

/-- The lines of an argument. -/
def Argument.text (level : Nat) : Argument → String
  | .value name placeholder => indentation level ++ name ++ ": " ++ placeholder.text ++ "\n"
  | .object name members =>
    indentation level ++ name ++ ": \x7b\n" ++ argumentsText (level + 1) members ++
      indentation level ++ "\x7d\n"

/-- The lines of arguments. -/
def argumentsText (level : Nat) : List Argument → String
  | [] => ""
  | argument :: rest => argument.text level ++ argumentsText level rest

end

/-- The argument list, if there are arguments. -/
def Operation.argumentList (operation : Operation) : String :=
  if operation.arguments.isEmpty then ""
  else "(\n" ++ argumentsText 2 operation.arguments ++ indentation 1 ++ ")"

/-- The names on lines of their own. -/
def nameLines (level : Nat) (names : List String) : String :=
  String.join (names.map fun name => indentation level ++ name ++ "\n")

/-- The selection after the root field. An object always has something selected: its type's name, when
there is nothing else. -/
def Selection.text : Selection → String
  | .scalar => "\n"
  | .fields [] => " \x7b\n" ++ nameLines 2 ["__typename"] ++ indentation 1 ++ "\x7d\n"
  | .fields names => " \x7b\n" ++ nameLines 2 names ++ indentation 1 ++ "\x7d\n"

/-- The document of an operation. -/
def Operation.text (operation : Operation) : String :=
  operation.kind.name ++ " " ++ Text.upperCamelCase operation.name ++ " \x7b\n" ++
    indentation 1 ++ operation.name ++ operation.argumentList ++ operation.selection.text ++ "\x7d"

/-- The document of an operation whose kind is given by name. Without output fields the result counts
as a scalar. -/
def documentFor (kind name : String) (inputs : List InputField) (outputs : List OutputField) :
    Except ActionError String := do
  let kind ← OperationKind.ofText kind
  let selection := if outputs.isEmpty then Selection.scalar else .ofFields outputs
  return (Operation.ofForm kind name inputs selection).text

end ActionForge
