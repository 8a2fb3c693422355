import ActionForge.Json.Basic
import ActionForge.Text.Pieces
import ActionForge.Text.Words
import ActionForge.Vocabulary

/-!
# Form fields

An action shows a form of input fields and gives records of output fields. A field's key is its path:
segments with points between them, or a parent and a child with two underscores between them.
-/

namespace ActionForge

/-- What is known of an input field apart from its children. `field` is the name it has in the schema,
when that is not read off the key. -/
structure InputSpec where
  key : String
  field : Option String
  label : String
  type : Option FieldType
  required : Bool
  list : Bool
  helpText : Option String
  choices : List String
  deriving DecidableEq, Repr

/-- A field of a form. A field with children stands for an object. -/
structure InputField extends InputSpec where
  children : List InputField
  deriving Repr, BEq

/-- A field of the records that an action gives. -/
structure OutputField where
  key : String
  field : Option String
  label : String
  type : FieldType
  required : Bool
  helpText : Option String
  deriving DecidableEq, Repr

/-- The key of the field that identifies a record. -/
def idKey : String := "id"

/-- The label for a name: its words, capitalised. -/
def labelFor (name : String) : String := Text.titleCase name

/-! ## Keys -/

/-- The pieces of a key between points, last first. -/
def segmentsBackward (key : List Char) : List (List Char) := (Text.pieces (· = '.') key).reverse

/-- What follows the first two underscores in a row. -/
def afterUnderscores? : List Char → Option (List Char)
  | '_' :: '_' :: rest => some rest
  | _ :: rest => afterUnderscores? rest
  | [] => none

/-- The last part of a key: what follows the last point, and in that what follows the first two
underscores, so that a child `_and` keeps its own underscore. -/
def terminalSegment (key : String) : String :=
  let last := (segmentsBackward key.toList).headD []
  String.ofList ((afterUnderscores? last).getD last)

/-- A child's name after its parent's. -/
def joinKey (parent name : String) : String := parent ++ "__" ++ name

/-- The name under which a field is sent: the last segment of its key, after the one before it. -/
def InputSpec.platformKey (field : InputSpec) : String :=
  match segmentsBackward field.key.toList with
  | name :: parent :: _ => joinKey (String.ofList parent) (String.ofList name)
  | [name] => String.ofList name
  | [] => field.key

/-- The name a field has in the schema. -/
def InputSpec.schemaName (field : InputSpec) : String :=
  field.field.getD (terminalSegment field.key)

/-! ## Lone wrappers -/

/-- Whether the form is a single field with children. -/
def isLoneWrapper : List InputField → Bool
  | [field] => !field.children.isEmpty
  | _ => false

/-- Puts the children of a single field with children in its place. -/
def flatten : List InputField → List InputField
  | [field] => if field.children.isEmpty then [field] else field.children
  | fields => fields

/-! ## JSON -/

/-- A member that is there only when it has a value. -/
def optionalMember (name : String) (value : Option Json) : List (String × Json) :=
  match value with
  | some value => [(name, value)]
  | none => []

/-- A member that is there only when it holds. -/
def flagMember (name : String) (flag : Bool) : List (String × Json) :=
  if flag then [(name, .bool true)] else []

/-- A member that is there only when there are items. -/
def listMember (name : String) (items : List Json) : List (String × Json) :=
  if items.isEmpty then [] else [(name, .array items)]

/-- The members of an input field, apart from its children. -/
def InputSpec.members (field : InputSpec) : List (String × Json) :=
  [("key", .text field.key)] ++ optionalMember "field" (field.field.map .text) ++
    [("label", .text field.label)] ++
    optionalMember "type" (field.type.map fun type => .text type.name) ++
    [("required", .bool field.required)] ++ flagMember "list" field.list ++
    optionalMember "helpText" (field.helpText.map .text) ++
    listMember "choices" (field.choices.map .text)

mutual

/-- An input field as JSON. -/
def InputField.toJson : InputField → Json
  | ⟨spec, children⟩ => .object (spec.members ++ listMember "children" (inputsToJson children))

/-- Input fields as JSON. -/
def inputsToJson : List InputField → List Json
  | [] => []
  | field :: rest => field.toJson :: inputsToJson rest

end

/-- An output field as JSON. -/
def OutputField.toJson (field : OutputField) : Json :=
  .object ([("key", .text field.key)] ++ optionalMember "field" (field.field.map .text) ++
    [("label", .text field.label), ("type", .text field.type.name)] ++
    flagMember "required" field.required ++ optionalMember "helpText" (field.helpText.map .text))

end ActionForge
