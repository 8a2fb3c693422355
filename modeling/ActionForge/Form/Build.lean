import ActionForge.Form.Order
import ActionForge.Resolution

/-!
# Forms of operations

The arguments of an operation become input fields, the scalar members of its result output fields. What
is neither a scalar nor an object with scalar members is left out. Fields are built for one of two
readers: the platform, which shows them, and the operation document, which names them as the schema does.
-/

namespace ActionForge

/-- Whom fields are built for: the platform, whose child keys read `parent__child`, or the operation
document, whose child keys read `parent.child` and whose fields carry their names in the schema. -/
inductive Target where
  | platform
  | document
  deriving DecidableEq, Repr

/-- The key of a field below a parent. -/
def Target.key (target : Target) (parent : Option String) (name : String) : String :=
  match target, parent with
  | _, none => name
  | .platform, some parent => joinKey parent name
  | .document, some parent => parent ++ "." ++ name

/-- The name in the schema, which fields for the document carry. -/
def Target.schemaName (target : Target) (name : String) : Option String :=
  match target with
  | .platform => none
  | .document => some name

/-- The field for a scalar, if the details are those of one. -/
def leafInput (target : Target) (parent : Option String) (name : String) (details : TypeDetails) :
    Option InputField :=
  details.fieldType.map fun type =>
    { key := target.key parent name
      field := target.schemaName name
      label := labelFor name
      type := some type
      required := details.isRequired
      list := details.isList
      helpText := details.description
      choices := details.choices
      children := [] }

/-- The field for an object with the given children. -/
def parentInput (target : Target) (name : String) (details : TypeDetails) (children : List InputField) :
    InputField :=
  { key := target.key none name
    field := target.schemaName name
    label := labelFor name
    type := none
    required := details.isRequired
    list := false
    helpText := none
    choices := []
    children }

/-- The field for an argument, or `none` when it has nothing to fill in. -/
def inputFieldFor (target : Target) (sort : Bool) (name : String) (expansion : Expansion) :
    Option InputField :=
  if expansion.children.isEmpty then leafInput target none name expansion.details
  else
    let children := expansion.children.filterMap fun child =>
      leafInput target (some name) child.1 child.2
    if children.isEmpty then none
    else
      some (parentInput target name expansion.details
        (sortInputGroup (some (target.key none name)) sort children))

/-- The field for a member of a result, if it is a scalar. -/
def outputFieldFor (target : Target) (name : String) (details : TypeDetails) : Option OutputField :=
  details.fieldType.map fun type =>
    { key := name
      field := target.schemaName name
      label := labelFor name
      type
      required := details.isRequired
      helpText := details.description }

/-- The identifier field that is added to records without one. -/
def addedId : OutputField :=
  { key := idKey, field := none, label := labelFor idKey, type := .string, required := false,
    helpText := none }

namespace Context

/-- The argument's details with its own description before that of its type. -/
def expandArgument (context : Context) (argument : Member) : Except ActionError Expansion := do
  let expansion ← context.expand argument.type (some argument.name)
  return { expansion with
    details := { expansion.details with
      description := argument.description.or expansion.details.description } }

/-- The field for an argument, if it has one. -/
def argumentField (context : Context) (target : Target) (argument : Member) :
    Except ActionError (Option InputField) := do
  let expansion ← context.expandArgument argument
  return inputFieldFor target context.settings.sortFields argument.name expansion

/-- The form for arguments. -/
def inputFields (context : Context) (arguments : List Member) (target : Target) :
    Except ActionError (List InputField) := do
  let fields ← arguments.mapM (context.argumentField target)
  return sortInputs context.settings.sortFields (fields.filterMap id)

/-- The field that is to serve as the identifier of records of a type. -/
def idSource? (context : Context) (typeName : String) : Option String :=
  context.settings.idSources.get? typeName

/-- The output fields, checked for the identifier source and completed with an identifier. -/
def withId (context : Context) (target : Target) (typeName : String) (fields : List OutputField) :
    Except ActionError (List OutputField) :=
  match context.idSource? typeName with
  | none => .ok fields
  | some source =>
    if !fields.any (·.key == source) then .error (.unknownIdSource typeName source)
    else if target = .platform && !fields.any (·.key == idKey) then .ok (fields ++ [addedId])
    else .ok fields

/-- The output fields of an operation's result. -/
def outputFields (context : Context) (result : TypeRef) (operation : String) (target : Target) :
    Except ActionError (List OutputField) := do
  let expansion ← context.expand result (some operation)
  let fields := expansion.children.filterMap fun child => outputFieldFor target child.1 child.2
  let fields ← context.withId target expansion.details.typeName fields
  return sortOutputs context.settings.sortFields fields

end Context

end ActionForge
