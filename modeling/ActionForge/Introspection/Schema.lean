import ActionForge.Introspection.Shape
import ActionForge.Schema.Basic

/-!
# Schemas from introspection replies

`Schema.ofIntrospection` takes a whole reply, its data or the bare schema record. Types whose names
start with two underscores belong to introspection itself and are left out.
-/

namespace ActionForge

namespace Introspection

/-- Why a type reference means no type. -/
inductive RefFault where
  | noInner
  | noName
  deriving DecidableEq, Repr

/-- The wording of a fault in a type reference. -/
def RefFault.message : RefFault → String
  | .noInner => "wrapper type without ofType"
  | .noName => "named type reference without a name"

/-- What a type reference belongs to. -/
inductive Owner where
  | field (type field : String)
  | input (name : String)
  deriving DecidableEq, Repr

/-- How messages name the owner. -/
def Owner.message : Owner → String
  | .field type member => "in field `" ++ type ++ "." ++ member ++ "`"
  | .input name => "in input value `" ++ name ++ "`"

/-- Why a reply gives no schema. -/
inductive ReplyFault where
  | shape (fault : Json.Fault)
  | reference (owner : Owner) (fault : RefFault)
  | wrapperAtTop (type : String)
  deriving DecidableEq, Repr

/-- Follows a type reference through its wrappers. -/
def RefShape.toRef : RefShape → Except RefFault TypeRef
  | .wrapped .list _ inner => TypeRef.list <$> inner.toRef
  | .wrapped .nonNull _ inner => TypeRef.nonNull <$> inner.toRef
  | .leaf .list _ | .leaf .nonNull _ => .error .noInner
  | .wrapped _ name _ | .leaf _ name =>
    match name with
    | some name => .ok (.named name)
    | none => .error .noName

/-- Follows the type reference of an owner. -/
def ownedRef (owner : Owner) (type : RefShape) : Except ReplyFault TypeRef :=
  type.toRef.mapError (.reference owner)

/-- An argument or input field with its type. -/
def InputShape.toMember (input : InputShape) : Except ReplyFault Member := do
  let type ← ownedRef (.input input.name) input.type
  return { name := input.name, description := input.description, type }

/-- A field of the named type with its arguments and type. -/
def FieldShape.toField (owner : String) (field : FieldShape) : Except ReplyFault FieldDef := do
  let arguments ← field.arguments.mapM InputShape.toMember
  let type ← ownedRef (.field owner field.name) field.type
  return { name := field.name, description := field.description, type, arguments }

/-- What a type of the reply is. -/
def TypeShape.toKind (type : TypeShape) : Except ReplyFault TypeKind :=
  match type.tag with
  | .scalar => .ok .scalar
  | .object => .object <$> (type.fields.getD []).mapM (FieldShape.toField type.name)
  | .interface => .interface <$> (type.fields.getD []).mapM (FieldShape.toField type.name)
  | .union => .ok (.union ((type.possibleTypes.getD []).filterMap RefShape.name?))
  | .enum => .ok (.enum (type.enumValues.getD []))
  | .inputObject => .input <$> (type.inputFields.getD []).mapM InputShape.toMember
  | .list | .nonNull => .error (.wrapperAtTop type.name)

/-- A type of the reply. -/
def TypeShape.toType (type : TypeShape) : Except ReplyFault NamedType := do
  let kind ← type.toKind
  return { name := type.name, description := type.description, kind }

/-- Whether a name belongs to introspection itself. -/
def isReserved (name : String) : Bool := ['_', '_'].isPrefixOf name.toList

/-- Adds the types of a reply to a table. -/
def addTypes (table : TypeTable) : List TypeShape → Except ReplyFault TypeTable
  | [] => .ok table
  | type :: rest =>
    if isReserved type.name then addTypes table rest
    else do
      let named ← type.toType
      addTypes (table.insert named) rest

/-- The schema record of a reply: under `data`, at the top, or the reply itself. -/
def schemaRecord (reply : Json) : Json :=
  match (reply.member? "data").bind fun data => data.member? "__schema" with
  | some record => record
  | none => (reply.member? "__schema").getD reply

end Introspection

open Introspection in
/-- The schema that an introspection reply describes. -/
def Schema.ofIntrospection (reply : Json) : Except ReplyFault Schema := do
  let shape ← (readSchema (schemaRecord reply)).mapError .shape
  let types ← addTypes .builtin shape.types
  return { queryRoot := shape.queryType.getD "Query", mutationRoot := shape.mutationType, types }

end ActionForge
