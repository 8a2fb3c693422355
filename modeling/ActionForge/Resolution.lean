import ActionForge.Schema.Basic
import ActionForge.Settings

/-!
# Resolving type references

`resolve` strips the wrappers off a type reference and says what a form needs to know of the type
inside. `expand` also resolves the members of that type, one level deep, so types that refer to
themselves need no special care. `resolveTree` is the same by recursion: it goes on to the members of
members until it is at the depth limit.
-/

namespace ActionForge

/-- The name inside all wrappers. -/
def TypeRef.innermost : TypeRef → String
  | .named name => name
  | .list inner | .nonNull inner => inner.innermost

/-- Whether some wrapper makes a list. -/
def TypeRef.hasList : TypeRef → Bool
  | .named _ => false
  | .list _ => true
  | .nonNull inner => inner.hasList

/-- Whether some wrapper forbids null. -/
def TypeRef.hasNonNull : TypeRef → Bool
  | .named _ => false
  | .list inner => inner.hasNonNull
  | .nonNull _ => true

/-- What a form needs to know of a type reference. `fieldType` is there for scalars and enums only;
`choices` are the values of an enum. -/
structure TypeDetails where
  fieldName : Option String
  typeName : String
  fieldType : Option FieldType
  isList : Bool
  isRequired : Bool
  description : Option String
  choices : List String
  deriving DecidableEq, Repr

/-- The details of a type reference and those of the members of its type. -/
structure Expansion where
  details : TypeDetails
  children : Entries TypeDetails
  deriving DecidableEq, Repr

/-- The details of a type reference, with trees for the members of its type as far as these were
resolved. -/
inductive TypeTree where
  | node (details : TypeDetails) (children : List (String × TypeTree))
  deriving Repr

namespace TypeTree

/-- The details at the top. -/
def details : TypeTree → TypeDetails
  | .node details _ => details

/-- The trees of the members. -/
def children : TypeTree → Entries TypeTree
  | .node _ children => children

/-- Details with nothing below them. -/
def leaf (details : TypeDetails) : TypeTree := .node details []

/-- Puts a member's own description, if it has one, before the description of its type. -/
def describe (description : Option String) : TypeTree → TypeTree
  | .node details children =>
    .node { details with description := description.or details.description } children

/-- The details at the top and those of the members. -/
def expansion (tree : TypeTree) : Expansion :=
  { details := tree.details, children := tree.children.map fun child => (child.1, child.2.details) }

end TypeTree

/-- A schema with the settings it is read under. -/
structure Context where
  schema : Schema
  settings : Settings

namespace Context

/-- The field type and choices of a named type, used by the given field. -/
def fieldTypeOf (context : Context) (type : NamedType) (user : String) :
    Except ActionError (Option FieldType × List String) :=
  match type.kind with
  | .scalar =>
    match context.settings.scalarTypes.get? type.name with
    | some fieldType => .ok (some fieldType, [])
    | none => .error (.unmappedScalar type.name user)
  | .enum values => .ok (some .string, values)
  | .object _ | .interface _ | .union _ | .input _ => .ok (none, [])

/-- Resolves a type reference without the members of its type. -/
def resolve (context : Context) (ref : TypeRef) (fieldName : Option String) :
    Except ActionError TypeDetails :=
  let user := fieldName.getD ref.innermost
  match context.schema.get? ref.innermost with
  | none => .error (.unresolvedType ref.innermost user)
  | some type => do
    let (fieldType, choices) ← context.fieldTypeOf type user
    return { fieldName, typeName := ref.innermost, fieldType, isList := ref.hasList,
             isRequired := ref.hasNonNull, description := type.description, choices }

/-- Resolves a member. Its own description stands before the description of its type. -/
def resolveMember (context : Context) (member : Member) : Except ActionError (String × TypeDetails) := do
  let details ← context.resolve member.type (some member.name)
  return (member.name, { details with description := member.description.or details.description })

/-- Resolves a type reference and the members of its type. A member that is declared twice counts once,
as it was declared last. -/
def expand (context : Context) (ref : TypeRef) (fieldName : Option String) :
    Except ActionError Expansion := do
  let details ← context.resolve ref fieldName
  match (context.schema.get? ref.innermost).bind NamedType.members? with
  | none => return { details, children := [] }
  | some members =>
    let children ← members.mapM context.resolveMember
    return { details, children := Entries.ofList children }

/-- How many levels of members a form shows. -/
def depthLimit : Nat := 1

/-- Resolves a type reference, and the members below it to the given number of levels. -/
def resolveWithin (context : Context) : Nat → TypeRef → Option String → Except ActionError TypeTree
  | 0, ref, fieldName => do
    let details ← context.resolve ref fieldName
    return .leaf details
  | levels + 1, ref, fieldName => do
    let details ← context.resolve ref fieldName
    match (context.schema.get? ref.innermost).bind NamedType.members? with
    | none => return .leaf details
    | some members =>
      let children ← members.mapM fun member => do
        let child ← context.resolveWithin levels member.type (some member.name)
        return (member.name, child.describe member.description)
      return .node details (Entries.ofList children)

/-- Resolves a type reference that stands at a depth, with the members down to the limit. -/
def resolveTree (context : Context) (ref : TypeRef) (fieldName : Option String) (depth : Nat) :
    Except ActionError TypeTree :=
  context.resolveWithin (depthLimit - depth) ref fieldName

/-- The expansion of a type reference that stands at a depth. -/
def expandAt (context : Context) (ref : TypeRef) (fieldName : Option String) (depth : Nat) :
    Except ActionError Expansion :=
  (context.resolveTree ref fieldName depth).map TypeTree.expansion

end Context

end ActionForge
