import ActionForge.Json.Reader

/-!
# Shapes of introspection replies

The records of an introspection reply as they stand in it, before type references are followed. Each has
a reader; a member that may be missing is an `Option`.
-/

namespace ActionForge.Introspection

open Json (Read Fields readText readList readOption readVariant readRecord require)

/-- What a reply says a type is: a kind of named type, or one of the two wrappers. -/
inductive TypeTag where
  | scalar
  | object
  | interface
  | union
  | enum
  | inputObject
  | list
  | nonNull
  deriving DecidableEq, Repr

/-- The tags under the names that replies use. -/
def TypeTag.named : Entries TypeTag :=
  [("SCALAR", .scalar), ("OBJECT", .object), ("INTERFACE", .interface), ("UNION", .union),
    ("ENUM", .enum), ("INPUT_OBJECT", .inputObject), ("LIST", .list), ("NON_NULL", .nonNull)]

/-- A type reference: a tag and a name, with or without an inner reference. -/
inductive RefShape where
  | leaf (tag : TypeTag) (name : Option String)
  | wrapped (tag : TypeTag) (name : Option String) (inner : RefShape)
  deriving DecidableEq, Repr

/-- The name that a reference gives. -/
def RefShape.name? : RefShape → Option String
  | .leaf _ name | .wrapped _ name _ => name

/-- An argument or input field. -/
structure InputShape where
  name : String
  description : Option String
  type : RefShape
  deriving DecidableEq, Repr

/-- A field of an object or interface. -/
structure FieldShape where
  name : String
  description : Option String
  arguments : List InputShape
  type : RefShape
  deriving DecidableEq, Repr

/-- A named type. -/
structure TypeShape where
  tag : TypeTag
  name : String
  description : Option String
  fields : Option (List FieldShape)
  inputFields : Option (List InputShape)
  enumValues : Option (List String)
  possibleTypes : Option (List RefShape)
  deriving DecidableEq, Repr

/-- The whole reply. -/
structure SchemaShape where
  queryType : Option String
  mutationType : Option String
  types : List TypeShape
  deriving DecidableEq, Repr

/-! ## Type references -/

/-- Members of a type reference that have been read. -/
structure RefParts where
  tag : Option TypeTag := none
  name : Option String := none
  inner : Option RefShape := none

/-- The members of a type reference. -/
def refFields : Fields := [("kind", false), ("name", false), ("ofType", false)]

/-- The name of type references in messages. -/
def refTitle : String := "IntrospectionTypeRef"

/-- Puts the members of a type reference together. -/
def RefParts.finish (parts : RefParts) : Read RefShape := do
  let tag ← require "kind" parts.tag
  match parts.inner with
  | some inner => .ok (.wrapped tag parts.name inner)
  | none => .ok (.leaf tag parts.name)

mutual

/-- Reads a type reference. -/
def readRef : Json → Read RefShape
  | .object members => do
    let parts ← readRefMembers {} members
    parts.finish
  | .array items => do
    let parts ← readRefItems items.length 0 {} items
    parts.finish
  | value => value.mismatch (Json.recordOf refTitle)

/-- Reads the members of a type reference; others are passed over. -/
def readRefMembers (parts : RefParts) : List (String × Json) → Read RefParts
  | [] => .ok parts
  | (name, value) :: rest => do
    let parts ← match name with
      | "kind" => do
        let tag ← readVariant TypeTag.named value
        pure { parts with tag := some tag }
      | "name" => do
        let name ← readOption readText value
        pure { parts with name }
      | "ofType" => do
        let inner ← readInner value
        pure { parts with inner }
      | _ => pure parts
    readRefMembers parts rest

/-- Reads the members of a type reference from an array; `place` counts those that have been read. -/
def readRefItems (total place : Nat) (parts : RefParts) : List Json → Read RefParts
  | [] =>
    if place < 3 then .error (.invalidLength place (Json.recordOfLength refTitle refFields.length))
    else .ok parts
  | value :: rest => do
    match place with
    | 0 =>
      let tag ← readVariant TypeTag.named value
      readRefItems total 1 { parts with tag := some tag } rest
    | 1 =>
      let name ← readOption readText value
      readRefItems total 2 { parts with name } rest
    | 2 =>
      let inner ← readInner value
      readRefItems total 3 { parts with inner } rest
    | _ => .error (.invalidLength total "fewer elements in array")

/-- Reads an inner type reference, which may be null. -/
def readInner : Json → Read (Option RefShape)
  | .null => .ok none
  | .object members => do
    let parts ← readRefMembers {} members
    some <$> parts.finish
  | .array items => do
    let parts ← readRefItems items.length 0 {} items
    some <$> parts.finish
  | value => value.mismatch (Json.recordOf refTitle)

end

/-! ## Named things -/

/-- Reads a record of which only the name counts. -/
def readName (value : Json) : Read String := do
  let name ← readRecord "IntrospectionName" [("name", false)]
    (fun _ _ value => some <$> readText value) (none : Option String) value
  require "name" name

/-- Members of an input value that have been read. -/
structure InputParts where
  name : Option String := none
  description : Option String := none
  type : Option RefShape := none

/-- Reads one member of an input value. -/
def InputParts.read (parts : InputParts) (member : String) (value : Json) : Read InputParts :=
  match member with
  | "name" => do return { parts with name := some (← readText value) }
  | "description" => do return { parts with description := ← readOption readText value }
  | _ => do return { parts with type := some (← readRef value) }

/-- Reads an input value. -/
def readInput (value : Json) : Read InputShape := do
  let parts ← readRecord "IntrospectionInputValue"
    [("name", false), ("description", false), ("type", false)] InputParts.read {} value
  let name ← require "name" parts.name
  let type ← require "type" parts.type
  return { name, description := parts.description, type }

/-- Members of a field that have been read. -/
structure FieldParts where
  name : Option String := none
  description : Option String := none
  arguments : List InputShape := []
  type : Option RefShape := none

/-- Reads one member of a field. -/
def FieldParts.read (parts : FieldParts) (member : String) (value : Json) : Read FieldParts :=
  match member with
  | "name" => do return { parts with name := some (← readText value) }
  | "description" => do return { parts with description := ← readOption readText value }
  | "args" => do return { parts with arguments := ← readList readInput value }
  | _ => do return { parts with type := some (← readRef value) }

/-- Reads a field. Its arguments may be left out. -/
def readField (value : Json) : Read FieldShape := do
  let parts ← readRecord "IntrospectionField"
    [("name", false), ("description", false), ("args", true), ("type", false)] FieldParts.read {} value
  let name ← require "name" parts.name
  let type ← require "type" parts.type
  return { name, description := parts.description, arguments := parts.arguments, type }

/-- Members of a named type that have been read. -/
structure TypeParts where
  tag : Option TypeTag := none
  name : Option String := none
  description : Option String := none
  fields : Option (List FieldShape) := none
  inputFields : Option (List InputShape) := none
  enumValues : Option (List String) := none
  possibleTypes : Option (List RefShape) := none

/-- Reads one member of a named type. -/
def TypeParts.read (parts : TypeParts) (member : String) (value : Json) : Read TypeParts :=
  match member with
  | "kind" => do return { parts with tag := some (← readVariant TypeTag.named value) }
  | "name" => do return { parts with name := some (← readText value) }
  | "description" => do return { parts with description := ← readOption readText value }
  | "fields" => do return { parts with fields := ← readOption (readList readField) value }
  | "inputFields" => do return { parts with inputFields := ← readOption (readList readInput) value }
  | "enumValues" => do return { parts with enumValues := ← readOption (readList readName) value }
  | _ => do return { parts with possibleTypes := ← readOption (readList readRef) value }

/-- Reads a named type. -/
def readType (value : Json) : Read TypeShape := do
  let parts ← readRecord "IntrospectionType"
    [("kind", false), ("name", false), ("description", false), ("fields", false),
      ("inputFields", false), ("enumValues", false), ("possibleTypes", false)] TypeParts.read {} value
  let tag ← require "kind" parts.tag
  let name ← require "name" parts.name
  return { tag, name, description := parts.description, fields := parts.fields,
           inputFields := parts.inputFields, enumValues := parts.enumValues,
           possibleTypes := parts.possibleTypes }

/-- Members of a reply that have been read. -/
structure SchemaParts where
  queryType : Option String := none
  mutationType : Option String := none
  types : Option (List TypeShape) := none

/-- Reads one member of a reply. -/
def SchemaParts.read (parts : SchemaParts) (member : String) (value : Json) : Read SchemaParts :=
  match member with
  | "queryType" => do return { parts with queryType := ← readOption readName value }
  | "mutationType" => do return { parts with mutationType := ← readOption readName value }
  | _ => do return { parts with types := some (← readList readType value) }

/-- Reads a reply. -/
def readSchema (value : Json) : Read SchemaShape := do
  let parts ← readRecord "IntrospectionSchema"
    [("queryType", false), ("mutationType", false), ("types", false)] SchemaParts.read {} value
  let types ← require "types" parts.types
  return { queryType := parts.queryType, mutationType := parts.mutationType, types }

end ActionForge.Introspection
