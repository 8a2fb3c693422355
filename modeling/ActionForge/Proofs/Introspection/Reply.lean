import ActionForge.Introspection.Query
import ActionForge.Introspection.Schema
import ActionForge.Proofs.Checked

/-!
# Introspection replies for schemas

What a service with a given schema answers to the introspection query: `Service.typeJson` writes a type
with the selections of the query, which follow a type reference through seven wrappers at most. The
shapes that are read from such an answer are those of the schema (`readType_typeJson`).
-/

namespace ActionForge

/-! ## Type references of a schema -/

/-- How many wrappers a reference has. -/
def TypeRef.wrappers : TypeRef → Nat
  | .named _ => 0
  | .list inner | .nonNull inner => inner.wrappers + 1

/-- What the outermost wrapper is around. -/
def TypeRef.inner? : TypeRef → Option TypeRef
  | .named _ => none
  | .list inner | .nonNull inner => some inner

/-- The name of a reference without wrappers. -/
def TypeRef.name? : TypeRef → Option String
  | .named name => some name
  | .list _ | .nonNull _ => none

/-- The type references in the declaration of a type. -/
def NamedType.references (type : NamedType) : List TypeRef :=
  match type.kind with
  | .object fields | .interface fields =>
    fields.flatMap fun field => field.arguments.map Member.type ++ [field.type]
  | .input fields => fields.map Member.type
  | .scalar | .union _ | .enum _ => []

/-- The type references in a schema. -/
def Schema.references (schema : Schema) : List TypeRef :=
  schema.types.types.flatMap NamedType.references

namespace Introspection

/-! ## Answers of a service -/

/-- How many levels of inner references the query asks for. -/
def refDepth : Nat := 7

example : queryLines.countP (fun line => line.endsWith "ofType \x7b") = refDepth := by
  decide +kernel

/-- The name of a tag in replies. -/
def TypeTag.text : TypeTag → String
  | .scalar => "SCALAR"
  | .object => "OBJECT"
  | .interface => "INTERFACE"
  | .union => "UNION"
  | .enum => "ENUM"
  | .inputObject => "INPUT_OBJECT"
  | .list => "LIST"
  | .nonNull => "NON_NULL"

/-- The tag for what a named type is. -/
def tagOfKind : TypeKind → TypeTag
  | .scalar => .scalar
  | .object _ => .object
  | .interface _ => .interface
  | .union _ => .union
  | .enum _ => .enum
  | .input _ => .inputObject

/-- What a service says beyond the declarations of its types: what the named types in references are, and
which types implement an interface. -/
structure Service where
  tagOf : String → TypeTag
  plain : ∀ name, tagOf name ≠ .list ∧ tagOf name ≠ .nonNull
  implementations : String → List String

/-- A record with a name. -/
def nameJson (name : String) : Json := .object [("name", .text name)]

/-- A record with a name, or null where there is none. -/
def nameOrNull : Option String → Json
  | some name => nameJson name
  | none => .null

/-- A text, or null where there is none. -/
def textOrNull : Option String → Json
  | some text => .text text
  | none => .null

/-- An array, or null where there is none. -/
def arrayOrNull {α : Type} (item : α → Json) : Option (List α) → Json
  | some items => .array (items.map item)
  | none => .null

/-- The fields of an object or interface. -/
def fieldsOf? : TypeKind → Option (List FieldDef)
  | .object fields | .interface fields => some fields
  | _ => none

/-- The fields of an input type. -/
def inputsOf? : TypeKind → Option (List Member)
  | .input fields => some fields
  | _ => none

/-- The values of an enum. -/
def valuesOf? : TypeKind → Option (List String)
  | .enum values => some values
  | _ => none

namespace Service

variable (service : Service)

/-- The tag of a reference. -/
def tag : TypeRef → TypeTag
  | .named name => service.tagOf name
  | .list _ => .list
  | .nonNull _ => .nonNull

/-- A type reference with so many levels of inner references. The last level does not say what is inside
it. -/
def refJson : Nat → TypeRef → Json
  -- At the deepest level the member `ofType` is not asked for.
  | 0, ref => .object [("kind", .text (service.tag ref).text), ("name", textOrNull ref.name?)]
  | depth + 1, ref =>
    .object [("kind", .text (service.tag ref).text), ("name", textOrNull ref.name?),
      ("ofType", match ref.inner? with
        | some inner => refJson depth inner
        | none => .null)]

/-- An argument or input field. -/
def inputJson (member : Member) : Json :=
  .object [("name", .text member.name), ("description", textOrNull member.description),
    ("type", service.refJson refDepth member.type)]

/-- A field of an object or interface. -/
def fieldJson (field : FieldDef) : Json :=
  .object [("name", .text field.name), ("description", textOrNull field.description),
    ("args", .array (field.arguments.map service.inputJson)),
    ("type", service.refJson refDepth field.type)]

/-- The types that a value of the type may have. -/
def possibleTypes? (type : NamedType) : Option (List String) :=
  match type.kind with
  | .union types => some types
  | .interface _ => some (service.implementations type.name)
  | _ => none

/-- A named type. -/
def typeJson (type : NamedType) : Json :=
  .object [("kind", .text (tagOfKind type.kind).text), ("name", .text type.name),
    ("description", textOrNull type.description),
    ("fields", arrayOrNull service.fieldJson (fieldsOf? type.kind)),
    ("inputFields", arrayOrNull service.inputJson (inputsOf? type.kind)),
    ("enumValues", arrayOrNull nameJson (valuesOf? type.kind)),
    ("possibleTypes", arrayOrNull (fun name => service.refJson refDepth (.named name))
      (service.possibleTypes? type))]

end Service

/-- The reply for a schema that lists the given types. -/
def replyJson (schema : Schema) (types : List Json) : Json :=
  .object [("queryType", nameJson schema.queryRoot),
    ("mutationType", nameOrNull schema.mutationRoot),
    ("types", .array types)]

/-- What a reply comes in: a response with data, the data alone, or nothing. -/
inductive Envelope where
  | response
  | data
  | bare
  deriving DecidableEq, Repr

/-- Puts a reply in its envelope. -/
def Envelope.wrap : Envelope → Json → Json
  | .response, reply => .object [("data", .object [("__schema", reply)])]
  | .data, reply => .object [("__schema", reply)]
  | .bare, reply => reply

/-- The items list the given types in their order, with types of introspection itself anywhere between
them. -/
inductive Lists (service : Service) : List NamedType → List Json → Prop where
  | nil : Lists service [] []
  | type (type : NamedType) {types : List NamedType} {items : List Json} :
    Lists service types items → Lists service (type :: types) (service.typeJson type :: items)
  | reserved {item : Json} {shape : TypeShape} {types : List NamedType} {items : List Json} :
    readType item = .ok shape → isReserved shape.name → Lists service types items →
      Lists service types (item :: items)

/-! ## Shapes of answers -/

namespace Service

variable (service : Service)

/-- The shape of a type reference. -/
def refShape : Nat → TypeRef → RefShape
  | 0, ref => .leaf (service.tag ref) ref.name?
  | depth + 1, ref =>
    match ref.inner? with
    | some inner => .wrapped (service.tag ref) ref.name? (refShape depth inner)
    | none => .leaf (service.tag ref) ref.name?

/-- The shape of an argument or input field. -/
def inputShape (member : Member) : InputShape :=
  { name := member.name
    description := member.description
    type := service.refShape refDepth member.type }

/-- The shape of a field. -/
def fieldShape (field : FieldDef) : FieldShape :=
  { name := field.name
    description := field.description
    arguments := field.arguments.map service.inputShape
    type := service.refShape refDepth field.type }

/-- The shape of a named type. -/
def typeShape (type : NamedType) : TypeShape :=
  { tag := tagOfKind type.kind
    name := type.name
    description := type.description
    fields := (fieldsOf? type.kind).map fun fields => fields.map service.fieldShape
    inputFields := (inputsOf? type.kind).map fun fields => fields.map service.inputShape
    enumValues := valuesOf? type.kind
    possibleTypes := (service.possibleTypes? type).map fun types =>
      types.map fun name => service.refShape refDepth (.named name) }

end Service

/-! ## Reading answers -/

open Json (Read readText readList readOption readVariant readRecord readNamed require)

/-- Every tag is read back from its name. -/
theorem readVariant_text (tag : TypeTag) : readVariant TypeTag.named (.text tag.text) = .ok tag := by
  cases tag <;> rfl

/-- A text that may be missing is read back. -/
theorem readOption_textOrNull (text : Option String) :
    readOption readText (textOrNull text) = .ok text := by
  cases text <;> rfl

/-- An array that may be missing is read back when its items are. -/
theorem readOption_arrayOrNull {α β : Type} {read : Json → Read β} {item : α → Json} {value : α → β}
    (h : ∀ a, read (item a) = .ok (value a)) (items : Option (List α)) :
    readOption (readList read) (arrayOrNull item items) =
      .ok (items.map fun items => items.map value) := by
  cases items with
  | none => rfl
  | some items =>
    rw [arrayOrNull, readOption, readList, mapM_map_ok h]
    · rfl
    · exact fun hnull => by cases hnull

/-- A record with a name is read as the name. -/
theorem readName_nameJson (name : String) : readName (nameJson name) = .ok name := rfl

/-- A record with a name is read as the name, and null as no name. -/
theorem readOption_nameOrNull (name : Option String) :
    readOption readName (nameOrNull name) = .ok name := by
  cases name <;> rfl

/-- An inner reference that is there is read like any reference. -/
theorem readInner_object (members : List (String × Json)) :
    readInner (.object members) = some <$> readRef (.object members) := by
  rw [readInner, readRef]
  cases readRefMembers {} members <;> rfl

namespace Service

variable (service : Service)

/-- A reference is read as its shape, as deep as the query follows it. -/
theorem readRef_refJson (depth : Nat) (ref : TypeRef) :
    readRef (service.refJson depth ref) = .ok (service.refShape depth ref) := by
  induction depth generalizing ref with
  | zero =>
    simp only [refJson, refShape, readRef, readRefMembers, readVariant_text, readOption_textOrNull]
    rfl
  | succ depth ih =>
    cases hinner : ref.inner? with
    | none =>
      simp only [refJson, refShape, hinner, readRef, readRefMembers, readVariant_text,
        readOption_textOrNull]
      rfl
    | some inner =>
      -- The inner reference is an object and not null, so it is read like any reference.
      have hobject : readInner (service.refJson depth inner) =
          .ok (some (service.refShape depth inner)) := by
        obtain ⟨members, hmembers⟩ : ∃ members, service.refJson depth inner = .object members := by
          cases depth <;> exact ⟨_, rfl⟩
        rw [hmembers, readInner_object, ← hmembers, ih]
        rfl
      simp only [refJson, refShape, hinner, readRef, readRefMembers, readVariant_text,
        readOption_textOrNull, hobject]
      rfl

/-- An argument or input field is read as its shape. -/
theorem readInput_inputJson (member : Member) :
    readInput (service.inputJson member) = .ok (service.inputShape member) := by
  simp only [inputJson, readInput, readRecord, readNamed, InputParts.read, readOption_textOrNull,
    readRef_refJson]
  rfl

/-- A field is read as its shape, with its arguments. -/
theorem readField_fieldJson (field : FieldDef) :
    readField (service.fieldJson field) = .ok (service.fieldShape field) := by
  have harguments : readList readInput (.array (field.arguments.map service.inputJson)) =
      .ok (field.arguments.map service.inputShape) :=
    mapM_map_ok service.readInput_inputJson field.arguments
  simp only [fieldJson, readField, readRecord, readNamed, FieldParts.read, readOption_textOrNull,
    readRef_refJson, harguments]
  rfl

/-- The answer for a type is read as its shape. -/
theorem readType_typeJson (type : NamedType) :
    readType (service.typeJson type) = .ok (service.typeShape type) := by
  -- Values of an enum are records with a name, and are read as the names.
  have hvalues : readOption (readList readName) (arrayOrNull nameJson (valuesOf? type.kind)) =
      .ok (valuesOf? type.kind) := by
    have hname : ∀ name, readName (nameJson name) = .ok (id name) := readName_nameJson
    rw [readOption_arrayOrNull hname]
    simp
  simp only [typeJson, readType, readRecord, readNamed, TypeParts.read, readVariant_text,
    readOption_textOrNull, readOption_arrayOrNull service.readField_fieldJson,
    readOption_arrayOrNull service.readInput_inputJson, hvalues,
    readOption_arrayOrNull fun name => service.readRef_refJson refDepth (.named name)]
  rfl

end Service

end Introspection

end ActionForge
