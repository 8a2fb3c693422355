import ActionForge.ActionError

/-!
# Schemas

The type graph of a GraphQL service: named types with their members, and the two root types. Types are
held in order of their names, so equal schemas have equal types whatever order they were declared in.
-/

namespace ActionForge

/-- A reference to a named type, in wrappers that make it a list or forbid null. -/
inductive TypeRef where
  | named (name : String)
  | list (inner : TypeRef)
  | nonNull (inner : TypeRef)
  deriving DecidableEq, Repr

/-- An argument of a field, or a field of an input type. -/
structure Member where
  name : String
  description : Option String
  type : TypeRef
  deriving DecidableEq, Repr

/-- A field of an object or interface type. -/
structure FieldDef where
  name : String
  description : Option String
  type : TypeRef
  arguments : List Member
  deriving DecidableEq, Repr

/-- What a named type is. -/
inductive TypeKind where
  | scalar
  | object (fields : List FieldDef)
  | interface (fields : List FieldDef)
  | union (types : List String)
  | enum (values : List String)
  | input (fields : List Member)
  deriving DecidableEq, Repr

/-- A type with its name. -/
structure NamedType where
  name : String
  description : Option String
  kind : TypeKind
  deriving DecidableEq, Repr

/-- A field without its arguments. -/
def FieldDef.toMember (field : FieldDef) : Member :=
  { name := field.name, description := field.description, type := field.type }

/-- The declared members in order; `none` for types that have none. -/
def NamedType.members? (type : NamedType) : Option (List Member) :=
  match type.kind with
  | .object fields | .interface fields => some (fields.map FieldDef.toMember)
  | .input fields => some fields
  | .scalar | .union _ | .enum _ => none

/-- Adds the members of `more` to a kind; kinds that differ do not mix. -/
def TypeKind.extend : TypeKind → TypeKind → TypeKind
  | .object fields, .object more => .object (fields ++ more)
  | .interface fields, .interface more => .interface (fields ++ more)
  | .union types, .union more => .union (types ++ more)
  | .enum values, .enum more => .enum (values ++ more)
  | .input fields, .input more => .input (fields ++ more)
  | kind, _ => kind

/-! ## Tables of types -/

/-- Types in strictly increasing order of their names. -/
structure TypeTable where
  types : List NamedType
  sorted : types.Pairwise fun first second => first.name < second.name
  deriving DecidableEq

namespace TypeTable

/-- No types. -/
def empty : TypeTable := ⟨[], .nil⟩

/-- Places a type by its name, instead of a type that has this name already. -/
def place (type : NamedType) : List NamedType → List NamedType
  | [] => [type]
  | other :: rest =>
    if type.name < other.name then type :: other :: rest
    else if other.name < type.name then other :: place type rest
    else type :: rest

theorem eq_or_mem_of_mem_place {type found : NamedType} {types : List NamedType}
    (h : found ∈ place type types) : found = type ∨ found ∈ types := by
  induction types with
  | nil => simpa [place] using h
  | cons other rest ih =>
    simp only [place] at h
    split at h
    · simpa using h
    · split at h
      · rcases List.mem_cons.1 h with h | h
        · simp [h]
        · rcases ih h with h | h <;> simp [h]
      · rcases List.mem_cons.1 h with h | h <;> simp [h]

theorem pairwise_place {type : NamedType} {types : List NamedType}
    (h : types.Pairwise fun first second => first.name < second.name) :
    (place type types).Pairwise fun first second => first.name < second.name := by
  induction types with
  | nil => simp [place]
  | cons other rest ih =>
    obtain ⟨hother, hrest⟩ := List.pairwise_cons.1 h
    simp only [place]
    split
    · rename_i hlt
      refine List.pairwise_cons.2 ⟨fun found hfound => ?_, h⟩
      rcases List.mem_cons.1 hfound with hfound | hfound
      · simpa [hfound] using hlt
      · exact String.lt_trans hlt (hother found hfound)
    · split
      · rename_i hlt
        refine List.pairwise_cons.2 ⟨fun found hfound => ?_, ih hrest⟩
        rcases eq_or_mem_of_mem_place hfound with hfound | hfound
        · simpa [hfound] using hlt
        · exact hother found hfound
      · rename_i hnot hnot'
        have hname : type.name = other.name :=
          String.le_antisymm (String.not_lt.1 hnot') (String.not_lt.1 hnot)
        exact List.pairwise_cons.2 ⟨fun found hfound => hname ▸ hother found hfound, hrest⟩

/-- Adds a type, in place of one with the same name. -/
def insert (table : TypeTable) (type : NamedType) : TypeTable :=
  ⟨place type table.types, pairwise_place table.sorted⟩

/-- The type of a name. -/
def get? (table : TypeTable) (name : String) : Option NamedType :=
  table.types.find? fun type => type.name = name

/-- Adds the members of `more` to the type of the given name, if there is one of that kind. -/
def extend (table : TypeTable) (name : String) (more : TypeKind) : TypeTable :=
  ⟨table.types.map fun type =>
      if type.name = name then { type with kind := type.kind.extend more } else type, by
    refine List.pairwise_map.2 (table.sorted.imp fun {first second} h => ?_)
    split <;> split <;> exact h⟩

/-- The scalar types that every schema has. -/
def builtin : TypeTable :=
  ["String", "Int", "Float", "Boolean", "ID"].foldl
    (fun table name => table.insert { name, description := none, kind := .scalar }) empty

end TypeTable

/-! ## Schemas -/

/-- A type graph and the names of its root types. -/
structure Schema where
  queryRoot : String
  mutationRoot : Option String
  types : TypeTable
  deriving DecidableEq

namespace Schema

/-- The type of a name. -/
def get? (schema : Schema) (name : String) : Option NamedType := schema.types.get? name

/-- The name of the root type for a kind of operations. -/
def root? (schema : Schema) : OperationKind → Option String
  | .query => some schema.queryRoot
  | .mutation => schema.mutationRoot

/-- The first field of the given name on the root type, which must be an object. -/
def operation? (schema : Schema) (kind : OperationKind) (name : String) : Option FieldDef := do
  let root ← schema.root? kind
  let type ← schema.get? root
  match type.kind with
  | .object fields => fields.find? fun field => field.name = name
  | _ => none

/-- The operation of the given kind and name. -/
def operation (schema : Schema) (kind : OperationKind) (name : String) :
    Except ActionError FieldDef :=
  match schema.operation? kind name with
  | some field => .ok field
  | none => .error (.unknownOperation kind name)

end Schema

end ActionForge
