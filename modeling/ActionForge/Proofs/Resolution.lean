import ActionForge.Form.Build
import ActionForge.Proofs.Checked
import ActionForge.Proofs.Entries

/-!
# What resolving refuses and what it gives

Resolving a type reference looks at one named type, expanding it at the members of that type too and at
nothing deeper. `useFault?` says what is wrong with one use of a type; `resolve` and `expand` are checked
values over these faults, so they succeed exactly when none of the types in reach is at fault.
-/

namespace ActionForge

/-! ## Types in reach -/

namespace Schema

/-- What the type inside a reference is, if it is part of the schema. -/
def kind? (schema : Schema) (ref : TypeRef) : Option TypeKind :=
  (schema.get? ref.innermost).map NamedType.kind

/-- The declared members of the type inside a reference; none for types without members. -/
def membersOf (schema : Schema) (ref : TypeRef) : List Member :=
  ((schema.get? ref.innermost).bind NamedType.members?).getD []

/-- The members under their names: a name that is declared twice stands in its first place for its last
declaration. -/
def memberTable (schema : Schema) (ref : TypeRef) : Entries Member :=
  Entries.ofList ((schema.membersOf ref).map fun member => (member.name, member))

/-- Whether the type inside a reference is a scalar or an enum. -/
def isLeaf (schema : Schema) (ref : TypeRef) : Bool :=
  match schema.kind? ref with
  | some .scalar | some (.enum _) => true
  | _ => false

/-- A type that is found has the name that was looked up. -/
theorem name_of_get? {schema : Schema} {name : String} {type : NamedType}
    (h : schema.get? name = some type) : type.name = name := by
  have hfound := List.find?_some h
  simpa using hfound

/-- The table holds the last declaration of every name. -/
theorem mem_memberTable_iff {schema : Schema} {ref : TypeRef} {name : String} {member : Member} :
    (name, member) ∈ schema.memberTable ref ↔
      ∃ before after, schema.membersOf ref = before ++ member :: after ∧ member.name = name ∧
        ∀ later ∈ after, later.name ≠ name := by
  refine (Entries.mem_ofList_map_iff Member.name fun member => member).trans ?_
  constructor
  · rintro ⟨before, found, after, hmembers, hname, rfl, hafter⟩
    exact ⟨before, after, hmembers, hname, hafter⟩
  · rintro ⟨before, after, hmembers, hname, hafter⟩
    exact ⟨before, member, after, hmembers, hname, rfl, hafter⟩

/-- The table holds members of the type, each under its own name. -/
theorem mem_membersOf_of_mem_memberTable {schema : Schema} {ref : TypeRef} {name : String}
    {member : Member} (h : (name, member) ∈ schema.memberTable ref) :
    member ∈ schema.membersOf ref ∧ member.name = name := by
  obtain ⟨before, after, hmembers, hname, -⟩ := mem_memberTable_iff.1 h
  exact ⟨by simp [hmembers], hname⟩

/-- Only object, interface and input types have members, so a leaf has none. -/
theorem membersOf_of_isLeaf {schema : Schema} {ref : TypeRef} (h : schema.isLeaf ref) :
    schema.membersOf ref = [] := by
  unfold isLeaf kind? at h
  unfold membersOf
  cases htype : schema.get? ref.innermost with
  | none => rfl
  | some type =>
    rw [htype] at h
    cases hkind : type.kind <;> simp [hkind, NamedType.members?] at h ⊢

end Schema

/-! ## Faults and details -/

namespace Context

variable (context : Context)

/-- The field type that stands for the type inside a reference; only scalars and enums have one. -/
def fieldType? (ref : TypeRef) : Option FieldType :=
  match context.schema.kind? ref with
  | some .scalar => context.settings.scalarTypes.get? ref.innermost
  | some (.enum _) => some .string
  | _ => none

/-- The values of the enum inside a reference. -/
def choicesOf (ref : TypeRef) : List String :=
  match context.schema.kind? ref with
  | some (.enum values) => values
  | _ => []

/-- What is wrong with a use of a type: it is not part of the schema, or a scalar without a field
type. -/
def useFault? (ref : TypeRef) (user : String) : Option ActionError :=
  match context.schema.kind? ref with
  | none => some (.unresolvedType ref.innermost user)
  | some .scalar =>
    if (context.settings.scalarTypes.get? ref.innermost).isSome then none
    else some (.unmappedScalar ref.innermost user)
  | some _ => none

/-- The details of a type reference. -/
def detailsOf (ref : TypeRef) (fieldName : Option String) : TypeDetails :=
  { fieldName
    typeName := ref.innermost
    fieldType := context.fieldType? ref
    isList := ref.hasList
    isRequired := ref.hasNonNull
    description := (context.schema.get? ref.innermost).bind NamedType.description
    choices := context.choicesOf ref }

/-- Resolving a reference is its details, checked for a fault in its type. -/
theorem resolve_eq (ref : TypeRef) (fieldName : Option String) :
    context.resolve ref fieldName =
      checked (context.useFault? ref (fieldName.getD ref.innermost))
        (context.detailsOf ref fieldName) := by
  simp only [resolve, useFault?, detailsOf, fieldType?, choicesOf, Schema.kind?]
  cases htype : context.schema.get? ref.innermost with
  | none => rfl
  | some type =>
    have hname : type.name = ref.innermost := Schema.name_of_get? htype
    simp only [fieldTypeOf, Option.map_some, Option.bind_some, hname]
    -- Only scalars can be found at fault at this point, as the type is there.
    cases type.kind with
    | scalar =>
      cases hscalar : context.settings.scalarTypes.get? ref.innermost <;> rfl
    | enum values => rfl
    | object fields => rfl
    | interface fields => rfl
    | union types => rfl
    | input fields => rfl

/-- A used type that is not at fault has a field type exactly when it is a leaf. -/
theorem isSome_fieldType? {ref : TypeRef} {user : String} (h : context.useFault? ref user = none) :
    (context.fieldType? ref).isSome = context.schema.isLeaf ref := by
  unfold useFault? at h
  unfold fieldType? Schema.isLeaf
  -- Scalars and enums are the leaves, and of these only scalars may lack a type.
  cases hkind : context.schema.kind? ref with
  | none => rfl
  | some kind =>
    cases kind with
    | scalar =>
      rw [hkind] at h
      simpa [Option.isSome_iff_ne_none] using h
    | _ => rfl

/-! ## Members -/

/-- What is wrong with the type of a member. -/
def memberFault? (member : Member) : Option ActionError :=
  context.useFault? member.type member.name

/-- The details of a member. -/
def memberDetails (member : Member) : TypeDetails :=
  let details := context.detailsOf member.type (some member.name)
  { details with description := member.description.or details.description }

/-- Resolving a member gives its details under its name, checked for a fault in its type. -/
theorem resolveMember_eq (member : Member) :
    context.resolveMember member =
      checked (context.memberFault? member) (member.name, context.memberDetails member) := by
  rw [resolveMember, resolve_eq]
  exact checked_bind_pure _ _ _

/-! ## Expansions -/

/-- What is wrong with the types in reach of a reference: its own type, then the types of the members. -/
def expandFault? (ref : TypeRef) (fieldName : Option String) : Option ActionError :=
  (context.useFault? ref (fieldName.getD ref.innermost)).or
    ((context.schema.membersOf ref).findSome? context.memberFault?)

/-- The details of a type reference and of the members of its type. -/
def expansionOf (ref : TypeRef) (fieldName : Option String) : Expansion :=
  { details := context.detailsOf ref fieldName
    children := (context.schema.memberTable ref).map fun entry =>
      (entry.1, context.memberDetails entry.2) }

/-- The members of an expansion stand under their names, the last declaration of a name in its first place. -/
theorem children_expansionOf (ref : TypeRef) (fieldName : Option String) :
    (context.expansionOf ref fieldName).children =
      Entries.ofList ((context.schema.membersOf ref).map fun member =>
        (member.name, context.memberDetails member)) := by
  rw [expansionOf, Schema.memberTable, Entries.map_ofList, List.map_map]
  rfl

/-- Expanding a reference is resolving it and its members, checked for the first fault in reach. -/
theorem expand_eq (ref : TypeRef) (fieldName : Option String) :
    context.expand ref fieldName =
      checked (context.expandFault? ref fieldName) (context.expansionOf ref fieldName) := by
  have hexpansion : context.expansionOf ref fieldName = ⟨context.detailsOf ref fieldName,
      Entries.ofList ((context.schema.membersOf ref).map fun member =>
        (member.name, context.memberDetails member))⟩ :=
    congrArg (Expansion.mk _) (context.children_expansionOf ref fieldName)
  rw [expand, resolve_eq, expandFault?, hexpansion]
  refine checked_bind_eq ?_
  unfold Schema.membersOf
  -- Types without members expand to themselves, others to a checked traversal of the members.
  cases (context.schema.get? ref.innermost).bind NamedType.members? with
  | none => rfl
  | some members =>
    simp only [mapM_checked context.resolveMember_eq members]
    exact checked_bind_pure _ _ _

/-- The expansion of an argument, with its own description before that of its type. -/
def argumentExpansion (argument : Member) : Expansion :=
  let expansion := context.expansionOf argument.type (some argument.name)
  { expansion with
    details := { expansion.details with
      description := argument.description.or expansion.details.description } }

/-- What is wrong with the types in reach of an argument. -/
def argumentFault? (argument : Member) : Option ActionError :=
  context.expandFault? argument.type (some argument.name)

/-- Expanding an argument puts its own description before that of its type. -/
theorem expandArgument_eq (argument : Member) :
    context.expandArgument argument =
      checked (context.argumentFault? argument) (context.argumentExpansion argument) := by
  rw [expandArgument, expand_eq]
  exact checked_bind_pure _ _ _

end Context

end ActionForge
