import ActionForge.Proofs.Introspection.Reply

/-!
# Loading the types of a reply

Following the type references of a shape gives the type that it was made for, unless the query cut one
of them off; then it fails (`toType_typeShape`). So the types of a reply are those that it lists, and
the first reference that is cut off says what is wrong with it (`Lists.addTypes_eq`).
-/

namespace ActionForge

namespace Introspection

/-! ## References that are cut off -/

/-- What is wrong with a reference that the query cuts off. -/
def cutFault? (owner : Owner) (ref : TypeRef) : Option ReplyFault :=
  if ref.wrappers ≤ refDepth then none else some (.reference owner .noInner)

/-- What is wrong with an argument or input field. -/
def inputFault? (member : Member) : Option ReplyFault := cutFault? (.input member.name) member.type

/-- What is wrong with a field of the named type. -/
def fieldFault? (owner : String) (field : FieldDef) : Option ReplyFault :=
  (field.arguments.findSome? inputFault?).or (cutFault? (.field owner field.name) field.type)

/-- What is wrong with a type. -/
def typeFault? (type : NamedType) : Option ReplyFault :=
  match type.kind with
  | .object fields | .interface fields => fields.findSome? (fieldFault? type.name)
  | .input fields => fields.findSome? inputFault?
  | .scalar | .union _ | .enum _ => none

/-- Only references with too many wrappers are cut off. -/
theorem cutFault?_eq_none_iff (owner : Owner) (ref : TypeRef) :
    cutFault? owner ref = none ↔ ref.wrappers ≤ refDepth := by
  unfold cutFault?
  split
  · rename_i h
    simp [h]
  · rename_i h
    simp [h]

/-- A type has nothing wrong with it when none of its references is cut off. -/
theorem typeFault?_eq_none_iff (type : NamedType) :
    typeFault? type = none ↔ ∀ ref ∈ type.references, ref.wrappers ≤ refDepth := by
  have hinputs : ∀ members : List Member, members.findSome? inputFault? = none ↔
      ∀ ref ∈ members.map Member.type, ref.wrappers ≤ refDepth := by
    intro members
    simp only [List.findSome?_eq_none_iff, inputFault?, cutFault?_eq_none_iff, List.forall_mem_map]
  -- A field is tried for its arguments and then for its own type, in the order of its references.
  have hfields : ∀ fields : List FieldDef, fields.findSome? (fieldFault? type.name) = none ↔
      ∀ ref ∈ fields.flatMap (fun field => field.arguments.map Member.type ++ [field.type]),
        ref.wrappers ≤ refDepth := by
    intro fields
    simp only [List.findSome?_eq_none_iff, fieldFault?, Option.or_eq_none_iff, hinputs,
      cutFault?_eq_none_iff, List.mem_flatMap, List.mem_append, List.mem_singleton]
    constructor
    · rintro h ref ⟨field, hfield, href | rfl⟩
      · exact (h field hfield).1 ref href
      · exact (h field hfield).2
    · intro h field hfield
      exact ⟨fun ref href => h ref ⟨field, hfield, .inl href⟩, h _ ⟨field, hfield, .inr rfl⟩⟩
  unfold typeFault? NamedType.references
  cases type.kind with
  | object fields => exact hfields fields
  | interface fields => exact hfields fields
  | input fields => exact hinputs fields
  | scalar => simp
  | union types => simp
  | enum values => simp

/-- Whatever is wrong with a type is a reference that is cut off. -/
theorem exists_owner_of_typeFault? {type : NamedType} {fault : ReplyFault}
    (h : typeFault? type = some fault) : ∃ owner, fault = .reference owner .noInner := by
  -- What is shown for one reference is carried up to members, arguments and fields.
  have hcut : ∀ {owner ref}, cutFault? owner ref = some fault →
      ∃ owner, fault = .reference owner .noInner := by
    intro owner ref h
    rw [cutFault?] at h
    split at h
    · cases h
    · exact ⟨owner, (Option.some.inj h).symm⟩
  have hinputs : ∀ {members : List Member}, members.findSome? inputFault? = some fault →
      ∃ owner, fault = .reference owner .noInner := by
    intro members h
    obtain ⟨member, -, hmember⟩ := List.exists_of_findSome?_eq_some h
    exact hcut hmember
  have hfields : ∀ {fields : List FieldDef}, fields.findSome? (fieldFault? type.name) = some fault →
      ∃ owner, fault = .reference owner .noInner := by
    intro fields h
    obtain ⟨field, -, hfield⟩ := List.exists_of_findSome?_eq_some h
    rcases Option.or_eq_some_iff.1 hfield with hfield | ⟨-, hfield⟩
    · exact hinputs hfield
    · exact hcut hfield
  unfold typeFault? at h
  split at h
  · exact hfields h
  · exact hfields h
  · exact hinputs h
  · cases h
  · cases h
  · cases h

/-! ## Types from their shapes -/

namespace Service

variable (service : Service)

/-- A name without wrappers is a reference to the named type. -/
theorem toRef_leaf (name : String) :
    (RefShape.leaf (service.tagOf name) (some name)).toRef = .ok (.named name) := by
  -- A named type with the tag of a wrapper would be followed further.
  obtain ⟨hlist, hnonNull⟩ := service.plain name
  cases htag : service.tagOf name with
  | list => exact absurd htag hlist
  | nonNull => exact absurd htag hnonNull
  | _ => rfl

/-- A reference is followed to its end, unless it is cut off before. -/
theorem toRef_refShape (depth : Nat) (ref : TypeRef) :
    (service.refShape depth ref).toRef =
      checked (if ref.wrappers ≤ depth then none else some .noInner) ref := by
  induction depth generalizing ref with
  | zero =>
    cases ref with
    | named name => exact service.toRef_leaf name
    | list inner => rfl
    | nonNull inner => rfl
  -- A wrapper takes one level, and what it is around has the levels that are left.
  | succ depth ih =>
    cases ref with
    | named name => exact service.toRef_leaf name
    | list inner =>
      simp only [refShape, TypeRef.inner?, tag, RefShape.toRef, ih, map_checked, TypeRef.wrappers,
        Nat.add_le_add_iff_right]
    | nonNull inner =>
      simp only [refShape, TypeRef.inner?, tag, RefShape.toRef, ih, map_checked, TypeRef.wrappers,
        Nat.add_le_add_iff_right]

/-- An error for a reference that is cut off names the owner of the reference. -/
theorem ownedRef_refShape (owner : Owner) (ref : TypeRef) :
    ownedRef owner (service.refShape refDepth ref) = checked (cutFault? owner ref) ref := by
  rw [ownedRef, toRef_refShape, cutFault?]
  split <;> rfl

/-- The argument or input field of a shape is the one that the shape was made for. -/
theorem toMember_inputShape (member : Member) :
    (service.inputShape member).toMember = checked (inputFault? member) member := by
  rw [InputShape.toMember, inputFault?]
  simp only [inputShape, ownedRef_refShape]
  exact checked_bind_pure _ _ _

/-- The field of a shape is the one that the shape was made for, where its arguments are followed before its own
type. -/
theorem toField_fieldShape (owner : String) (field : FieldDef) :
    (service.fieldShape field).toField owner = checked (fieldFault? owner field) field := by
  rw [FieldShape.toField, fieldFault?]
  simp only [fieldShape, mapM_map_checked service.toMember_inputShape, ownedRef_refShape]
  exact checked_bind_eq (checked_bind_pure _ _ _)

/-- The members of a union are named without wrappers, so they are never cut off. -/
theorem filterMap_name?_refShape (depth : Nat) (names : List String) :
    (names.map fun name => service.refShape depth (.named name)).filterMap RefShape.name? = names := by
  rw [List.filterMap_map]
  have hname : RefShape.name? ∘ (fun name => service.refShape depth (.named name)) = some := by
    funext name
    cases depth <;> rfl
  rw [hname, List.filterMap_some]

/-- The kind of a shape is that of the type that the shape was made for. -/
theorem toKind_typeShape (type : NamedType) :
    (service.typeShape type).toKind = checked (typeFault? type) type.kind := by
  obtain ⟨name, description, kind⟩ := type
  cases kind with
  | scalar => rfl
  | enum values => rfl
  | union types =>
    show Except.ok (TypeKind.union ((types.map fun name =>
      service.refShape refDepth (.named name)).filterMap RefShape.name?)) = _
    rw [filterMap_name?_refShape]
    rfl
  | object fields =>
    show TypeKind.object <$> (fields.map service.fieldShape).mapM (FieldShape.toField name) = _
    rw [mapM_map_checked (service.toField_fieldShape name), map_checked]
    rfl
  | interface fields =>
    show TypeKind.interface <$> (fields.map service.fieldShape).mapM (FieldShape.toField name) = _
    rw [mapM_map_checked (service.toField_fieldShape name), map_checked]
    rfl
  | input fields =>
    show TypeKind.input <$> (fields.map service.inputShape).mapM InputShape.toMember = _
    rw [mapM_map_checked service.toMember_inputShape, map_checked]
    rfl

/-- The type of a shape is the one that the shape was made for. -/
theorem toType_typeShape (type : NamedType) :
    (service.typeShape type).toType = checked (typeFault? type) type := by
  rw [TypeShape.toType, toKind_typeShape]
  exact checked_bind_pure _ _ _

end Service

/-! ## Types of a reply -/

/-- Reading and following the items of a reply adds the listed types to a table, in the order of the
items. -/
theorem Lists.addTypes_eq {service : Service} {types : List NamedType} {items : List Json}
    (h : Lists service types items) (hplain : ∀ type ∈ types, isReserved type.name = false) :
    ∃ shapes, items.mapM readType = .ok shapes ∧ ∀ table, addTypes table shapes =
      checked (types.findSome? typeFault?) (types.foldl TypeTable.insert table) := by
  induction h with
  | nil => exact ⟨[], rfl, fun table => rfl⟩
  | type type hrest ih =>
    obtain ⟨hname, hplain⟩ := List.forall_mem_cons.1 hplain
    obtain ⟨shapes, hread, hadd⟩ := ih hplain
    refine ⟨service.typeShape type :: shapes, ?_, fun table => ?_⟩
    · rw [List.mapM_cons, service.readType_typeJson, hread]
      rfl
    · have hshape : ¬ isReserved (service.typeShape type).name = true := by
        rw [show (service.typeShape type).name = type.name from rfl, hname]
        exact Bool.false_ne_true
      rw [addTypes, if_neg hshape, service.toType_typeShape, List.findSome?_cons, List.foldl_cons]
      cases typeFault? type with
      | some fault => rfl
      | none => exact hadd _
  | @reserved item shape types items hitem hname hrest ih =>
    -- A type of introspection itself is read like any other, and adds nothing.
    obtain ⟨shapes, hread, hadd⟩ := ih hplain
    refine ⟨shape :: shapes, ?_, fun table => ?_⟩
    · rw [List.mapM_cons, hitem, hread]
      rfl
    · rw [addTypes, if_pos hname]
      exact hadd table

/-- The schema record is found in every envelope. -/
theorem schemaRecord_wrap (envelope : Envelope) (schema : Schema) (items : List Json) :
    schemaRecord (envelope.wrap (replyJson schema items)) = replyJson schema items := by
  cases envelope <;> rfl

/-- A reply is read as its root types and the shapes of its types. -/
theorem readSchema_replyJson (schema : Schema) {items : List Json} {shapes : List TypeShape}
    (h : items.mapM readType = .ok shapes) :
    readSchema (replyJson schema items) =
      .ok { queryType := some schema.queryRoot
            mutationType := schema.mutationRoot
            types := shapes } := by
  have htypes : Json.readList readType (.array items) = .ok shapes := h
  have hquery : Json.readOption readName (nameJson schema.queryRoot) = .ok (some schema.queryRoot) := rfl
  simp only [replyJson, readSchema, Json.readRecord, Json.readNamed, SchemaParts.read, hquery,
    readOption_nameOrNull, htypes]
  rfl

end Introspection

end ActionForge
