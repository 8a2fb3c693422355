import ActionForge.Proofs.Document.Paths
import ActionForge.Proofs.Form.Regular

/-!
# The order of declarations

Two schemas may declare the same arguments and members in another order. With sorting on, generation does
not notice: `generate_reordered` says that it gives the same action for both or refuses both. Members are
looked up by name, forms and records are sorted by name on every level, and names are distinct, so the
order of declarations is lost before anything is made of the fields.
-/

namespace ActionForge

/-! ## Reordered schemas -/

/-- The fields are the same but for the order of their arguments. -/
structure FieldDef.Reordered (field other : FieldDef) : Prop where
  name : field.name = other.name
  description : field.description = other.description
  type : field.type = other.type
  arguments : field.arguments.Perm other.arguments

/-- The fields are the same but for their order and the order of their arguments. -/
def FieldsReordered (fields others : List FieldDef) : Prop :=
  ∃ moved, fields.Perm moved ∧ List.Forall₂ FieldDef.Reordered moved others

/-- The kinds are the same but for the order of members and of arguments. The types of a union and the
values of an enum stand in one order. -/
inductive TypeKind.Reordered : TypeKind → TypeKind → Prop
  | scalar : Reordered .scalar .scalar
  | object {fields others : List FieldDef} (h : FieldsReordered fields others) :
    Reordered (.object fields) (.object others)
  | interface {fields others : List FieldDef} (h : FieldsReordered fields others) :
    Reordered (.interface fields) (.interface others)
  | union (types : List String) : Reordered (.union types) (.union types)
  | enum (values : List String) : Reordered (.enum values) (.enum values)
  | input {fields others : List Member} (h : fields.Perm others) :
    Reordered (.input fields) (.input others)

/-- The types are the same but for the order of declarations in them. -/
structure NamedType.Reordered (type other : NamedType) : Prop where
  name : type.name = other.name
  description : type.description = other.description
  kind : type.kind.Reordered other.kind

/-- The schemas are the same but for the order of declarations in their types. -/
structure Schema.Reordered (schema other : Schema) : Prop where
  queryRoot : schema.queryRoot = other.queryRoot
  mutationRoot : schema.mutationRoot = other.mutationRoot
  types : List.Forall₂ NamedType.Reordered schema.types.types other.types.types

/-- No two members have one name, and no two arguments of a field. -/
def TypeKind.DistinctNames : TypeKind → Prop
  | .object fields | .interface fields =>
    (fields.map FieldDef.name).Nodup ∧ ∀ field ∈ fields, (field.arguments.map Member.name).Nodup
  | .input fields => (fields.map Member.name).Nodup
  | .scalar | .union _ | .enum _ => True

/-- Names are distinct in every type. -/
def Schema.DistinctNames (schema : Schema) : Prop :=
  ∀ type ∈ schema.types.types, type.kind.DistinctNames

/-! ## Looking up -/

section Finding

/-- Values that correspond are both missing or both there. -/
theorem none_or_some_of_rel {α : Type} {R : α → α → Prop} {found other : Option α}
    (h : Option.Rel R found other) :
    (found = none ∧ other = none) ∨ ∃ a b, found = some a ∧ other = some b ∧ R a b := by
  cases h with
  | none => exact .inl ⟨rfl, rfl⟩
  | some hab => exact .inr ⟨_, _, rfl, rfl, hab⟩

/-- In a list with distinct names, the first item of a name is the one that another order has first. -/
theorem find?_perm {α : Type} {name : α → String} {items others : List α} (h : items.Perm others)
    (hnames : (items.map name).Nodup) (wanted : String) :
    items.find? (fun item => name item = wanted) = others.find? fun item => name item = wanted := by
  induction h with
  | nil => rfl
  | cons item _ ih =>
    rw [List.find?_cons, List.find?_cons, ih (List.nodup_cons.1 hnames).2]
  | swap first second rest =>
    -- Only two neighbours that share the wanted name could change what is found, and names are distinct.
    have hne : name second ≠ name first := by
      intro hsame
      exact (List.nodup_cons.1 hnames).1 (by simp [hsame])
    by_cases hfirst : name first = wanted
    · have hsecond : name second ≠ wanted := hfirst ▸ hne
      simp [hfirst, hsecond]
    · by_cases hsecond : name second = wanted <;> simp [hfirst, hsecond]
  | trans hperm _ ih ih' => rw [ih hnames, ih' ((hperm.map name).nodup_iff.1 hnames)]

/-- Lists that correspond item by item, with equal names, have corresponding items under a name. -/
theorem find?_forall₂ {α : Type} {name : α → String} {R : α → α → Prop}
    (hname : ∀ a b, R a b → name a = name b) {items others : List α} (h : List.Forall₂ R items others)
    (wanted : String) :
    Option.Rel R (items.find? fun item => name item = wanted)
      (others.find? fun item => name item = wanted) := by
  induction h with
  | nil => exact .none
  | @cons a b _ _ hab _ ih =>
    rw [List.find?_cons, List.find?_cons, hname a b hab]
    split
    · exact .some hab
    · exact ih

end Finding

/-- Fields of another order are the same members in another order. -/
theorem FieldsReordered.members_perm {fields others : List FieldDef}
    (h : FieldsReordered fields others) :
    (fields.map FieldDef.toMember).Perm (others.map FieldDef.toMember) := by
  obtain ⟨moved, hperm, hmoved⟩ := h
  have hsame : moved.map FieldDef.toMember = others.map FieldDef.toMember := by
    clear hperm
    induction hmoved with
    | nil => rfl
    | cons hfield _ ih =>
      rw [List.map_cons, List.map_cons, ih, FieldDef.toMember, FieldDef.toMember, hfield.name,
        hfield.description, hfield.type]
  exact hsame ▸ hperm.map FieldDef.toMember

/-- Fields of another order have corresponding fields under a name. -/
theorem FieldsReordered.find? {fields others : List FieldDef} (h : FieldsReordered fields others)
    (hnames : (fields.map FieldDef.name).Nodup) (wanted : String) :
    Option.Rel FieldDef.Reordered (fields.find? fun field => field.name = wanted)
      (others.find? fun field => field.name = wanted) := by
  obtain ⟨moved, hperm, hmoved⟩ := h
  rw [find?_perm hperm hnames]
  exact find?_forall₂ (fun _ _ hfield => hfield.name) hmoved wanted

namespace Schema.Reordered

variable {schema other : Schema} (h : schema.Reordered other)

include h

/-- A name stands for corresponding types, or for none in both schemas. -/
theorem get?_eq (name : String) :
    (schema.get? name = none ∧ other.get? name = none) ∨
      ∃ type type', schema.get? name = some type ∧ other.get? name = some type' ∧
        type.Reordered type' :=
  none_or_some_of_rel (find?_forall₂ (fun _ _ htype => htype.name) h.types name)

/-- The members of a type are the same in another order. -/
theorem membersOf_perm (ref : TypeRef) : (schema.membersOf ref).Perm (other.membersOf ref) := by
  unfold Schema.membersOf
  obtain ⟨hleft, hright⟩ | ⟨⟨_, _, kind⟩, ⟨_, _, kind'⟩, hleft, hright, htype⟩ :=
    h.get?_eq ref.innermost
  · rw [hleft, hright]
  · rw [hleft, hright, Option.bind_some, Option.bind_some, NamedType.members?, NamedType.members?]
    -- Only kinds with members have an order to lose.
    cases htype.kind with
    | scalar | union | enum => exact .refl _
    | object hfields | interface hfields => exact hfields.members_perm
    | input hfields => exact hfields

/-- An operation has a root field in both schemas, but for the order of arguments the same, or in
neither. -/
theorem operation?_eq (hnames : schema.DistinctNames) (kind : OperationKind) (operation : String) :
    (schema.operation? kind operation = none ∧ other.operation? kind operation = none) ∨
      ∃ root root', schema.operation? kind operation = some root ∧
        other.operation? kind operation = some root' ∧ root.Reordered root' := by
  have hroot : schema.root? kind = other.root? kind := by
    cases kind with
    | query => exact congrArg some h.queryRoot
    | mutation => exact h.mutationRoot
  unfold Schema.operation?
  rw [hroot]
  cases other.root? kind with
  | none => exact .inl ⟨rfl, rfl⟩
  | some name =>
    simp only [Option.bind_eq_bind, Option.bind_some]
    obtain ⟨hleft, hright⟩ | ⟨⟨_, _, kind⟩, ⟨_, _, kind'⟩, hleft, hright, htype⟩ := h.get?_eq name
    · rw [hleft, hright]
      exact .inl ⟨rfl, rfl⟩
    · have hdistinct := hnames _ (Schema.mem_types_of_get? hleft)
      rw [hleft, hright, Option.bind_some, Option.bind_some]
      -- Names are distinct, so a field is found wherever it stands; other kinds have no fields.
      cases htype.kind with
      | object hfields => exact none_or_some_of_rel (hfields.find? hdistinct.1 operation)
      | scalar | interface | union | enum | input => exact .inl ⟨rfl, rfl⟩

end Schema.Reordered

/-! ## Arranging what was moved -/

/-- The slots of details under distinct names have distinct names. -/
theorem nodup_slots {children : Entries TypeDetails} (h : children.Distinct) :
    ((children.filterMap fun child => ValueSlot.ofDetails? child.1 child.2).map
      ValueSlot.name).Nodup :=
  (map_filterMap_sublist (g := Prod.fst) (fun _ _ => ValueSlot.name_of_ofDetails?) children).nodup h

/-- Children in another order make the same item, once its slots are arranged. -/
theorem FormItem.ofExpansion?_perm {expansion other : Expansion}
    (hdetails : expansion.details = other.details)
    (hchildren : expansion.children.Perm other.children) (hdistinct : expansion.children.Distinct)
    (name : String) :
    (ofExpansion? name expansion).map (arranged true) = (ofExpansion? name other).map (arranged true) := by
  obtain ⟨details, children⟩ := expansion
  obtain ⟨details', children'⟩ := other
  obtain rfl : details = details' := hdetails
  have hperm : children.Perm children' := hchildren
  have hslots := hperm.filterMap fun child => ValueSlot.ofDetails? child.1 child.2
  have hnodup := nodup_slots hdistinct
  unfold ofExpansion?
  simp only [hperm.isEmpty_eq]
  split
  · rfl
  · generalize children.filterMap (fun child => ValueSlot.ofDetails? child.1 child.2) = slots at *
    generalize children'.filterMap (fun child => ValueSlot.ofDetails? child.1 child.2) = slots' at *
    by_cases hfilled : slots = []
    · subst hfilled
      rw [← hslots.nil_eq]
    · have hfilled' : slots' ≠ [] := by
        intro hempty
        exact hfilled (hslots.trans (hempty ▸ .refl slots')).eq_nil
      -- Slots with distinct names are arranged in one way.
      have harranged := arrange_eq_of_perm hslots hnodup
      simp only [dif_pos hfilled, dif_pos hfilled', ne_eq, Option.map_some, arranged, harranged]

/-! ## Resolving -/

namespace Schema

/-- The members of a type have distinct names if all names are distinct, whatever kind the type is. -/
theorem nodup_membersOf {schema : Schema} (hnames : schema.DistinctNames) (ref : TypeRef) :
    ((schema.membersOf ref).map Member.name).Nodup := by
  unfold membersOf
  cases hget : schema.get? ref.innermost with
  | none => exact .nil
  | some type =>
    have hdistinct := hnames type (mem_types_of_get? hget)
    have hmember : Member.name ∘ FieldDef.toMember = FieldDef.name := rfl
    rw [Option.bind_some, NamedType.members?]
    cases hkind : type.kind with
    | object fields | interface fields =>
      rw [hkind] at hdistinct
      simpa [hmember] using hdistinct.1
    | input fields =>
      rw [hkind] at hdistinct
      exact hdistinct
    | scalar | union | enum => exact .nil

/-- The arguments of a root field have distinct names. -/
theorem nodup_arguments {schema : Schema} (hnames : schema.DistinctNames) {kind : OperationKind}
    {operation : String} {root : FieldDef} (h : schema.operation? kind operation = some root) :
    (root.arguments.map Member.name).Nodup := by
  simp only [operation?, Option.bind_eq_bind, Option.bind_eq_some_iff] at h
  obtain ⟨name, -, type, htype, h⟩ := h
  have hdistinct := hnames type (mem_types_of_get? htype)
  split at h
  · rename_i fields hkind
    rw [hkind] at hdistinct
    exact hdistinct.2 root (List.mem_of_find?_eq_some h)
  · cases h

end Schema

namespace Context

section Reordered

variable {schema other : Schema} (h : schema.Reordered other) (settings : Settings)

include h

/-- What is made of the kind of a type is the same, as scalars and enums are. -/
theorem leaf_reordered (ref : TypeRef) :
    fieldType? ⟨schema, settings⟩ ref = fieldType? ⟨other, settings⟩ ref ∧
      choicesOf ⟨schema, settings⟩ ref = choicesOf ⟨other, settings⟩ ref ∧
      ∀ user, useFault? ⟨schema, settings⟩ ref user = useFault? ⟨other, settings⟩ ref user := by
  unfold fieldType? choicesOf useFault? Schema.kind?
  obtain ⟨hleft, hright⟩ | ⟨⟨_, _, kind⟩, ⟨_, _, kind'⟩, hleft, hright, htype⟩ :=
    h.get?_eq ref.innermost
  · simp [hleft, hright]
  · simp only [hleft, hright, Option.map_some]
    cases htype.kind <;> exact ⟨rfl, rfl, fun _ => rfl⟩

/-- The details of a type say nothing about the order of its declarations. -/
theorem detailsOf_reordered (ref : TypeRef) (fieldName : Option String) :
    detailsOf ⟨schema, settings⟩ ref fieldName = detailsOf ⟨other, settings⟩ ref fieldName := by
  obtain ⟨htype, hchoices, -⟩ := leaf_reordered h settings ref
  have hdescription : (schema.get? ref.innermost).bind NamedType.description =
      (other.get? ref.innermost).bind NamedType.description := by
    obtain ⟨hleft, hright⟩ | ⟨type, type', hleft, hright, htype⟩ := h.get?_eq ref.innermost
    · rw [hleft, hright]
    · rw [hleft, hright, Option.bind_some, Option.bind_some, htype.description]
  rw [detailsOf, detailsOf, htype, hchoices, hdescription]

/-- The details of a member say nothing about the order of declarations. -/
theorem memberDetails_reordered (member : Member) :
    memberDetails ⟨schema, settings⟩ member = memberDetails ⟨other, settings⟩ member := by
  rw [memberDetails, memberDetails, detailsOf_reordered h]

/-- The types in reach of a reference are in order in both schemas or in neither. -/
theorem expandFault?_reordered (ref : TypeRef) (fieldName : Option String) :
    expandFault? ⟨schema, settings⟩ ref fieldName = none ↔
      expandFault? ⟨other, settings⟩ ref fieldName = none := by
  have hmember : ∀ member : Member, memberFault? ⟨schema, settings⟩ member =
      memberFault? ⟨other, settings⟩ member := by
    intro member
    exact (leaf_reordered h settings member.type).2.2 member.name
  simp only [expandFault?, Option.or_eq_none_iff, List.findSome?_eq_none_iff, hmember,
    (leaf_reordered h settings ref).2.2, (h.membersOf_perm ref).mem_iff]

variable (hnames : schema.DistinctNames)

include hnames

/-- The members of a type have the same details in another order. -/
theorem children_reordered (ref : TypeRef) (fieldName : Option String) :
    (expansionOf ⟨schema, settings⟩ ref fieldName).children.Perm
      (expansionOf ⟨other, settings⟩ ref fieldName).children := by
  have hmembers := h.membersOf_perm ref
  have hnodup := Schema.nodup_membersOf hnames ref
  have hnodup' := (hmembers.map Member.name).nodup_iff.1 hnodup
  have hdetails : (fun member : Member => (member.name, memberDetails ⟨schema, settings⟩ member)) =
      fun member => (member.name, memberDetails ⟨other, settings⟩ member) :=
    funext fun member => by rw [memberDetails_reordered h]
  rw [children_expansionOf, children_expansionOf, hdetails, Entries.ofList_of_nodup,
    Entries.ofList_of_nodup]
  · exact hmembers.map _
  · rw [List.map_map]
    exact hnodup'
  · rw [List.map_map]
    exact hnodup

/-- The slots of a record are the same in another order. -/
theorem declaredSlots_perm (result : TypeRef) :
    (declaredSlots ⟨schema, settings⟩ result).Perm (declaredSlots ⟨other, settings⟩ result) := by
  rw [declaredSlots_eq _ result none, declaredSlots_eq _ result none]
  exact (children_reordered h settings hnames result none).filterMap _

/-- An identifier is missing from records in both schemas or in neither. -/
theorem idFault?_reordered (result : TypeRef) :
    idFault? ⟨schema, settings⟩ result = idFault? ⟨other, settings⟩ result := by
  simp only [idFault?, idSource?, (declaredSlots_perm h settings hnames result).any_eq]

/-! ### Sorted forms and records -/

variable (hsort : settings.sortFields = true)

include hsort

/-- The form is the same, in whatever order its arguments are declared. -/
theorem formItems_reordered {arguments arguments' : List Member} (hperm : arguments.Perm arguments')
    (hnodup : (arguments.map Member.name).Nodup) :
    formItems ⟨schema, settings⟩ arguments = formItems ⟨other, settings⟩ arguments' := by
  -- Each argument becomes the same item first; then the items are arranged.
  have hitem : ∀ argument : Member,
      (FormItem.ofExpansion? argument.name (argumentExpansion ⟨schema, settings⟩ argument)).map
          (FormItem.arranged true) =
        (FormItem.ofExpansion? argument.name (argumentExpansion ⟨other, settings⟩ argument)).map
          (FormItem.arranged true) := by
    intro argument
    have hchildren : (argumentExpansion ⟨schema, settings⟩ argument).children.Perm
        (argumentExpansion ⟨other, settings⟩ argument).children :=
      children_reordered h settings hnames argument.type (some argument.name)
    have hdistinct : (argumentExpansion ⟨schema, settings⟩ argument).children.Distinct := by
      rw [argumentExpansion, children_expansionOf]
      exact Entries.distinct_ofList _
    refine FormItem.ofExpansion?_perm ?_ hchildren hdistinct argument.name
    simp only [argumentExpansion, expansionOf, detailsOf_reordered h]
  have hform : ∀ (schema : Schema) (arguments : List Member),
      formItems ⟨schema, settings⟩ arguments =
        arrange true FormItem.name (arguments.filterMap fun argument =>
          (FormItem.ofExpansion? argument.name (argumentExpansion ⟨schema, settings⟩ argument)).map
            (FormItem.arranged true)) := by
    intro schema arguments
    simp only [formItems, hsort, List.map_filterMap]
  have hitems := nodup_names_formItems ⟨schema, settings⟩ hnodup
  rw [hform, ((arrange_perm _ _ _).map FormItem.name).nodup_iff] at hitems
  rw [hform, hform]
  simp only [hitem] at hitems ⊢
  exact arrange_eq_of_perm (hperm.filterMap _) hitems

/-- The records are the same, in whatever order the members of their type are declared. -/
theorem resultSlots_reordered (result : TypeRef) (target : Target) :
    resultSlots ⟨schema, settings⟩ result target = resultSlots ⟨other, settings⟩ result target := by
  have hslots := declaredSlots_perm h settings hnames result
  have hnodup : ((declaredSlots ⟨schema, settings⟩ result).map ValueSlot.name).Nodup := by
    rw [declaredSlots_eq _ result none, children_expansionOf]
    exact nodup_slots (Entries.distinct_ofList _)
  have hadds : addsId ⟨schema, settings⟩ result = addsId ⟨other, settings⟩ result := by
    simp only [addsId, idSource?, hslots.any_eq]
  simp only [resultSlots, hsort]
  cases target with
  | document => exact arrange_eq_of_perm hslots hnodup
  | platform =>
    rw [slotsFor, slotsFor, ← hadds]
    refine arrange_eq_of_perm (hslots.append_right _) ?_
    split
    · rename_i hid
      -- An identifier is added only where no slot has its name.
      have hnew : idKey ∉ (declaredSlots ⟨schema, settings⟩ result).map ValueSlot.name := by
        simpa [addsId, idSource?] using (Bool.and_eq_true_iff.1 hid).2
      rw [List.map_append, List.nodup_append]
      refine ⟨hnodup, List.nodup_singleton idKey, ?_⟩
      intro name hname other hother hsame
      obtain rfl : other = idKey := List.mem_singleton.1 hother
      exact hnew (hsame ▸ hname)
    · simpa using hnodup

end Reordered

/-! ## Generating -/

section Roots

variable {schema other : Schema} (h : schema.Reordered other) (hnames : schema.DistinctNames)
  {settings : Settings} (hsort : settings.sortFields = true) {root root' : FieldDef}
  (hroot : root.Reordered root') (harguments : (root.arguments.map Member.name).Nodup)

include h hnames hsort hroot harguments

/-- The same form is shown for arguments in another order. -/
theorem shownInputs_reordered :
    shownInputs ⟨schema, settings⟩ root.arguments = shownInputs ⟨other, settings⟩ root'.arguments := by
  rw [shownInputs, shownInputs,
    formItems_reordered h settings hnames hsort hroot.arguments harguments]

/-- The action that is made of a root field is the same, faults apart. -/
theorem actionOf_reordered (kind : ActionKind) (operation : String) :
    actionOf ⟨schema, settings⟩ kind operation root =
      actionOf ⟨other, settings⟩ kind operation root' := by
  have hitems := formItems_reordered h settings hnames hsort hroot.arguments harguments
  have hslots := resultSlots_reordered h settings hnames hsort root'.type
  have hdetails := detailsOf_reordered h settings root'.type none
  simp only [actionOf, operationOf, selectionOf, shownInputs, shownOutputs, idSource?, hroot.type,
    hroot.description, hitems, hslots, hdetails]

/-- Nothing is wrong with a root field in one schema if nothing is wrong with it in the other. -/
theorem generationFault?_reordered (operation : String) :
    generationFault? ⟨schema, settings⟩ operation root = none ↔
      generationFault? ⟨other, settings⟩ operation root' = none := by
  have hinputs := shownInputs_reordered h hnames hsort hroot harguments
  have hslots := resultSlots_reordered h settings hnames hsort root'.type .platform
  have hsamples : samplesFault? ⟨schema, settings⟩ root = samplesFault? ⟨other, settings⟩ root' := by
    simp only [samplesFault?, shownOutputs, hinputs, hroot.type, hslots]
  have hused : argumentsFault? ⟨schema, settings⟩ root.arguments = none ↔
      argumentsFault? ⟨other, settings⟩ root'.arguments = none := by
    simp only [argumentsFault?, argumentFault?, List.findSome?_eq_none_iff,
      expandFault?_reordered h, hroot.arguments.mem_iff]
  -- A fault is looked for in parts, each of which is in order on both sides.
  simp only [generationFault?, fieldsFault?, resultFault?, Option.or_eq_none_iff, hsamples, hused,
    hroot.type, (leaf_reordered h settings root'.type).2.2, expandFault?_reordered h,
    idFault?_reordered h settings hnames]

end Roots

/-- With sorting on, the order of declarations plays no part: generation gives the same action for both
schemas, or refuses both. -/
theorem generate_reordered {schema other : Schema} (h : schema.Reordered other)
    (hnames : schema.DistinctNames) {settings : Settings} (hsort : settings.sortFields = true)
    (kind : ActionKind) (operation : String) (action : Action) :
    generate ⟨schema, settings⟩ kind operation = .ok action ↔
      generate ⟨other, settings⟩ kind operation = .ok action := by
  rw [generate_eq_ok_iff, generate_eq_ok_iff]
  simp only [rootFor_eq_ok_iff]
  obtain ⟨hleft, hright⟩ | ⟨root, root', hleft, hright, hroot⟩ :=
    h.operation?_eq hnames kind.operationKind operation
  · simp [hleft, hright]
  · have harguments := Schema.nodup_arguments hnames hleft
    -- Nothing that generation asks of a root field depends on the order of its arguments.
    have hfault := generationFault?_reordered h hnames hsort hroot harguments operation
    have haction := actionOf_reordered h hnames hsort hroot harguments kind operation
    have hempty : root.arguments = [] ↔ root'.arguments = [] := by
      rw [← List.isEmpty_iff, ← List.isEmpty_iff, hroot.arguments.isEmpty_eq]
    constructor
    · rintro ⟨found, ⟨hfound, hsearch⟩, hnone, rfl⟩
      obtain rfl : root = found := Option.some.inj (hleft.symm.trans hfound)
      exact ⟨root', ⟨hright, fun hkind => mt hempty.2 (hsearch hkind)⟩, hfault.1 hnone, haction.symm⟩
    · rintro ⟨found, ⟨hfound, hsearch⟩, hnone, rfl⟩
      obtain rfl : root' = found := Option.some.inj (hright.symm.trans hfound)
      exact ⟨root, ⟨hleft, fun hkind => mt hempty.1 (hsearch hkind)⟩, hfault.2 hnone, haction⟩

end Context

/-! ## Schemas read backwards -/

/-- The field with its arguments in the opposite order. -/
def FieldDef.reversed (field : FieldDef) : FieldDef := { field with arguments := field.arguments.reverse }

/-- The type with all that it declares in the opposite order. -/
def NamedType.reversed (type : NamedType) : NamedType :=
  { type with
    kind := match type.kind with
      | .object fields => .object (fields.reverse.map FieldDef.reversed)
      | .interface fields => .interface (fields.reverse.map FieldDef.reversed)
      | .input fields => .input fields.reverse
      | .scalar => .scalar
      | .union types => .union types
      | .enum values => .enum values }

/-- The schema with all declarations in the opposite order. -/
def Schema.reversed (schema : Schema) : Schema :=
  { schema with
    types := ⟨schema.types.types.map NamedType.reversed,
      List.pairwise_map.2 (schema.types.sorted.imp fun hlt => hlt)⟩ }

/-- Fields are reordered when they and their arguments are read backwards. -/
theorem fieldsReordered_reversed (fields : List FieldDef) :
    FieldsReordered fields (fields.reverse.map FieldDef.reversed) := by
  refine ⟨fields.reverse, fields.reverse_perm.symm, ?_⟩
  rw [List.forall₂_map_right_iff, List.forall₂_same]
  intro field _
  exact ⟨rfl, rfl, rfl, field.arguments.reverse_perm.symm⟩

/-- A type is reordered when its declarations are read backwards. -/
theorem NamedType.reordered_reversed (type : NamedType) : type.Reordered type.reversed := by
  obtain ⟨name, description, kind⟩ := type
  refine ⟨rfl, rfl, ?_⟩
  cases kind with
  | scalar => exact .scalar
  | object fields => exact .object (fieldsReordered_reversed fields)
  | interface fields => exact .interface (fieldsReordered_reversed fields)
  | union types => exact .union types
  | enum values => exact .enum values
  | input fields => exact .input fields.reverse_perm.symm

/-- A schema is reordered when its types are, since these stay in the order of their names. -/
theorem Schema.reordered_reversed (schema : Schema) : schema.Reordered schema.reversed where
  queryRoot := rfl
  mutationRoot := rfl
  types := List.forall₂_map_right_iff.2 (List.forall₂_same.2 fun type _ => type.reordered_reversed)

instance (kind : TypeKind) : Decidable kind.DistinctNames :=
  match kind with
  | .object _ | .interface _ => inferInstanceAs (Decidable (_ ∧ _))
  | .input fields => inferInstanceAs (Decidable (fields.map Member.name).Nodup)
  | .scalar | .union _ | .enum _ => inferInstanceAs (Decidable True)

instance (schema : Schema) : Decidable schema.DistinctNames :=
  inferInstanceAs (Decidable (∀ type ∈ schema.types.types, type.kind.DistinctNames))

/-- The library gives one action for books, whether it is read forwards or backwards. -/
theorem Context.generate_reordered_books :
    librarySchema.Reordered librarySchema.reversed ∧ librarySchema.DistinctNames ∧
      librarySchema ≠ librarySchema.reversed ∧
      ∃ action, generate ⟨librarySchema, Settings.default⟩ .search "books" = .ok action ∧
        generate ⟨librarySchema.reversed, Settings.default⟩ .search "books" = .ok action := by
  have hreordered := librarySchema.reordered_reversed
  have hnames : librarySchema.DistinctNames := by decide +kernel
  refine ⟨hreordered, hnames, by decide +kernel, ?_⟩
  have hok : (generate ⟨librarySchema, Settings.default⟩ .search "books").isOk := by decide +kernel
  cases h : generate ⟨librarySchema, Settings.default⟩ .search "books" with
  | error e =>
    rw [h] at hok
    cases hok
  | ok action => exact ⟨action, rfl, (generate_reordered hreordered hnames rfl .search "books" action).1 h⟩

end ActionForge
