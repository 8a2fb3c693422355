import ActionForge.Proofs.Generation

/-!
# When generation succeeds

Generation asks for five things, in this order: a root field, an argument to search by, usable types in
reach, an identifier source among the slots of the result, and samples for everything that is shown.
`generate_outcome` says that it succeeds exactly when all five are there, and that an error blames the
first one that is not. The types in reach are those of the result and the arguments and of their members;
whatever lies deeper in the type graph, and a member that no form shows, plays no part or only this one.
-/

namespace ActionForge

namespace Context

variable (context : Context)

/-! ## What generation asks for -/

/-- The field is the first of that name on the root type for the action. -/
def IsRootField (kind : ActionKind) (operation : String) (root : FieldDef) : Prop :=
  ∃ name type before after, context.schema.root? kind.operationKind = some name ∧
    context.schema.get? name = some type ∧ type.kind = .object (before ++ root :: after) ∧
    root.name = operation ∧ ∀ earlier ∈ before, earlier.name ≠ operation

/-- A search has an argument to search by. -/
def IsSearchable (kind : ActionKind) (root : FieldDef) : Prop := kind = .search → root.arguments ≠ []

/-- The type references in reach, with the fields that use them, in the order in which they are tried:
the result, the arguments with the members of their types, the members of the result. -/
def usesOf (operation : String) (root : FieldDef) : List (TypeRef × String) :=
  let members (ref : TypeRef) :=
    (context.schema.membersOf ref).map fun member => (member.type, member.name)
  [(root.type, operation)] ++
    root.arguments.flatMap (fun argument =>
      (argument.type, argument.name) :: members argument.type) ++
    members root.type

/-- The type is part of the schema and, when it is a scalar, a field type stands for it. -/
def IsUsable (ref : TypeRef) : Prop :=
  ∃ kind, context.schema.kind? ref = some kind ∧
    (kind = .scalar → context.settings.scalarTypes.get? ref.innermost ≠ none)

/-- All types in reach are usable. -/
def IsResolvable (operation : String) (root : FieldDef) : Prop :=
  ∀ use ∈ context.usesOf operation root, context.IsUsable use.1

/-- The identifier source of a result, if one is set, is a member of its type whose last declaration is
a scalar or an enum. -/
def IsIdentified (result : TypeRef) : Prop :=
  ∀ source, context.settings.idSources.get? result.innermost = some source →
    ∃ before member after, context.schema.membersOf result = before ++ member :: after ∧
      member.name = source ∧ (∀ later ∈ after, later.name ≠ source) ∧
      context.schema.isLeaf member.type

/-- Every leaf of the form and every field of the records has a sample value. -/
def IsSampled (operation : String) (root : FieldDef) : Prop :=
  ∀ inputs outputs, context.platformFields operation root = .ok (inputs, outputs) →
    (∀ leaf ∈ leavesOf inputs, ∀ type, leaf.type = some type →
      context.settings.samples.HasSample leaf.key type leaf.choices) ∧
    ∀ output ∈ outputs, context.settings.samples.HasSample output.key output.type []

/-- An operation for which generation has all that it asks for. -/
structure Accepts (kind : ActionKind) (operation : String) (root : FieldDef) : Prop where
  isRootField : context.IsRootField kind operation root
  isSearchable : IsSearchable kind root
  isResolvable : context.IsResolvable operation root
  isIdentified : context.IsIdentified root.type
  isSampled : context.IsSampled operation root

/-- The use is the first one in reach of a type that is not usable. -/
def IsFirstUnusable (operation : String) (root : FieldDef) (use : TypeRef × String) : Prop :=
  ∃ before after, context.usesOf operation root = before ++ use :: after ∧
    (∀ earlier ∈ before, context.IsUsable earlier.1) ∧ ¬ context.IsUsable use.1

/-- What an error says: which of the five things is the first that is missing, and where. -/
def Blames (kind : ActionKind) (operation : String) : ActionError → Prop
  | .unknownOperation rootKind name =>
    rootKind = kind.operationKind ∧ name = operation ∧
      ¬ ∃ root, context.IsRootField kind operation root
  | .noArguments name =>
    name = operation ∧ ∃ root, context.IsRootField kind operation root ∧ ¬ IsSearchable kind root
  | .unresolvedType type user =>
    ∃ root ref, context.IsRootField kind operation root ∧ IsSearchable kind root ∧
      context.IsFirstUnusable operation root (ref, user) ∧ ref.innermost = type ∧
      context.schema.kind? ref = none
  | .unmappedScalar type user =>
    ∃ root ref, context.IsRootField kind operation root ∧ IsSearchable kind root ∧
      context.IsFirstUnusable operation root (ref, user) ∧ ref.innermost = type ∧
      context.schema.kind? ref = some .scalar
  | .unknownIdSource type source =>
    ∃ root, context.IsRootField kind operation root ∧ IsSearchable kind root ∧
      context.IsResolvable operation root ∧ ¬ context.IsIdentified root.type ∧
      type = root.type.innermost ∧ context.settings.idSources.get? type = some source
  | .noSample key type =>
    ∃ root inputs outputs, context.IsRootField kind operation root ∧ IsSearchable kind root ∧
      context.IsResolvable operation root ∧ context.IsIdentified root.type ∧
      context.platformFields operation root = .ok (inputs, outputs) ∧
      ((∃ leaf ∈ leavesOf inputs, leaf.key = key ∧ leaf.type = some type ∧
          ¬ context.settings.samples.HasSample key type leaf.choices) ∨
        ∃ output ∈ outputs, output.key = key ∧ output.type = type ∧
          ¬ context.settings.samples.HasSample key type [])
  | .invalidKind _ => False

/-! ## Root fields -/

/-- A root field is found if it is the first of its name on the root type. -/
theorem operation?_eq_some_iff (kind : ActionKind) (operation : String) (root : FieldDef) :
    context.schema.operation? kind.operationKind operation = some root ↔
      context.IsRootField kind operation root := by
  unfold Schema.operation? IsRootField
  cases hname : context.schema.root? kind.operationKind with
  | none => simp
  | some name =>
    cases htype : context.schema.get? name with
    | none => simp [htype]
    | some type =>
      cases hkind : type.kind with
      | object fields =>
        simp only [Option.bind_eq_bind, Option.bind_some, htype, hkind,
          List.find?_eq_some_iff_append, decide_eq_true_eq]
        constructor
        · rintro ⟨hfield, before, after, rfl, hbefore⟩
          exact ⟨name, type, before, after, rfl, htype, hkind, hfield, by simpa using hbefore⟩
        · -- The root type is the one that was found, so the fields are split in the same list.
          rintro ⟨name', type', before, after, hname', htype', hkind', hfield, hbefore⟩
          cases hname'
          obtain rfl : type = type' := Option.some.inj (htype.symm.trans htype')
          obtain rfl : fields = before ++ root :: after := by
            simpa using hkind.symm.trans hkind'
          exact ⟨hfield, before, after, rfl, by simpa using hbefore⟩
      | _ => simp [htype, hkind]

/-! ## Types in reach -/

/-- A use has no fault if the type is usable. -/
theorem useFault?_eq_none_iff (ref : TypeRef) (user : String) :
    context.useFault? ref user = none ↔ context.IsUsable ref := by
  unfold useFault? IsUsable
  cases context.schema.kind? ref with
  | none => simp
  | some kind => cases kind <;> simp [Option.isSome_iff_ne_none]

/-- An unusable type is not part of the schema, or a scalar that no field type stands for. -/
theorem eq_of_useFault? {ref : TypeRef} {user : String} {e : ActionError}
    (h : context.useFault? ref user = some e) :
    (e = .unresolvedType ref.innermost user ∧ context.schema.kind? ref = none) ∨
      (e = .unmappedScalar ref.innermost user ∧ context.schema.kind? ref = some .scalar) := by
  unfold useFault? at h
  split at h
  · rename_i hkind
    exact .inl ⟨(Option.some.inj h).symm, hkind⟩
  · rename_i hkind
    split at h
    · cases h
    · exact .inr ⟨(Option.some.inj h).symm, hkind⟩
  · cases h

/-- The fault of the types in reach. -/
def typesFault? (operation : String) (root : FieldDef) : Option ActionError :=
  (context.usesOf operation root).findSome? fun use => context.useFault? use.1 use.2

/-- Arguments are tried for their types and the types of their members, one argument after the other. -/
theorem argumentsFault?_eq (arguments : List Member) :
    context.argumentsFault? arguments =
      (arguments.flatMap fun argument => (argument.type, argument.name) ::
        (context.schema.membersOf argument.type).map fun member => (member.type, member.name)).findSome?
          fun use => context.useFault? use.1 use.2 := by
  induction arguments with
  | nil => rfl
  | cons argument rest ih =>
    have hargument : context.argumentFault? argument = ((argument.type, argument.name) ::
        (context.schema.membersOf argument.type).map
          fun member => (member.type, member.name)).findSome? fun use =>
            context.useFault? use.1 use.2 := by
      rw [argumentFault?, expandFault?, List.findSome?_cons, List.findSome?_map, Option.getD_some]
      cases context.useFault? argument.type argument.name <;> rfl
    rw [List.flatMap_cons, List.findSome?_append, ← ih, ← hargument, argumentsFault?,
      List.findSome?_cons]
    cases context.argumentFault? argument <;> rfl

/-- The result is tried twice, which is as good as once: its members follow the arguments. -/
theorem useFault?_or_fieldsFault? (operation : String) (root : FieldDef) :
    (context.useFault? root.type operation).or (context.fieldsFault? operation root) =
      (context.typesFault? operation root).or (context.idFault? root.type) := by
  have hmembers : ((context.schema.membersOf root.type).map
      fun member => (member.type, member.name)).findSome? (fun use =>
        context.useFault? use.1 use.2) =
      (context.schema.membersOf root.type).findSome? context.memberFault? := by
    rw [List.findSome?_map]
    rfl
  rw [fieldsFault?, resultFault?, expandFault?, typesFault?, usesOf, List.findSome?_append,
    List.findSome?_append, ← argumentsFault?_eq, hmembers, List.findSome?_cons,
    List.findSome?_nil, Option.getD_some]
  cases context.useFault? root.type operation with
  | some e => rfl
  | none => simp only [Option.none_or, Option.or_assoc]

/-- Generation tries the types in reach, then the identifier source, then the samples. -/
theorem generationFault?_eq (operation : String) (root : FieldDef) :
    context.generationFault? operation root =
      (context.typesFault? operation root).or
        ((context.idFault? root.type).or (context.samplesFault? root)) := by
  rw [generationFault?, ← Option.or_assoc, useFault?_or_fieldsFault?, Option.or_assoc]

/-- The types in reach have no fault if all of them are usable. -/
theorem typesFault?_eq_none_iff (operation : String) (root : FieldDef) :
    context.typesFault? operation root = none ↔ context.IsResolvable operation root := by
  rw [typesFault?, List.findSome?_eq_none_iff]
  exact forall₂_congr fun use _ => context.useFault?_eq_none_iff use.1 use.2

/-- A fault among them is that of the first type that is not usable. -/
theorem isFirstUnusable_of_typesFault? {operation : String} {root : FieldDef} {e : ActionError}
    (h : context.typesFault? operation root = some e) :
    ∃ use, context.IsFirstUnusable operation root use ∧ context.useFault? use.1 use.2 = some e := by
  obtain ⟨before, use, after, huses, huse, hbefore⟩ := List.findSome?_eq_some_iff.1 h
  refine ⟨use, ⟨before, after, huses, fun earlier hearlier => ?_, fun husable => ?_⟩, huse⟩
  · exact (context.useFault?_eq_none_iff earlier.1 earlier.2).1 (hbefore earlier hearlier)
  · rw [(context.useFault?_eq_none_iff use.1 use.2).2 husable] at huse
    cases huse

/-! ## Identifier sources -/

/-- Where all types in reach are usable, a name has a slot exactly when its last declaration is a
leaf. -/
theorem exists_mem_declaredSlots_iff_isLeaf {operation : String} {root : FieldDef}
    (h : context.IsResolvable operation root) (name : String) :
    (∃ slot ∈ context.declaredSlots root.type, slot.name = name) ↔
      ∃ before member after, context.schema.membersOf root.type = before ++ member :: after ∧
        member.name = name ∧ (∀ later ∈ after, later.name ≠ name) ∧
        context.schema.isLeaf member.type := by
  -- For usable types, to have a type on the platform and to be a leaf are the same.
  have hleaf : ∀ member ∈ context.schema.membersOf root.type,
      (context.fieldType? member.type).isSome = context.schema.isLeaf member.type := by
    intro member hmember
    have husable : context.IsUsable member.type := by
      refine h (member.type, member.name) ?_
      simp only [usesOf, List.mem_append]
      exact .inr (List.mem_map.2 ⟨member, hmember, rfl⟩)
    exact context.isSome_fieldType? ((context.useFault?_eq_none_iff _ member.name).2 husable)
  rw [exists_mem_declaredSlots_iff]
  constructor
  · rintro ⟨member, hentry, htype⟩
    obtain ⟨before, after, hmembers, hname, hafter⟩ := Schema.mem_memberTable_iff.1 hentry
    rw [hleaf member (by simp [hmembers])] at htype
    exact ⟨before, member, after, hmembers, hname, hafter, htype⟩
  · rintro ⟨before, member, after, hmembers, hname, hafter, htype⟩
    rw [← hleaf member (by simp [hmembers])] at htype
    exact ⟨member, Schema.mem_memberTable_iff.2 ⟨before, after, hmembers, hname, hafter⟩, htype⟩

/-- The identifier source has no fault if it is a leaf of the result. -/
theorem idFault?_eq_none_iff {operation : String} {root : FieldDef}
    (h : context.IsResolvable operation root) :
    context.idFault? root.type = none ↔ context.IsIdentified root.type := by
  unfold idFault? IsIdentified idSource?
  cases context.settings.idSources.get? root.type.innermost with
  | none => simp
  | some source =>
    -- The types in reach are in order, so a slot is a member whose last declaration is a leaf.
    simp only [Option.some.injEq, forall_eq', ← context.exists_mem_declaredSlots_iff_isLeaf h source]
    simp

/-- A fault of the identifier source names the type and the source. -/
theorem eq_of_idFault? {result : TypeRef} {e : ActionError} (h : context.idFault? result = some e) :
    ∃ source, context.settings.idSources.get? result.innermost = some source ∧
      e = .unknownIdSource result.innermost source := by
  unfold idFault? idSource? at h
  split at h
  · cases h
  · rename_i source hsource
    split at h
    · cases h
    · exact ⟨source, hsource, (Option.some.inj h).symm⟩

/-! ## Samples -/

/-- Where types and identifier are in order, nothing stands in the way of the fields. -/
theorem fieldsFault?_eq_none {operation : String} {root : FieldDef}
    (h : context.IsResolvable operation root) (hid : context.IsIdentified root.type) :
    context.fieldsFault? operation root = none := by
  have hfaults := context.useFault?_or_fieldsFault? operation root
  rw [(context.typesFault?_eq_none_iff operation root).2 h, (context.idFault?_eq_none_iff h).2 hid]
    at hfaults
  exact (Option.or_eq_none_iff.1 hfaults).2

/-- Where types and identifier are in order, the fields of the platform are those that are shown. -/
theorem platformFields_eq_ok {operation : String} {root : FieldDef}
    (h : context.IsResolvable operation root) (hid : context.IsIdentified root.type) :
    context.platformFields operation root =
      .ok (context.shownInputs root.arguments, context.shownOutputs root.type) := by
  rw [platformFields_eq, context.fieldsFault?_eq_none h hid, checked_none]

/-- The samples have no fault if everything that is shown has one. -/
theorem samplesFault?_eq_none_iff {operation : String} {root : FieldDef}
    (h : context.IsResolvable operation root) (hid : context.IsIdentified root.type) :
    context.samplesFault? root = none ↔ context.IsSampled operation root := by
  have hleaf : ∀ leaf : InputSpec, context.settings.samples.leafFault? leaf = none ↔
      ∀ type, leaf.type = some type →
        context.settings.samples.HasSample leaf.key type leaf.choices := by
    intro leaf
    simp only [SampleRules.leafFault?, Option.bind_eq_none_iff, SampleRules.fault?_eq_none_iff]
  -- What is shown is given as one value, so the condition speaks of the only form there is.
  have hfields : context.IsSampled operation root ↔
      (∀ leaf ∈ leavesOf (context.shownInputs root.arguments),
        context.settings.samples.leafFault? leaf = none) ∧
      ∀ output ∈ context.shownOutputs root.type,
        context.settings.samples.outputFault? output = none := by
    simp only [IsSampled, context.platformFields_eq_ok h hid, Except.ok.injEq, Prod.mk.injEq, and_imp,
      hleaf, SampleRules.outputFault?, SampleRules.fault?_eq_none_iff]
    constructor
    · intro hsampled
      exact hsampled _ _ rfl rfl
    · rintro hsampled _ _ rfl rfl
      exact hsampled
  rw [hfields, samplesFault?, Option.or_eq_none_iff, List.findSome?_eq_none_iff,
    List.findSome?_eq_none_iff]

/-- The fault of the samples names a field that is shown and has no sample. -/
theorem exists_noSample_of_samplesFault? {root : FieldDef} {e : ActionError}
    (h : context.samplesFault? root = some e) :
    ∃ key type, e = .noSample key type ∧
      ((∃ leaf ∈ leavesOf (context.shownInputs root.arguments), leaf.key = key ∧
          leaf.type = some type ∧ ¬ context.settings.samples.HasSample key type leaf.choices) ∨
        ∃ output ∈ context.shownOutputs root.type, output.key = key ∧ output.type = type ∧
          ¬ context.settings.samples.HasSample key type []) := by
  have hlacks : ∀ {key type choices}, context.settings.samples.fault? key type choices = some e →
      ¬ context.settings.samples.HasSample key type choices := by
    intro key type choices hfault hsample
    rw [(context.settings.samples.fault?_eq_none_iff key type choices).2 hsample] at hfault
    cases hfault
  rw [samplesFault?, Option.or_eq_some_iff] at h
  -- The form is sampled before the result.
  rcases h with h | ⟨-, h⟩
  · obtain ⟨leaf, hleaf, hfault⟩ := List.exists_of_findSome?_eq_some h
    obtain ⟨type, htype, hfault⟩ := Option.bind_eq_some_iff.1 hfault
    exact ⟨leaf.key, type, SampleRules.eq_noSample_of_fault? _ hfault,
      .inl ⟨leaf, hleaf, rfl, htype, hlacks hfault⟩⟩
  · obtain ⟨output, houtput, hfault⟩ := List.exists_of_findSome?_eq_some h
    exact ⟨output.key, output.type, SampleRules.eq_noSample_of_fault? _ hfault,
      .inr ⟨output, houtput, rfl, rfl, hlacks hfault⟩⟩

/-! ## Outcomes -/

/-- A root field is chosen if it is there and can be searched by. -/
theorem rootFor_eq_ok_iff_isRootField (kind : ActionKind) (operation : String) (root : FieldDef) :
    context.rootFor kind operation = .ok root ↔
      context.IsRootField kind operation root ∧ IsSearchable kind root := by
  rw [rootFor_eq_ok_iff, operation?_eq_some_iff]
  rfl

/-- Nothing is wrong with a root field that has all that generation asks for. -/
theorem generationFault?_eq_none_iff (operation : String) (root : FieldDef) :
    context.generationFault? operation root = none ↔
      context.IsResolvable operation root ∧ context.IsIdentified root.type ∧
        context.IsSampled operation root := by
  rw [generationFault?_eq, Option.or_eq_none_iff, Option.or_eq_none_iff, typesFault?_eq_none_iff]
  constructor
  · rintro ⟨htypes, hid, hsamples⟩
    have hid' := (context.idFault?_eq_none_iff htypes).1 hid
    exact ⟨htypes, hid', (context.samplesFault?_eq_none_iff htypes hid').1 hsamples⟩
  · rintro ⟨htypes, hid, hsamples⟩
    exact ⟨htypes, (context.idFault?_eq_none_iff htypes).2 hid,
      (context.samplesFault?_eq_none_iff htypes hid).2 hsamples⟩

/-- Generation succeeds for the operations that it accepts. -/
theorem exists_generate_eq_ok_iff (kind : ActionKind) (operation : String) :
    (∃ action, context.generate kind operation = .ok action) ↔
      ∃ root, context.Accepts kind operation root := by
  simp only [generate_eq_ok_iff, rootFor_eq_ok_iff_isRootField, generationFault?_eq_none_iff]
  constructor
  · rintro ⟨action, root, ⟨hroot, hsearch⟩, ⟨htypes, hid, hsamples⟩, -⟩
    exact ⟨root, hroot, hsearch, htypes, hid, hsamples⟩
  · rintro ⟨root, hroot, hsearch, htypes, hid, hsamples⟩
    exact ⟨_, root, ⟨hroot, hsearch⟩, ⟨htypes, hid, hsamples⟩, rfl⟩

/-- A root field that cannot be had is not there, or is one for a search without arguments. -/
theorem blames_of_rootFor {kind : ActionKind} {operation : String} {e : ActionError}
    (h : context.rootFor kind operation = .error e) : context.Blames kind operation e := by
  rw [rootFor, Schema.operation] at h
  cases hroot : context.schema.operation? kind.operationKind operation with
  | none =>
    rw [hroot] at h
    obtain rfl : .unknownOperation kind.operationKind operation = e := by
      simpa [bind, Except.bind] using h
    refine ⟨rfl, rfl, ?_⟩
    rintro ⟨root, hfound⟩
    rw [(context.operation?_eq_some_iff kind operation root).2 hfound] at hroot
    cases hroot
  | some root =>
    have hfound := (context.operation?_eq_some_iff kind operation root).1 hroot
    rw [hroot] at h
    by_cases hsearch : kind = .search ∧ root.arguments = []
    · obtain ⟨hkind, harguments⟩ := hsearch
      obtain rfl : .noArguments operation = e := by
        simpa [bind, Except.bind, hkind, harguments] using h
      exact ⟨rfl, root, hfound, fun hsearchable => hsearchable hkind harguments⟩
    · simp [bind, Except.bind, hsearch] at h

/-- The fault of a root field is the first of the things that it lacks. -/
theorem blames_of_generationFault? {kind : ActionKind} {operation : String} {root : FieldDef}
    {e : ActionError} (hroot : context.IsRootField kind operation root)
    (hsearch : IsSearchable kind root)
    (h : context.generationFault? operation root = some e) : context.Blames kind operation e := by
  rw [generationFault?_eq, Option.or_eq_some_iff] at h
  -- A later fault counts only when the earlier checks have found nothing.
  rcases h with h | ⟨htypes, h⟩
  · obtain ⟨⟨ref, user⟩, hfirst, hfault⟩ := context.isFirstUnusable_of_typesFault? h
    rcases context.eq_of_useFault? hfault with ⟨rfl, hkind⟩ | ⟨rfl, hkind⟩
    · exact ⟨root, ref, hroot, hsearch, hfirst, rfl, hkind⟩
    · exact ⟨root, ref, hroot, hsearch, hfirst, rfl, hkind⟩
  have hresolvable := (context.typesFault?_eq_none_iff operation root).1 htypes
  rcases Option.or_eq_some_iff.1 h with h | ⟨hid, h⟩
  · obtain ⟨source, hsource, rfl⟩ := context.eq_of_idFault? h
    refine ⟨root, hroot, hsearch, hresolvable, fun hidentified => ?_, rfl, hsource⟩
    rw [(context.idFault?_eq_none_iff hresolvable).2 hidentified] at h
    cases h
  · have hidentified := (context.idFault?_eq_none_iff hresolvable).1 hid
    obtain ⟨key, type, rfl, hlacks⟩ := context.exists_noSample_of_samplesFault? h
    exact ⟨root, _, _, hroot, hsearch, hresolvable, hidentified,
      context.platformFields_eq_ok hresolvable hidentified, hlacks⟩

/-- Generation succeeds exactly for operations that have all it asks for, and an error says what is the
first thing that is missing. -/
theorem generate_outcome (kind : ActionKind) (operation : String) :
    ((∃ action, context.generate kind operation = .ok action) ↔
        ∃ root, context.Accepts kind operation root) ∧
      ∀ e, context.generate kind operation = .error e → context.Blames kind operation e := by
  refine ⟨context.exists_generate_eq_ok_iff kind operation, fun e h => ?_⟩
  rw [generate_eq] at h
  cases hroot : context.rootFor kind operation with
  | error e' =>
    rw [hroot] at h
    cases h
    exact context.blames_of_rootFor hroot
  | ok root =>
    rw [hroot] at h
    obtain ⟨hfound, hsearch⟩ := (context.rootFor_eq_ok_iff_isRootField kind operation root).1 hroot
    exact context.blames_of_generationFault? hfound hsearch (checked_eq_error_iff.1 h)

end Context

end ActionForge
