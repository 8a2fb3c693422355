import ActionForge.Proofs.Document.Meaning

/-!
# Forms read off declarations

What becomes of an argument depends on its declaration alone: `fieldOf` is the field for it, and `fills` says
whether it has one. An argument of a scalar or an enum is a leaf, another one a parent of the scalars and
enums among the members of its type. By `inputFields_eq_fieldOf` a form is the fields of the arguments that
have one, in the order of their names. No field of a form has anything below its children.
-/

namespace ActionForge

/-! ## Members that are shown -/

namespace Schema

/-- The member is what the type inside a reference has under its name: it is declared last under it, and it
is a scalar or an enum. -/
def Shows (schema : Schema) (ref : TypeRef) (member : Member) : Prop :=
  ∃ before after, schema.membersOf ref = before ++ member :: after ∧
    (∀ later ∈ after, later.name ≠ member.name) ∧ schema.isLeaf member.type

/-- There is something to fill in: a value of a scalar or enum, or a member that is one. -/
def Fillable (schema : Schema) (ref : TypeRef) : Prop :=
  schema.isLeaf ref ∨ ∃ member, schema.Shows ref member

/-- Whether there is something to fill in. -/
def fills (schema : Schema) (ref : TypeRef) : Bool :=
  schema.isLeaf ref || !(schema.leafMembers ref).isEmpty

/-- The leaves of a type are the members that it shows. -/
theorem mem_leafMembers_iff {schema : Schema} {ref : TypeRef} {member : Member} :
    member ∈ schema.leafMembers ref ↔ schema.Shows ref member := by
  rw [leafMembers, List.mem_filterMap]
  constructor
  · rintro ⟨⟨name, found⟩, hentry, hleaf⟩
    obtain ⟨hisLeaf, hfound⟩ := Option.ite_none_right_eq_some.1 hleaf
    cases hfound
    -- The member table keeps the last declaration of a name.
    obtain ⟨before, after, hmembers, rfl, hafter⟩ := mem_memberTable_iff.1 hentry
    exact ⟨before, after, hmembers, hafter, hisLeaf⟩
  · rintro ⟨before, after, hmembers, hafter, hleaf⟩
    exact ⟨(member.name, member), mem_memberTable_iff.2 ⟨before, after, hmembers, rfl, hafter⟩,
      if_pos hleaf⟩

/-- No two of them share a name, since a member is declared last only once. -/
theorem nodup_leafMembers (schema : Schema) (ref : TypeRef) :
    ((schema.leafMembers ref).map Member.name).Nodup := by
  have hkeys : (schema.memberTable ref).map (fun entry => entry.2.name) = (schema.memberTable ref).keys :=
    List.map_congr_left fun _ hentry => (mem_membersOf_of_mem_memberTable hentry).2
  have hdistinct : ((schema.memberTable ref).map fun entry => entry.2.name).Nodup :=
    hkeys ▸ Entries.distinct_ofList _
  refine hdistinct.sublist (map_filterMap_sublist (fun entry member h => ?_) (schema.memberTable ref))
  obtain ⟨-, hmember⟩ := Option.ite_none_right_eq_some.1 h
  cases hmember
  rfl

/-- Whether there is something to fill in is decided by looking for a leaf. -/
theorem fills_iff {schema : Schema} {ref : TypeRef} : schema.fills ref ↔ schema.Fillable ref := by
  simp only [fills, Fillable, ← mem_leafMembers_iff, Bool.or_eq_true, Bool.not_eq_true',
    List.isEmpty_eq_false_iff_exists_mem]

end Schema

/-! ## Fields for declarations -/

namespace Context

variable (context : Context)

/-- The field for a value of a scalar or an enum. -/
def leafField (target : Target) (parent : Option String) (member : Member) : InputField :=
  { key := target.key parent member.name
    field := target.schemaName member.name
    label := labelFor member.name
    type := context.fieldType? member.type
    required := member.type.hasNonNull
    list := member.type.hasList
    helpText := (context.memberDetails member).description
    choices := context.choicesOf member.type
    children := [] }

/-- The members of a type that are scalars or enums, in the order in which a form shows them. -/
def shownMembers (ref : TypeRef) : List Member :=
  arrange context.settings.sortFields Member.name (context.schema.leafMembers ref)

/-- The field for an object of values. -/
def parentField (target : Target) (argument : Member) : InputField :=
  { key := target.key none argument.name
    field := target.schemaName argument.name
    label := labelFor argument.name
    type := none
    required := argument.type.hasNonNull
    list := false
    helpText := none
    choices := []
    children := (context.shownMembers argument.type).map
      (context.leafField target (some argument.name)) }

/-- The field for an argument that has something to fill in. -/
def fieldOf (target : Target) (argument : Member) : InputField :=
  if context.schema.isLeaf argument.type then context.leafField target none argument
  else context.parentField target argument

/-- The arguments that have something to fill in, in the order of the form. -/
def shownArguments (arguments : List Member) : List Member :=
  arrange context.settings.sortFields Member.name
    (arguments.filter fun argument => context.schema.fills argument.type)

/-- The arguments that are shown are those with something to fill in. -/
@[simp]
theorem mem_shownArguments_iff {arguments : List Member} {argument : Member} :
    argument ∈ context.shownArguments arguments ↔
      argument ∈ arguments ∧ context.schema.Fillable argument.type := by
  rw [shownArguments, mem_arrange, List.mem_filter, Schema.fills_iff]

/-- The arguments that are not shown are those with nothing to fill in. -/
theorem exists_perm_shownArguments (arguments : List Member) :
    ∃ dropped, arguments.Perm (context.shownArguments arguments ++ dropped) ∧
      ∀ argument ∈ dropped, ¬ context.schema.Fillable argument.type := by
  refine ⟨arguments.filter fun argument => !context.schema.fills argument.type, ?_, ?_⟩
  · have hsplit := List.filter_append_perm (fun argument => context.schema.fills argument.type) arguments
    exact hsplit.symm.trans ((arrange_perm _ Member.name _).symm.append_right _)
  · intro argument hdropped hfillable
    have hnot := (List.mem_filter.1 hdropped).2
    rw [Schema.fills_iff.2 hfillable] at hnot
    cases hnot

/-! ## Items for declarations -/

/-- Only scalars and enums have a type of field. -/
theorem fieldType?_of_not_isLeaf {ref : TypeRef} (h : ¬ context.schema.isLeaf ref) :
    context.fieldType? ref = none := by
  unfold Schema.isLeaf at h
  unfold fieldType?
  cases hkind : context.schema.kind? ref with
  | none => rfl
  | some kind => cases kind <;> simp_all

/-- The item for an argument, by cases on its type. -/
theorem ofExpansion?_eq (argument : Member) :
    FormItem.ofExpansion? argument.name (context.argumentExpansion argument) =
      if context.schema.isLeaf argument.type then
        (ValueSlot.ofDetails? argument.name (context.memberDetails argument)).map .value
      else if filled : context.declaredSlots argument.type ≠ [] then
        some (.group argument.name argument.type.hasNonNull (context.declaredSlots argument.type) filled)
      else none := by
  unfold FormItem.ofExpansion?
  simp only [filterMap_children]
  by_cases hleaf : context.schema.isLeaf argument.type
  · -- A leaf has no members.
    have hempty : (context.argumentExpansion argument).children.isEmpty := by
      rw [argumentExpansion, expansionOf, Schema.memberTable, Schema.membersOf_of_isLeaf hleaf]
      rfl
    rw [if_pos hleaf, if_pos hempty]
    rfl
  · rw [if_neg hleaf]
    split
    · rename_i hempty
      have hslots : context.declaredSlots argument.type = [] := by
        rw [← filterMap_children, List.isEmpty_iff.1 hempty, List.filterMap_nil]
      have hvalue : ValueSlot.ofDetails? argument.name (context.argumentExpansion argument).details =
          none := by
        rw [ValueSlot.ofDetails?, Option.map_eq_none_iff]
        exact context.fieldType?_of_not_isLeaf hleaf
      rw [hvalue, dif_neg (not_not.2 hslots)]
      rfl
    · rfl

/-- A slot is written as the field for its declaration. -/
theorem input_ofDetails? {member : Member} (h : context.memberFault? member = none) (target : Target)
    (parent : Option String) :
    (ValueSlot.ofDetails? member.name (context.memberDetails member)).map
        (ValueSlot.input target parent) =
      if context.schema.isLeaf member.type then some (context.leafField target parent member) else none := by
  have htype : (context.memberDetails member).fieldType = context.fieldType? member.type := rfl
  rw [← context.isSome_fieldType? h, ValueSlot.ofDetails?, Option.map_map, htype]
  cases hfield : context.fieldType? member.type with
  | none => rfl
  | some type =>
    rw [Option.map_some, Option.isSome_some, if_pos rfl, leafField, hfield]
    rfl

/-- The slots of a type are written as the fields for its members that are shown. -/
theorem input_declaredSlots {ref : TypeRef}
    (h : (context.schema.membersOf ref).findSome? context.memberFault? = none) (target : Target)
    (parent : Option String) :
    (context.declaredSlots ref).map (ValueSlot.input target parent) =
      (context.schema.leafMembers ref).map (context.leafField target parent) := by
  rw [declaredSlots, Schema.leafMembers, List.map_filterMap, List.map_filterMap]
  refine List.filterMap_congr fun entry hentry => ?_
  obtain ⟨hmember, hname⟩ := Schema.mem_membersOf_of_mem_memberTable hentry
  rw [← hname, context.input_ofDetails? (List.findSome?_eq_none_iff.1 h entry.2 hmember)]
  split <;> rfl

/-- The item for an argument is written as the field for its declaration. -/
theorem field_ofExpansion? {argument : Member} (h : context.argumentFault? argument = none)
    (target : Target) :
    ((FormItem.ofExpansion? argument.name (context.argumentExpansion argument)).map fun item =>
        (item.arranged context.settings.sortFields).field target) =
      if context.schema.fills argument.type then some (context.fieldOf target argument) else none := by
  obtain ⟨htype, hmembers⟩ := Option.or_eq_none_iff.1 h
  have hslots := context.input_declaredSlots hmembers target (some argument.name)
  rw [ofExpansion?_eq, fieldOf, Schema.fills]
  by_cases hleaf : context.schema.isLeaf argument.type
  · have hvalue := context.input_ofDetails? htype target none
    rw [if_pos hleaf, if_pos hleaf, Option.map_map, hleaf, Bool.true_or, if_pos rfl]
    rw [if_pos hleaf] at hvalue
    exact hvalue
  · rw [if_neg hleaf, if_neg hleaf, Bool.eq_false_iff.2 hleaf, Bool.false_or]
    -- An object without leaves has no field; one with leaves has a child for each.
    cases hleaves : context.schema.leafMembers argument.type with
    | nil =>
      have hnil : context.declaredSlots argument.type = [] := by simpa [hleaves] using hslots
      rw [dif_neg (not_not.2 hnil)]
      rfl
    | cons member members =>
      have hne : context.declaredSlots argument.type ≠ [] := by
        rintro hnil
        simp [hleaves, hnil] at hslots
      have hchildren : (arrange context.settings.sortFields ValueSlot.name
            (context.declaredSlots argument.type)).map (ValueSlot.input target (some argument.name)) =
          (context.shownMembers argument.type).map (context.leafField target (some argument.name)) := by
        rw [← arrange_input, hslots, shownMembers,
          map_arrange context.settings.sortFields (context.leafField target (some argument.name))
            Member.name (fun child => localName (some argument.name) child.key)
            (fun shown => localName_key target (some argument.name) shown.name)]
      rw [dif_pos hne, Option.map_some, FormItem.arranged, FormItem.field, hchildren]
      rfl

/-! ## Forms -/

/-- At the top level the key of a field is the name of its argument, for both targets. -/
@[simp]
theorem key_fieldOf (target : Target) (argument : Member) :
    (context.fieldOf target argument).key = argument.name := by
  rw [fieldOf]
  split <;> cases target <;> rfl

/-- A form is the fields of the arguments that have something to fill in. -/
theorem inputFields_eq_fieldOf (arguments : List Member) (target : Target) :
    context.inputFields arguments target =
      checked (context.argumentsFault? arguments)
        ((context.shownArguments arguments).map (context.fieldOf target)) := by
  rw [inputFields_eq]
  cases hfault : context.argumentsFault? arguments with
  | some fault => rfl
  | none =>
    -- Without a fault every argument that is shown has its field, before any sorting.
    have hfields : ((arguments.filterMap fun argument =>
          FormItem.ofExpansion? argument.name (context.argumentExpansion argument)).map
            (FormItem.arranged context.settings.sortFields)).map (FormItem.field target) =
        (arguments.filter fun argument => context.schema.fills argument.type).map
          (context.fieldOf target) := by
      rw [List.map_map, List.map_filterMap, ← List.filterMap_eq_filter, List.map_filterMap]
      refine List.filterMap_congr fun argument hargument => ?_
      refine (context.field_ofExpansion?
        (List.findSome?_eq_none_iff.1 hfault argument hargument) target).trans ?_
      rw [Option.guard]
      split <;> rfl
    rw [checked_none, checked_none, formItems, shownArguments,
      map_arrange context.settings.sortFields (FormItem.field target) FormItem.name (fun field => field.key)
        (key_field target), hfields,
      map_arrange context.settings.sortFields (context.fieldOf target) Member.name (fun field => field.key)
        (context.key_fieldOf target)]

end Context

end ActionForge
