import ActionForge.Proofs.Form.Declared

/-!
# What every form is like

Forms are read by the document, by the platform and by the samples, and none of these looks whether a field
is one that it can deal with. By `inputFields_represents` every field is: it is either a leaf, which has a
type, or a parent, which has nothing but leaves below it. There is one field for each argument with something
to fill in and none for any other, the samples pass over none of them, and lifting the children of a lone
parent leaves only leaves.
-/

namespace ActionForge

/-! ## Leaves and parents -/

/-- A field for a value: it has a type and nothing below it. -/
def InputField.IsLeaf (field : InputField) : Prop := field.type.isSome ∧ field.children = []

/-- A field for an object of values: it has leaves below it and nothing of its own to fill in. -/
structure InputField.IsParent (field : InputField) : Prop where
  type : field.type = none
  list : field.list = false
  helpText : field.helpText = none
  choices : field.choices = []
  filled : field.children ≠ []
  leaves : ∀ child ∈ field.children, child.IsLeaf

/-- A field below the one for an argument is the leaf that a member of the argument's type resolves to. -/
def Context.IsChildField (context : Context) (target : Target) (argument member : Member)
    (child : InputField) : Prop :=
  ∃ details, context.resolveMember member = .ok (member.name, details) ∧
    leafInput target (some argument.name) member.name details = some child

/-- A field is what a form has for an argument: a leaf for a scalar or an enum, and for another type a parent
of the leaves for exactly the members that the type shows. -/
structure Context.Represents (context : Context) (target : Target) (argument : Member)
    (field : InputField) : Prop where
  built : context.argumentField target argument = .ok (some field)
  leaf : context.schema.isLeaf argument.type → field.IsLeaf
  parent : ¬ context.schema.isLeaf argument.type → field.IsParent
  children : ∃ members, (members.map Member.name).Nodup ∧
    (∀ member, member ∈ members ↔ context.schema.Shows argument.type member) ∧
    List.Forall₂ (context.IsChildField target argument) members field.children

namespace Context

variable (context : Context)

/-- The field for a usable scalar or enum has a type. -/
theorem isLeaf_leafField {member : Member} (h : context.memberFault? member = none)
    (hleaf : context.schema.isLeaf member.type) (target : Target) (parent : Option String) :
    (context.leafField target parent member).IsLeaf :=
  ⟨(context.isSome_fieldType? h).trans hleaf, rfl⟩

/-- The members that a form shows are those that the type shows. -/
@[simp]
theorem mem_shownMembers_iff {ref : TypeRef} {member : Member} :
    member ∈ context.shownMembers ref ↔ context.schema.Shows ref member := by
  rw [shownMembers, mem_arrange, Schema.mem_leafMembers_iff]

/-- A shown member's field is the leaf that the member resolves to. -/
theorem isChildField_leafField {argument member : Member} (h : context.memberFault? member = none)
    (hleaf : context.schema.isLeaf member.type) (target : Target) :
    context.IsChildField target argument member
      (context.leafField target (some argument.name) member) := by
  refine ⟨context.memberDetails member, ?_, ?_⟩
  · rw [resolveMember_eq, h, checked_none]
  · rw [leafInput_eq, context.input_ofDetails? h, if_pos hleaf]

/-- A leaf has no members to show. -/
theorem shownMembers_of_isLeaf {ref : TypeRef} (h : context.schema.isLeaf ref) :
    context.shownMembers ref = [] := by
  rw [shownMembers, Schema.leafMembers, Schema.memberTable, Schema.membersOf_of_isLeaf h, arrange_eq_nil]
  rfl

/-- No two members that are shown share a name. -/
theorem nodup_shownMembers (ref : TypeRef) : ((context.shownMembers ref).map Member.name).Nodup :=
  ((arrange_perm _ Member.name _).map _).nodup_iff.2 (context.schema.nodup_leafMembers ref)

/-- What is no leaf and has something to fill in has members to show. -/
theorem shownMembers_ne_nil {ref : TypeRef} (h : context.schema.fills ref)
    (hleaf : ¬ context.schema.isLeaf ref) : context.shownMembers ref ≠ [] := by
  rw [Schema.fills, Bool.eq_false_iff.2 hleaf, Bool.false_or] at h
  rw [shownMembers, ne_eq, arrange_eq_nil]
  simpa using h

/-- Below the field for an argument stand the leaves for the members that its type shows. -/
theorem children_fieldOf (target : Target) (argument : Member) :
    (context.fieldOf target argument).children =
      (context.shownMembers argument.type).map (context.leafField target (some argument.name)) := by
  rw [fieldOf]
  split
  · rename_i hleaf
    rw [context.shownMembers_of_isLeaf hleaf]
    rfl
  · rfl

/-- The field for an argument is what the form has for it. -/
theorem represents_fieldOf {argument : Member} (h : context.argumentFault? argument = none)
    (hfills : context.schema.fills argument.type) (target : Target) :
    context.Represents target argument (context.fieldOf target argument) := by
  obtain ⟨hargument, hmembers⟩ := Option.or_eq_none_iff.1 h
  -- What is shown is declared, so the argument's check covers it.
  have hmember : ∀ member ∈ context.shownMembers argument.type,
      context.memberFault? member = none ∧ context.schema.isLeaf member.type := by
    intro member hshown
    obtain ⟨before, after, hdeclared, -, hleaf⟩ := context.mem_shownMembers_iff.1 hshown
    exact ⟨List.findSome?_eq_none_iff.1 hmembers member (by simp [hdeclared]), hleaf⟩
  refine ⟨?_, fun hleaf => ?_, fun hleaf => ?_, context.shownMembers argument.type, ?_, ?_, ?_⟩
  · rw [argumentField_eq, h, checked_none, inputFieldFor_eq, context.field_ofExpansion? h, if_pos hfills]
  · rw [fieldOf, if_pos hleaf]
    exact context.isLeaf_leafField hargument hleaf target none
  · have hfilled := context.shownMembers_ne_nil hfills hleaf
    have hchildren := context.children_fieldOf target argument
    rw [fieldOf, if_neg hleaf] at hchildren ⊢
    refine ⟨rfl, rfl, rfl, rfl, ?_, fun child hchild => ?_⟩
    · rw [hchildren]
      simpa using hfilled
    · rw [hchildren] at hchild
      obtain ⟨member, hshown, rfl⟩ := List.mem_map.1 hchild
      obtain ⟨hfault, hisLeaf⟩ := hmember member hshown
      exact context.isLeaf_leafField hfault hisLeaf target (some argument.name)
  · exact context.nodup_shownMembers argument.type
  · intro member
    exact context.mem_shownMembers_iff
  · rw [children_fieldOf, List.forall₂_map_right_iff, List.forall₂_same]
    intro member hshown
    obtain ⟨hfault, hisLeaf⟩ := hmember member hshown
    exact context.isChildField_leafField hfault hisLeaf target

end Context

/-! ## Samples -/

/-- The sample value of a field: of a leaf the one for its key and type, of a parent a record of the values
of its children. -/
inductive SampleRules.Gives (rules : SampleRules) : InputField → SampleValue → Prop
  | leaf {field : InputField} {type : FieldType} {value : SampleValue} (children : field.children = [])
      (typed : field.type = some type) (given : sampleValue rules field.key type field.choices = .ok value) :
      Gives rules field value
  | parent {field : InputField} {values : List SampleValue} (filled : field.children ≠ [])
      (given : List.Forall₂ (Gives rules) field.children values) :
      Gives rules field (.record ((field.children.map fun child => child.key).zip values))

namespace SampleRules

variable (rules : SampleRules)

/-- A record that is made for regular fields has each of them under its key. -/
theorem pairsOf_eq_zip {fields : List InputField} (h : AllRegular fields) :
    rules.pairsOf fields =
      (fields.map fun field => field.key).zip ((rules.pairsOf fields).map Prod.snd) := by
  rw [← rules.map_fst_pairsOf h, List.zip_map', List.map_id']

mutual

/-- A regular field whose leaves have samples is given a value. -/
theorem gives_fieldValue : ∀ {field : InputField}, field.Regular →
    field.leaves.findSome? rules.leafFault? = none →
    ∃ value, rules.fieldValue? field = some value ∧ rules.Gives field value
  | ⟨spec, []⟩, h, hfault => by
    obtain ⟨type, htype⟩ := Option.isSome_iff_exists.1 h
    have hsample : rules.fault? spec.key type spec.choices = none := by
      simpa [InputField.leaves, leafFault?, htype] using hfault
    refine ⟨rules.valueOf spec.key type spec.choices, ?_, .leaf rfl htype ?_⟩
    · rw [fieldValue?, htype, Option.map_some]
    · rw [sampleValue_eq, hsample, checked_none]
  | ⟨spec, child :: rest⟩, h, hfault => by
    have hall : AllRegular (child :: rest) := ⟨h.2.1, h.2.2⟩
    have hgiven := gives_pairsOf hall hfault
    -- Keys are distinct, so no child takes the place of another in the record.
    have hpairs : Entries.ofList (rules.pairsOf (child :: rest)) =
        ((child :: rest).map fun field => field.key).zip
          ((rules.pairsOf (child :: rest)).map Prod.snd) := by
      rw [rules.ofList_pairsOf hall h.1, ← rules.pairsOf_eq_zip hall]
    refine ⟨.record (Entries.ofList (rules.pairsOf (child :: rest))), ?_, ?_⟩
    · rw [fieldValue?, pairsOf]
    · rw [hpairs]
      exact .parent (List.cons_ne_nil child rest) hgiven

/-- Regular fields whose leaves have samples are given a value each. -/
theorem gives_pairsOf : ∀ {fields : List InputField}, AllRegular fields →
    (leavesOf fields).findSome? rules.leafFault? = none →
    List.Forall₂ rules.Gives fields ((rules.pairsOf fields).map Prod.snd)
  | [], _, _ => .nil
  -- The first field has a value, and the others have theirs by induction.
  | field :: rest, h, hfault => by
    rw [leavesOf, List.findSome?_append, Option.or_eq_none_iff] at hfault
    obtain ⟨value, hvalue, hgives⟩ := gives_fieldValue h.1 hfault.1
    rw [pairsOf, hvalue]
    exact .cons hgives (gives_pairsOf h.2 hfault.2)

end

/-- The samples for a form of regular fields fail, or have a value for every field. -/
theorem sampleInputs_regular {fields : List InputField} (h : AllRegular fields) :
    (∃ fault, sampleInputs rules fields = .error fault) ∨
      ∃ values, List.Forall₂ rules.Gives fields values ∧
        sampleInputs rules fields =
          .ok (Entries.ofList ((fields.map fun field => field.key).zip values)) := by
  rw [sampleInputs_eq]
  cases hfault : (leavesOf fields).findSome? rules.leafFault? with
  | some fault => exact .inl ⟨fault, rfl⟩
  | none =>
    refine .inr ⟨_, rules.gives_pairsOf h hfault, ?_⟩
    rw [checked_none, ← rules.pairsOf_eq_zip h]

end SampleRules

/-! ## Built forms -/

/-- A leaf is a regular field. -/
theorem InputField.IsLeaf.regular {field : InputField} (h : field.IsLeaf) : field.Regular := by
  obtain ⟨spec, children⟩ := field
  obtain ⟨htype, rfl⟩ : spec.type.isSome ∧ children = [] := h
  exact htype

namespace Context

variable {context : Context} {target : Target} {argument : Member} {field : InputField}

/-- A field below another has the key of its member below the argument. -/
theorem IsChildField.key_eq {member : Member} {child : InputField}
    (h : context.IsChildField target argument member child) :
    child.key = target.key (some argument.name) member.name := by
  obtain ⟨details, -, hchild⟩ := h
  obtain ⟨type, -, rfl⟩ := Option.map_eq_some_iff.1 hchild
  rfl

/-- Below one parent, different names have different keys. -/
theorem key_injective (target : Target) (parent : Option String) :
    Function.Injective (target.key parent) :=
  Function.LeftInverse.injective (localName_key target parent)

namespace Represents

/-- The children of a field have different keys. -/
theorem keys_children (h : context.Represents target argument field) :
    (field.children.map fun child => child.key).Nodup := by
  obtain ⟨members, hdistinct, -, hchildren⟩ := h.children
  have hkeys : field.children.map (fun child => child.key) =
      (members.map Member.name).map (target.key (some argument.name)) := by
    rw [List.map_map]
    refine List.forall₂_eq_eq_eq ▸ ?_
    rw [List.forall₂_map_left_iff, List.forall₂_map_right_iff]
    exact (hchildren.imp fun _ _ hchild => hchild.key_eq).flip
  rw [hkeys]
  exact hdistinct.map (key_injective target _)

/-- Fields that stand for arguments are regular, so that samples can be made for them. -/
theorem regular (h : context.Represents target argument field) : field.Regular := by
  by_cases hleaf : context.schema.isLeaf argument.type
  · exact (h.leaf hleaf).regular
  · have hparent := h.parent hleaf
    have hkeys := h.keys_children
    obtain ⟨spec, children⟩ := field
    exact regular_of_children hparent.filled hkeys
      (allRegular_iff.2 fun child hchild => (hparent.leaves child hchild).regular)

/-- What stands below a field is a leaf. -/
theorem isLeaf_of_mem (h : context.Represents target argument field) {child : InputField}
    (hchild : child ∈ field.children) : child.IsLeaf := by
  by_cases hleaf : context.schema.isLeaf argument.type
  · rw [(h.leaf hleaf).2] at hchild
    cases hchild
  · exact (h.parent hleaf).leaves child hchild

end Represents

end Context

/-! ## Lone wrappers -/

/-- Lifting the children of a lone wrapper leaves leaves, and a second time there is nothing to lift. -/
theorem flatten_of_leaves {fields : List InputField}
    (h : ∀ field ∈ fields, ∀ child ∈ field.children, child.IsLeaf) :
    flatten (flatten fields) = flatten fields ∧
      (flatten fields ≠ fields → ∀ field ∈ flatten fields, field.IsLeaf) := by
  match fields with
  | [] => exact ⟨rfl, fun hne => absurd rfl hne⟩
  | [⟨spec, []⟩] => exact ⟨rfl, fun hne => absurd rfl hne⟩
  | _ :: _ :: _ => exact ⟨rfl, fun hne => absurd rfl hne⟩
  | [⟨spec, child :: rest⟩] =>
    have hleaves : ∀ field ∈ child :: rest, field.IsLeaf := h _ List.mem_cons_self
    refine ⟨?_, fun _ => hleaves⟩
    -- The lifted form is a lone field only if that is a leaf.
    cases rest with
    | cons other others => rfl
    | nil =>
      obtain ⟨spec, children⟩ := child
      obtain ⟨-, rfl⟩ : spec.type.isSome ∧ children = [] := hleaves _ List.mem_cons_self
      rfl

namespace Context

/-! ## The invariant -/

/-- A form has one field for each argument with something to fill in, none for any other, and each is what
the type of the argument calls for. The samples give every field of the form a value or fail, with the
children of a lone wrapper in its place as well, and lifting these leaves only leaves. -/
theorem inputFields_represents {context : Context} {arguments : List Member} {target : Target}
    {fields : List InputField} (h : context.inputFields arguments target = .ok fields) :
    (∃ shown dropped, arguments.Perm (shown ++ dropped) ∧
        (∀ argument ∈ shown, context.schema.Fillable argument.type) ∧
        (∀ argument ∈ dropped, ¬ context.schema.Fillable argument.type) ∧
        List.Forall₂ (context.Represents target) shown fields) ∧
      (∀ rules : SampleRules, ∀ form ∈ [fields, flatten fields],
        (∃ fault, sampleInputs rules form = .error fault) ∨
          ∃ values, List.Forall₂ rules.Gives form values ∧
            sampleInputs rules form =
              .ok (Entries.ofList ((form.map fun field => field.key).zip values))) ∧
      flatten (flatten fields) = flatten fields ∧
      (flatten fields ≠ fields → ∀ field ∈ flatten fields, field.IsLeaf) := by
  rw [inputFields_eq_fieldOf] at h
  obtain ⟨hfault, rfl⟩ := checked_eq_ok_iff.1 h
  have hrepresents : ∀ argument ∈ context.shownArguments arguments,
      context.Represents target argument (context.fieldOf target argument) := by
    intro argument hshown
    obtain ⟨hargument, hfillable⟩ := context.mem_shownArguments_iff.1 hshown
    exact context.represents_fieldOf (List.findSome?_eq_none_iff.1 hfault argument hargument)
      (Schema.fills_iff.2 hfillable) target
  have hregular : AllRegular ((context.shownArguments arguments).map (context.fieldOf target)) := by
    refine allRegular_iff.2 fun field hfield => ?_
    obtain ⟨argument, hshown, rfl⟩ := List.mem_map.1 hfield
    exact (hrepresents argument hshown).regular
  -- Below the top there are only leaves, which is all that lifting needs.
  have hleaves : ∀ field ∈ (context.shownArguments arguments).map (context.fieldOf target),
      ∀ child ∈ field.children, child.IsLeaf := by
    intro field hfield child hchild
    obtain ⟨argument, hshown, rfl⟩ := List.mem_map.1 hfield
    exact (hrepresents argument hshown).isLeaf_of_mem hchild
  have hflat := flatten_of_leaves hleaves
  refine ⟨?_, fun rules form hform => ?_, hflat⟩
  · obtain ⟨dropped, hperm, hdropped⟩ := context.exists_perm_shownArguments arguments
    refine ⟨context.shownArguments arguments, dropped, hperm, fun argument hshown => ?_, hdropped, ?_⟩
    · exact (context.mem_shownArguments_iff.1 hshown).2
    · rw [List.forall₂_map_right_iff, List.forall₂_same]
      exact hrepresents
  · refine rules.sampleInputs_regular ?_
    rcases List.mem_pair.1 hform with rfl | rfl
    · exact hregular
    · by_cases hsame : flatten ((context.shownArguments arguments).map (context.fieldOf target)) =
          (context.shownArguments arguments).map (context.fieldOf target)
      · rw [hsame]
        exact hregular
      · exact allRegular_iff.2 fun field hfield => (hflat.2 hsame field hfield).regular

/-- The search for books shows one object, and with its children in its place only leaves are left. -/
theorem inputFields_represents_books : ∃ fields,
    library.inputFields booksField.arguments .platform = .ok fields ∧
      (fields.map fun field => field.key) = ["filter"] ∧
      ((flatten fields).map fun field => field.key) = ["filter__ids", "filter__title", "filter__year"] ∧
      ∀ field ∈ flatten fields, field.IsLeaf := by
  have hkeys : ((library.inputFields booksField.arguments .platform).map fun fields =>
        (fields.map fun field => field.key, (flatten fields).map fun field => field.key)).toOption =
      some (["filter"], ["filter__ids", "filter__title", "filter__year"]) := by
    decide +kernel
  cases h : library.inputFields booksField.arguments .platform with
  | error e =>
    rw [h] at hkeys
    cases hkeys
  | ok fields =>
    obtain ⟨hlone, hlifted⟩ := Prod.mk.inj (Option.some.inj (h ▸ hkeys))
    obtain ⟨-, -, -, hleaves⟩ := inputFields_represents h
    refine ⟨fields, rfl, hlone, hlifted, hleaves fun hsame => ?_⟩
    rw [hsame, hlone] at hlifted
    simp at hlifted

end Context

end ActionForge
