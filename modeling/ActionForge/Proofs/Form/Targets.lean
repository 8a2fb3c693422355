import ActionForge.Proofs.Document.Paths

/-!
# Forms for the document and for the platform

The two forms of an operation are built and sorted apart from each other, under keys that join parent and
child differently. By `inputFields_targets` they are one tree all the same: either both are refused for the
same reason, or the fields at each place come from one argument, hold the same, and are matched by the key
under which the document reads what the platform sends. Names need to be free of points for that, and may
have any other characters.
-/

namespace ActionForge

/-- A field for the document holds what a field for the platform holds, and is sent under its key. -/
structure InputSpec.Mirrors (sent shown : InputSpec) : Prop where
  key : sent.platformKey = shown.key
  label : sent.label = shown.label
  type : sent.type = shown.type
  required : sent.required = shown.required
  list : sent.list = shown.list
  helpText : sent.helpText = shown.helpText
  choices : sent.choices = shown.choices

/-- Two fields hold the same, and so do their children, place by place. -/
inductive InputField.Mirrors : InputField → InputField → Prop
  | intro {sent shown : InputField} (spec : sent.toInputSpec.Mirrors shown.toInputSpec)
      (children : List.Forall₂ InputField.Mirrors sent.children shown.children) :
      InputField.Mirrors sent shown

/-- Two fields are what an argument comes to in the form for the document and in the form for the platform.
The first is called like the argument in the schema, and its children like the members they are built
from. -/
structure Context.BuildsBoth (context : Context) (argument : Member) (sent shown : InputField) : Prop where
  document : context.argumentField .document argument = .ok (some sent)
  platform : context.argumentField .platform argument = .ok (some shown)
  mirrors : sent.Mirrors shown
  name : sent.schemaName = argument.name
  members : ∀ child ∈ sent.children, ∃ member ∈ context.schema.membersOf argument.type, ∃ details,
    context.resolveMember member = .ok (member.name, details) ∧
      leafInput .document (some argument.name) member.name details = some child ∧
      child.schemaName = member.name

/-! ## Slots and items for both targets -/

/-- The two fields of a slot hold the same, and the platform's key is the name itself. -/
theorem ValueSlot.mirrors_input {slot : ValueSlot} (h : '.' ∉ slot.name.toList) :
    (slot.input .document none).Mirrors (slot.input .platform none) :=
  .intro ⟨platformKey_of_notMem h, rfl, rfl, rfl, rfl, rfl, rfl⟩ .nil

/-- Below a parent the two fields of a slot hold the same, under joined keys. -/
theorem ValueSlot.mirrors_child {slot : ValueSlot} {parent : String} (hparent : '.' ∉ parent.toList)
    (h : '.' ∉ slot.name.toList) :
    (slot.input .document (some parent)).Mirrors (slot.input .platform (some parent)) :=
  .intro ⟨platformKey_of_child hparent h rfl, rfl, rfl, rfl, rfl, rfl, rfl⟩ .nil

/-- The two fields of an item are one tree, when no name in it has a point. -/
theorem FormItem.mirrors_field {item : FormItem} (hname : '.' ∉ item.name.toList)
    (hslots : ∀ name ∈ item.slotNames, '.' ∉ name.toList) :
    (item.field .document).Mirrors (item.field .platform) := by
  cases item with
  | value slot => exact slot.mirrors_input hname
  | group name required slots filled =>
    refine .intro ⟨platformKey_of_notMem hname, rfl, rfl, rfl, rfl, rfl, rfl⟩ ?_
    rw [FormItem.field, FormItem.field, List.forall₂_map_left_iff, List.forall₂_map_right_iff,
      List.forall₂_same]
    exact fun slot hslot => slot.mirrors_child hname (hslots slot.name (List.mem_map_of_mem hslot))

/-- The document calls an item by its name in the schema. -/
@[simp]
theorem FormItem.schemaName_field (item : FormItem) : (item.field .document).schemaName = item.name := by
  cases item <;> rfl

namespace Context

variable (context : Context)

/-! ## Where items come from -/

/-- Every item of a form was made from an argument. -/
theorem exists_expansion_of_mem_formItems {arguments : List Member} {item : FormItem}
    (h : item ∈ context.formItems arguments) :
    ∃ argument ∈ arguments,
      (FormItem.ofExpansion? argument.name (context.argumentExpansion argument)).map
        (FormItem.arranged context.settings.sortFields) = some item := by
  obtain ⟨unsorted, hunsorted, rfl⟩ := List.mem_map.1 (mem_arrange.1 h)
  obtain ⟨argument, hargument, hitem⟩ := List.mem_filterMap.1 hunsorted
  exact ⟨argument, hargument, by rw [hitem, Option.map_some]⟩

/-- What an argument comes to is its item, written for the target. -/
theorem argumentField_of_expansion {argument : Member} {item : FormItem}
    (hfault : context.argumentFault? argument = none)
    (h : (FormItem.ofExpansion? argument.name (context.argumentExpansion argument)).map
      (FormItem.arranged context.settings.sortFields) = some item) (target : Target) :
    context.argumentField target argument = .ok (some (item.field target)) := by
  have hfield := congrArg (Option.map (FormItem.field target)) h
  rw [Option.map_map] at hfield
  rw [argumentField_eq, hfault, checked_none, inputFieldFor_eq]
  exact congrArg Except.ok hfield

/-- A slot of an object stands for a member, as the member is resolved. -/
theorem exists_member_of_mem_declaredSlots {ref : TypeRef} {slot : ValueSlot}
    (h : slot ∈ context.declaredSlots ref) :
    ∃ member ∈ context.schema.membersOf ref,
      ValueSlot.ofDetails? member.name (context.memberDetails member) = some slot := by
  obtain ⟨⟨name, member⟩, hentry, hslot⟩ := List.mem_filterMap.1 h
  obtain ⟨hmember, rfl⟩ := Schema.mem_membersOf_of_mem_memberTable hentry
  exact ⟨member, hmember, hslot⟩

/-- The slots of an item are slots of the argument's type. -/
theorem mem_declaredSlots_of_expansion {argument : Member} {name : String} {required : Bool}
    {slots : List ValueSlot} {filled : slots ≠ []}
    (h : (FormItem.ofExpansion? argument.name (context.argumentExpansion argument)).map
      (FormItem.arranged context.settings.sortFields) = some (.group name required slots filled))
    {slot : ValueSlot} (hslot : slot ∈ slots) : slot ∈ context.declaredSlots argument.type := by
  obtain ⟨unsorted, hunsorted, harranged⟩ := Option.map_eq_some_iff.1 h
  simp only [FormItem.ofExpansion?] at hunsorted
  split at hunsorted
  · obtain ⟨leaf, -, rfl⟩ := Option.map_eq_some_iff.1 hunsorted
    cases harranged
  · split at hunsorted
    · obtain rfl := Option.some.inj hunsorted
      cases harranged
      -- Only an object has slots, and arranging them drops none.
      rw [context.declaredSlots_eq argument.type (some argument.name)]
      exact mem_arrange.1 hslot
    · cases hunsorted

/-- Slots of an item have names of members of the argument's type. -/
theorem exists_member_of_mem_slotNames {argument : Member} {item : FormItem}
    (h : (FormItem.ofExpansion? argument.name (context.argumentExpansion argument)).map
      (FormItem.arranged context.settings.sortFields) = some item)
    {name : String} (hname : name ∈ item.slotNames) :
    ∃ member ∈ context.schema.membersOf argument.type, member.name = name := by
  cases item with
  | value slot => cases hname
  | group _ _ slots filled =>
    obtain ⟨slot, hslot, rfl⟩ := List.mem_map.1 hname
    obtain ⟨member, hmember, hdetails⟩ :=
      context.exists_member_of_mem_declaredSlots (context.mem_declaredSlots_of_expansion h hslot)
    exact ⟨member, hmember, (ValueSlot.name_of_ofDetails? hdetails).symm⟩

/-- An item of a form is what its argument comes to for both targets. -/
theorem buildsBoth_of_expansion {argument : Member} {item : FormItem}
    (hfault : context.argumentFault? argument = none) (hname : '.' ∉ argument.name.toList)
    (hmembers : ∀ member ∈ context.schema.membersOf argument.type, '.' ∉ member.name.toList)
    (h : (FormItem.ofExpansion? argument.name (context.argumentExpansion argument)).map
      (FormItem.arranged context.settings.sortFields) = some item) :
    context.BuildsBoth argument (item.field .document) (item.field .platform) := by
  have hitem : item.name = argument.name := by
    obtain ⟨unsorted, hunsorted, rfl⟩ := Option.map_eq_some_iff.1 h
    exact (FormItem.name_arranged _ _).trans (FormItem.name_of_ofExpansion? hunsorted)
  have hslots : ∀ name ∈ item.slotNames, '.' ∉ name.toList := by
    intro name hslot
    obtain ⟨member, hmember, rfl⟩ := context.exists_member_of_mem_slotNames h hslot
    exact hmembers member hmember
  refine ⟨context.argumentField_of_expansion hfault h .document,
    context.argumentField_of_expansion hfault h .platform, FormItem.mirrors_field (hitem ▸ hname) hslots,
    (FormItem.schemaName_field item).trans hitem, ?_⟩
  intro child hchild
  cases item with
  | value slot => cases hchild
  | group name required slots filled =>
    obtain ⟨slot, hslot, rfl⟩ := List.mem_map.1 hchild
    obtain ⟨member, hmember, hdetails⟩ :=
      context.exists_member_of_mem_declaredSlots (context.mem_declaredSlots_of_expansion h hslot)
    -- Expanding the argument resolved all members of its type, so this one has no fault.
    have hmemberFault : context.memberFault? member = none :=
      List.findSome?_eq_none_iff.1 (Option.or_eq_none_iff.1 hfault).2 member hmember
    obtain rfl : name = argument.name := hitem
    refine ⟨member, hmember, context.memberDetails member, ?_, ?_, ?_⟩
    · rw [resolveMember_eq, hmemberFault, checked_none]
    · rw [leafInput_eq, hdetails, Option.map_some]
    · exact ValueSlot.name_of_ofDetails? hdetails

/-! ## Both forms -/

/-- The form for the document and the form for the platform are refused for the same reason, or they are
one tree: the fields at each place are what one argument comes to for the two targets. -/
theorem inputFields_targets {arguments : List Member}
    (hnames : ∀ argument ∈ arguments, '.' ∉ argument.name.toList ∧
      ∀ member ∈ context.schema.membersOf argument.type, '.' ∉ member.name.toList) :
    (∃ fault, context.inputFields arguments .document = .error fault ∧
      context.inputFields arguments .platform = .error fault) ∨
    ∃ sent shown, context.inputFields arguments .document = .ok sent ∧
      context.inputFields arguments .platform = .ok shown ∧
      List.Forall₂ (fun field field' => ∃ argument ∈ arguments, context.BuildsBoth argument field field')
        sent shown ∧
      isLoneWrapper sent = isLoneWrapper shown := by
  rw [inputFields_eq, inputFields_eq]
  -- Faults do not depend on the target, and both forms are written from the same items.
  cases hfault : context.argumentsFault? arguments with
  | some fault => exact .inl ⟨fault, rfl, rfl⟩
  | none =>
    refine .inr ⟨_, _, rfl, rfl, ?_, by rw [isLoneWrapper_field, isLoneWrapper_field]⟩
    rw [List.forall₂_map_left_iff, List.forall₂_map_right_iff, List.forall₂_same]
    intro item hitem
    obtain ⟨argument, hargument, hexpansion⟩ := context.exists_expansion_of_mem_formItems hitem
    obtain ⟨hname, hmembers⟩ := hnames argument hargument
    exact ⟨argument, hargument, context.buildsBoth_of_expansion
      (List.findSome?_eq_none_iff.1 hfault argument hargument) hname hmembers hexpansion⟩

/-- The argument of the search for books is one field in both forms. Its members are told apart by points in
the one and by underscores in the other. -/
theorem inputFields_targets_books : ∃ sent shown,
    library.inputFields booksField.arguments .document = .ok sent ∧
      library.inputFields booksField.arguments .platform = .ok shown ∧
      List.Forall₂ (fun field field' =>
        ∃ argument ∈ booksField.arguments, library.BuildsBoth argument field field') sent shown ∧
      isLoneWrapper sent = isLoneWrapper shown ∧
      sent.flatMap (fun field => field.children.map fun child => child.key) =
        ["filter.ids", "filter.title", "filter.year"] := by
  have hkeys : (library.inputFields booksField.arguments .document).map
      (fun sent => sent.flatMap fun field => field.children.map fun child => child.key) =
      .ok ["filter.ids", "filter.title", "filter.year"] := by decide +kernel
  have hnames : ∀ argument ∈ booksField.arguments, '.' ∉ argument.name.toList ∧
      ∀ member ∈ library.schema.membersOf argument.type, '.' ∉ member.name.toList := by decide +kernel
  rcases library.inputFields_targets hnames with
    ⟨fault, hfault, -⟩ | ⟨sent, shown, hsent, hshown, hfields, hlone⟩
  · rw [hfault] at hkeys
    cases hkeys
  · rw [hsent] at hkeys
    exact ⟨sent, shown, hsent, hshown, hfields, hlone, Except.ok.inj hkeys⟩

end Context

end ActionForge
