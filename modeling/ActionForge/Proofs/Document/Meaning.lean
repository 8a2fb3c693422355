import ActionForge.Proofs.Document.Paths
import ActionForge.Proofs.Document.Reading

/-!
# What documents ask for

`prescribedArguments` and `prescribedSelections` say, from the schema alone, what the document of a root
field has to ask for: every argument that is a leaf or has members that are leaves, and the leaves of the
result. `parses_document` says that a generated document is parsed as exactly that field, with its
arguments in the order of the form for the document.
-/

namespace ActionForge

/-! ## What the schema prescribes -/

/-- The members of the type inside a reference that are scalars or enums, each as it is declared last. -/
def Schema.leafMembers (schema : Schema) (ref : TypeRef) : List Member :=
  (schema.memberTable ref).filterMap fun entry =>
    if schema.isLeaf entry.2.type then some entry.2 else none

namespace Context

variable (context : Context)

/-- The value for a leaf with a digit filled in. Single values of textual types without choices are
quoted. -/
def leafValue (digit : Char) (ref : TypeRef) : Query.Value :=
  if (context.choicesOf ref).isEmpty && (context.fieldType? ref).any FieldType.isTextual && !ref.hasList
  then .text [digit]
  else .integer [digit]

/-- What the document sends for an argument: a value for a leaf, an object of values for a type with
leaves, nothing for another type. -/
def prescribedArgument? (digit : Char) (argument : Member) : Option (String × Query.Value) :=
  if context.schema.isLeaf argument.type then
    some (argument.name, context.leafValue digit argument.type)
  else
    match context.schema.leafMembers argument.type with
    | [] => none
    | members =>
      some (argument.name, .object (arrange context.settings.sortFields Prod.fst
        (members.map fun member => (member.name, context.leafValue digit member.type))))

/-- What the document sends for arguments, in the order of the form. -/
def prescribedArguments (digit : Char) (arguments : List Member) : Query.Arguments :=
  arrange context.settings.sortFields Prod.fst
    (arguments.filterMap (context.prescribedArgument? digit))

/-- What the document selects from a result: nothing from a leaf, else its leaves, and the name of the
type where there are none. -/
def prescribedSelections (result : TypeRef) : List Query.Node :=
  if context.schema.isLeaf result then []
  else
    match arrange context.settings.sortFields id
        ((context.schema.leafMembers result).map Member.name) with
    | [] => [.leaf "__typename"]
    | names => names.map .leaf

end Context

/-- The names in a field for the document: its own, and those of its children. -/
def InputField.outline (field : InputField) : String × List String :=
  (field.schemaName, field.children.map fun child => child.schemaName)

/-- The names in an argument: its own, and those of the members of an object. -/
def Query.outline : String × Query.Value → String × List String
  | (name, .object members) => (name, members.map Prod.fst)
  | (name, _) => (name, [])

/-! ## Items as arguments -/

/-- The value for a slot. -/
def ValueSlot.asValue (digit : Char) (slot : ValueSlot) : Query.Value :=
  if slot.choices.isEmpty && slot.type.isTextual && !slot.list then .text [digit] else .integer [digit]

/-- The argument for a slot. -/
def ValueSlot.member (digit : Char) (slot : ValueSlot) : String × Query.Value :=
  (slot.name, slot.asValue digit)

namespace FormItem

/-- The argument for an item. -/
def member (digit : Char) : FormItem → String × Query.Value
  | .value slot => slot.member digit
  | .group name _ slots _ => (name, .object (slots.map (ValueSlot.member digit)))

/-- The argument for an item has the item's name. -/
@[simp]
theorem fst_member (digit : Char) (item : FormItem) : (item.member digit).1 = item.name := by
  cases item <;> rfl

/-- The field of an item and the argument for it have the same names in them. -/
theorem outline_field (digit : Char) (item : FormItem) :
    (item.field .document).outline = Query.outline (item.member digit) := by
  cases item with
  | value slot =>
    have hleaf : Query.outline (slot.member digit) = (slot.name, []) := by
      rw [ValueSlot.member, ValueSlot.asValue]
      split <;> rfl
    exact hleaf.symm
  | group name required slots filled =>
    simp only [InputField.outline, field, member, Query.outline, List.map_map]
    rfl

end FormItem

/-- The slots of an object become its members, wherever they are read from. -/
theorem argumentMembers_slots (digit : Char) (parents : List String) (name : String)
    (slots : List ValueSlot) :
    argumentMembers digit (slots.map fun slot => slot.argument parents (joinKey name slot.name)) =
      slots.map (ValueSlot.member digit) := by
  induction slots with
  | nil => rfl
  | cons slot rest ih => rw [List.map_cons, argumentMembers, ih]; rfl

/-- Whether a lone object is sent from the top level or not, its argument is the same. -/
theorem argumentMembers_items (digit : Char) (lone : Bool) (items : List FormItem) :
    argumentMembers digit (items.map (FormItem.argument lone)) =
      items.map (FormItem.member digit) := by
  induction items with
  | nil => rfl
  | cons item rest ih =>
    rw [List.map_cons, argumentMembers, ih, List.map_cons]
    cases item with
    | value slot => rfl
    | group name required slots filled =>
      rw [FormItem.argument, Argument.asValue, argumentMembers_slots]
      rfl

/-- No item nests objects more than once. -/
theorem argumentsDepth_items (lone : Bool) (items : List FormItem) :
    argumentsDepth (items.map (FormItem.argument lone)) ≤ 1 := by
  have hslots : ∀ (parents : List String) (name : String) (slots : List ValueSlot),
      argumentsDepth (slots.map fun slot => slot.argument parents (joinKey name slot.name)) = 0 := by
    intro parents name slots
    induction slots with
    | nil => rfl
    | cons slot rest ih =>
      rw [List.map_cons, argumentsDepth, ih]
      rfl
  induction items with
  | nil => exact Nat.zero_le 1
  | cons item rest ih =>
    rw [List.map_cons, argumentsDepth]
    cases item with
    | value slot => simpa [FormItem.argument, ValueSlot.argument, Argument.depth] using ih
    | group name required slots filled =>
      rw [FormItem.argument, Argument.depth, hslots]
      omega

namespace Context

variable (context : Context)

/-- The slot for the details of a usable type is there exactly for leaves, and has their value. -/
theorem member_ofDetails? (digit : Char) {ref : TypeRef} {user : String}
    (h : context.useFault? ref user = none) (name : String) (details : TypeDetails)
    (htype : details.fieldType = context.fieldType? ref) (hlist : details.isList = ref.hasList)
    (hchoices : details.choices = context.choicesOf ref) :
    (ValueSlot.ofDetails? name details).map (ValueSlot.member digit) =
      if context.schema.isLeaf ref then some (name, context.leafValue digit ref) else none := by
  -- A usable type is a leaf exactly where the platform has a type for it.
  rw [← context.isSome_fieldType? h, ValueSlot.ofDetails?, htype, Option.map_map]
  cases hfield : context.fieldType? ref with
  | none => rfl
  | some type =>
    simp only [Option.map_some, Option.isSome_some, if_true, Function.comp_apply, ValueSlot.member,
      ValueSlot.asValue, leafValue, hlist, hchoices, hfield, Option.any_some]

/-- The slots of a type are its leaves. -/
theorem member_declaredSlots (digit : Char) {ref : TypeRef}
    (h : (context.schema.membersOf ref).findSome? context.memberFault? = none) :
    (context.declaredSlots ref).map (ValueSlot.member digit) =
      (context.schema.leafMembers ref).map fun member =>
        (member.name, context.leafValue digit member.type) := by
  rw [declaredSlots, Schema.leafMembers, List.map_filterMap, List.map_filterMap]
  refine List.filterMap_congr fun entry hentry => ?_
  obtain ⟨hmember, hname⟩ := Schema.mem_membersOf_of_mem_memberTable hentry
  have husable := List.findSome?_eq_none_iff.1 h entry.2 hmember
  rw [context.member_ofDetails? digit husable entry.1 (context.memberDetails entry.2) rfl rfl rfl,
    ← hname]
  split <;> rfl

/-- The slots that an argument's item is made of are those of its type. -/
theorem filterMap_children (argument : Member) :
    ((context.argumentExpansion argument).children.filterMap fun child =>
        ValueSlot.ofDetails? child.1 child.2) = context.declaredSlots argument.type := by
  rw [declaredSlots, argumentExpansion, expansionOf, List.filterMap_map]
  rfl

/-- The item for an argument becomes the argument that the schema prescribes. -/
theorem member_ofExpansion? (digit : Char) {argument : Member}
    (h : context.argumentFault? argument = none) :
    ((FormItem.ofExpansion? argument.name (context.argumentExpansion argument)).map fun item =>
        (item.arranged context.settings.sortFields).member digit) =
      context.prescribedArgument? digit argument := by
  obtain ⟨htype, hmembers⟩ := Option.or_eq_none_iff.1 h
  have hslots := context.member_declaredSlots digit hmembers
  have hdetails := context.member_ofDetails? digit htype argument.name
    (context.argumentExpansion argument).details rfl rfl rfl
  unfold FormItem.ofExpansion? prescribedArgument?
  simp only [filterMap_children]
  split
  · -- The type has no members, so the argument is a leaf or is left out.
    rename_i hempty
    have hnil : context.schema.leafMembers argument.type = [] := by
      have htable : context.schema.memberTable argument.type = [] :=
        List.map_eq_nil_iff.1 (List.isEmpty_iff.1 hempty)
      rw [Schema.leafMembers, htable]
      rfl
    rw [hnil, Option.map_map]
    refine Eq.trans ?_ hdetails
    rfl
  · -- The type has members, so it is no leaf, and the slots are its leaves.
    rename_i hfilled
    have hleaf : ¬ context.schema.isLeaf argument.type := by
      intro hleaf
      refine hfilled ?_
      rw [argumentExpansion, expansionOf, Schema.memberTable, Schema.membersOf_of_isLeaf hleaf]
      rfl
    rw [if_neg hleaf]
    cases hleaves : context.schema.leafMembers argument.type with
    | nil =>
      have hnil : context.declaredSlots argument.type = [] := by simpa [hleaves] using hslots
      rw [dif_neg (by simp [hnil])]
      rfl
    | cons member members =>
      have hne : context.declaredSlots argument.type ≠ [] := by
        rintro hnil
        simp [hleaves, hnil] at hslots
      rw [dif_pos hne, Option.map_some, FormItem.arranged, FormItem.member,
        map_arrange context.settings.sortFields (ValueSlot.member digit) ValueSlot.name Prod.fst
          (fun _ => rfl), hslots, hleaves]

/-- The arguments of the form are those that the schema prescribes. -/
theorem member_formItems (digit : Char) {arguments : List Member}
    (h : context.argumentsFault? arguments = none) :
    (context.formItems arguments).map (FormItem.member digit) =
      context.prescribedArguments digit arguments := by
  have hitems : (arguments.filterMap fun argument =>
        FormItem.ofExpansion? argument.name (context.argumentExpansion argument)).map
          (fun item => (item.arranged context.settings.sortFields).member digit) =
      arguments.filterMap (context.prescribedArgument? digit) := by
    rw [List.map_filterMap]
    refine List.filterMap_congr fun argument hargument => ?_
    exact context.member_ofExpansion? digit (List.findSome?_eq_none_iff.1 h argument hargument)
  rw [formItems, prescribedArguments, ← hitems,
    map_arrange context.settings.sortFields (FormItem.member digit) FormItem.name Prod.fst
      (FormItem.fst_member digit), List.map_map]
  rfl

/-- The selection of an operation is the one that the schema prescribes. -/
theorem nodes_selectionOf {result : TypeRef} {operation : String}
    (h : context.expandFault? result (some operation) = none) :
    (context.selectionOf result).nodes = context.prescribedSelections result := by
  obtain ⟨htype, hmembers⟩ := Option.or_eq_none_iff.1 h
  have hslots := congrArg (List.map Prod.fst) (context.member_declaredSlots '0' hmembers)
  rw [List.map_map, List.map_map] at hslots
  -- Arranging slots arranges their names, as sorting looks at nothing else.
  have hnames : ((context.resultSlots result .document).map (ValueSlot.output .document)).map
        OutputField.selectedName =
      arrange context.settings.sortFields id
        ((context.schema.leafMembers result).map Member.name) := by
    rw [List.map_map, resultSlots, slotsFor]
    refine (map_arrange context.settings.sortFields ValueSlot.name ValueSlot.name id (fun _ => rfl)
      (context.declaredSlots result)).trans ?_
    exact congrArg (arrange context.settings.sortFields id) hslots
  have hshape : (context.detailsOf result none).shape =
      if context.schema.isLeaf result then .scalar else if result.hasList then .list else .object := by
    rw [← context.isSome_fieldType? htype]
    rfl
  rw [selectionOf, hshape, prescribedSelections, ← hnames]
  by_cases hleaf : context.schema.isLeaf result
  · rw [if_pos hleaf, if_pos hleaf]
    rfl
  · rw [if_neg hleaf, if_neg hleaf, Selection.ofFields]
    -- Only an empty selection needs a name that every type has.
    have hfields : ∀ names : List String, (Selection.fields names).nodes =
        match names with
        | [] => [.leaf "__typename"]
        | names => names.map .leaf := by
      intro names
      cases names <;> rfl
    cases result.hasList <;> exact hfields _

/-- A generated document, with its first line dropped and its placeholders filled in, is parsed as the one
field that the schema prescribes, and its arguments stand in the order of the form for the document. -/
theorem parses_document {context : Context} (hnames : context.schema.WellNamed) {kind : ActionKind}
    {operation : String} {action : Action} (h : context.generate kind operation = .ok action)
    {digit : Char} (hdigit : digit.isDigit) :
    ∃ root inputs, context.schema.operation? kind.operationKind operation = some root ∧
      context.inputFields root.arguments .document = .ok inputs ∧
      Query.Parses (String.ofList (Template.fill digit (afterFirstLine action.document)))
        ⟨.field none operation (context.prescribedArguments digit root.arguments), [],
          context.prescribedSelections root.type⟩ ∧
      (context.prescribedArguments digit root.arguments).map Query.outline =
        inputs.map InputField.outline := by
  obtain ⟨root, hfound, hfault, rfl⟩ := (context.generate_eq_ok_iff kind operation action).1 h
  have hroot := ((context.rootFor_eq_ok_iff kind operation root).1 hfound).1
  obtain ⟨-, hfields, -⟩ : context.useFault? root.type operation = none ∧
      context.fieldsFault? operation root = none ∧ context.samplesFault? root = none := by
    simpa [generationFault?] using hfault
  obtain ⟨harguments, hresult⟩ := Option.or_eq_none_iff.1 hfields
  have hinputs : context.inputFields root.arguments .document =
      .ok ((context.formItems root.arguments).map (FormItem.field .document)) := by
    rw [inputFields_eq, harguments, checked_none]
  have hmembers := context.member_formItems digit harguments
  refine ⟨root, _, hroot, hinputs, ?_, ?_⟩
  · -- Forms are shallow, so the parser's limit on nesting is never reached.
    have hdepth : argumentsDepth
        (context.operationOf kind.operationKind operation root).arguments < Sdl.nestingLimit := by
      rw [context.arguments_operationOf hnames hroot]
      exact Nat.lt_of_le_of_lt (argumentsDepth_items _ _) (by decide)
    have hnodes : (context.operationOf kind.operationKind operation root).selection.nodes =
        context.prescribedSelections root.type :=
      context.nodes_selectionOf (Option.or_eq_none_iff.1 hresult).1
    have hnode : (context.operationOf kind.operationKind operation root).node digit =
        ⟨.field none operation (context.prescribedArguments digit root.arguments), [],
          context.prescribedSelections root.type⟩ := by
      rw [Operation.node, context.arguments_operationOf hnames hroot, argumentMembers_items, hmembers,
        hnodes]
      rfl
    rw [actionOf, ← hnode]
    exact Operation.parses_body hdigit (context.wellNamed_operationOf hnames hroot) hdepth
  · rw [← hmembers, List.map_map, List.map_map]
    exact List.map_congr_left fun item _ => (item.outline_field digit).symm

/-- The search for books sends its filter, without the member that has nothing to fill in, and selects
the leaves of a book. -/
theorem parses_document_books : ∃ action inputs,
    library.generate .search "books" = .ok action ∧
      library.inputFields booksField.arguments .document = .ok inputs ∧
      Query.Parses (String.ofList (Template.fill '7' (afterFirstLine action.document)))
        ⟨.field none "books" [("filter", .object
          [("ids", .integer ['7']), ("title", .text ['7']), ("year", .integer ['7'])])], [],
          [.leaf "id", .leaf "title"]⟩ ∧
      [("filter", ["ids", "title", "year"])] = inputs.map InputField.outline := by
  have hok : (library.generate .search "books").isOk := by decide +kernel
  cases h : library.generate .search "books" with
  | error e =>
    rw [h] at hok
    cases hok
  | ok action =>
    have hdigit : '7'.isDigit := by decide
    obtain ⟨root, inputs, hroot, hinputs, hparses, houtline⟩ :=
      parses_document (by decide +kernel) h hdigit
    obtain rfl : booksField = root := Option.some.inj (operation?_books.symm.trans hroot)
    exact ⟨action, inputs, rfl, hinputs, hparses, houtline⟩

end Context

end ActionForge
