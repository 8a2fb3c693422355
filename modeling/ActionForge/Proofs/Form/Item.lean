import ActionForge.Proofs.Form.Order
import ActionForge.Proofs.Resolution

/-!
# Forms without their keys

A form is the same tree for both targets: `FormItem` says what it holds, and `FormItem.field` writes it
for a target. The main statements are `inputFields_eq` and `outputFields_eq`: the fields of either target
are the items of `Context.formItems` and the slots of `Context.resultSlots`, written for that target.
What is said of items and slots therefore holds of the document and of the form alike.
-/

namespace ActionForge

/-! ## Slots and items -/

/-- A scalar or enum value under a name. -/
structure ValueSlot where
  name : String
  type : FieldType
  required : Bool
  list : Bool
  helpText : Option String
  choices : List String
  deriving DecidableEq, Repr

/-- An argument with something to fill in: a slot, or an object of slots. -/
inductive FormItem where
  | value (slot : ValueSlot)
  | group (name : String) (required : Bool) (slots : List ValueSlot) (filled : slots ≠ [])

/-- The slot for details, if they are those of a scalar or enum. -/
def ValueSlot.ofDetails? (name : String) (details : TypeDetails) : Option ValueSlot :=
  details.fieldType.map fun type =>
    { name, type, required := details.isRequired, list := details.isList,
      helpText := details.description, choices := details.choices }

/-- A slot has the name that it was made for. -/
theorem ValueSlot.name_of_ofDetails? {name : String} {details : TypeDetails} {slot : ValueSlot}
    (h : ValueSlot.ofDetails? name details = some slot) : slot.name = name := by
  obtain ⟨type, -, rfl⟩ := Option.map_eq_some_iff.1 h
  rfl

/-- There is a slot for details exactly if they have a type of field. -/
theorem ValueSlot.isSome_ofDetails? (name : String) (details : TypeDetails) :
    (ValueSlot.ofDetails? name details).isSome = details.fieldType.isSome :=
  Option.isSome_map

/-- The input field for a slot below a parent. -/
def ValueSlot.input (target : Target) (parent : Option String) (slot : ValueSlot) : InputField :=
  { key := target.key parent slot.name
    field := target.schemaName slot.name
    label := labelFor slot.name
    type := some slot.type
    required := slot.required
    list := slot.list
    helpText := slot.helpText
    choices := slot.choices
    children := [] }

/-- The output field for a slot. -/
def ValueSlot.output (target : Target) (slot : ValueSlot) : OutputField :=
  { key := slot.name
    field := target.schemaName slot.name
    label := labelFor slot.name
    type := slot.type
    required := slot.required
    helpText := slot.helpText }

namespace FormItem

/-- The name of the argument. -/
def name : FormItem → String
  | .value slot => slot.name
  | .group name _ _ _ => name

/-- The field for an item. -/
def field (target : Target) : FormItem → InputField
  | .value slot => slot.input target none
  | .group name required slots _ =>
    { key := target.key none name
      field := target.schemaName name
      label := labelFor name
      type := none
      required
      list := false
      helpText := none
      choices := []
      children := slots.map (ValueSlot.input target (some name)) }

/-- Puts the slots of an object in order. -/
def arranged (sort : Bool) : FormItem → FormItem
  | .value slot => .value slot
  | .group name required slots filled =>
    .group name required (arrange sort ValueSlot.name slots) (by simpa using filled)

/-- The item for an argument, or `none` when there is nothing to fill in. -/
def ofExpansion? (name : String) (expansion : Expansion) : Option FormItem :=
  if expansion.children.isEmpty then (ValueSlot.ofDetails? name expansion.details).map .value
  else
    let slots := expansion.children.filterMap fun child => ValueSlot.ofDetails? child.1 child.2
    if filled : slots ≠ [] then some (.group name expansion.details.isRequired slots filled) else none

/-- Arranging the slots of an item leaves its name. -/
@[simp]
theorem name_arranged (sort : Bool) (item : FormItem) : (item.arranged sort).name = item.name := by
  cases item <;> rfl

/-- An item has the name of its argument. -/
theorem name_of_ofExpansion? {name : String} {expansion : Expansion} {item : FormItem}
    (h : ofExpansion? name expansion = some item) : item.name = name := by
  simp only [ofExpansion?] at h
  split at h
  · obtain ⟨slot, hslot, rfl⟩ := Option.map_eq_some_iff.1 h
    exact ValueSlot.name_of_ofDetails? hslot
  · split at h
    · cases h
      rfl
    · cases h

end FormItem

/-! ## Writing items for a target -/

/-- An input field without children is a slot, written for its target. -/
theorem leafInput_eq (target : Target) (parent : Option String) (name : String)
    (details : TypeDetails) :
    leafInput target parent name details =
      (ValueSlot.ofDetails? name details).map (ValueSlot.input target parent) := by
  rw [leafInput, ValueSlot.ofDetails?, Option.map_map]
  rfl

/-- An output field is a slot, written for its target. -/
theorem outputFieldFor_eq (target : Target) (name : String) (details : TypeDetails) :
    outputFieldFor target name details =
      (ValueSlot.ofDetails? name details).map (ValueSlot.output target) := by
  rw [outputFieldFor, ValueSlot.ofDetails?, Option.map_map]
  rfl

/-- Slots are sorted by their names, whatever keys the target gives them. -/
theorem arrange_input (target : Target) (parent : Option String) (sort : Bool)
    (slots : List ValueSlot) :
    arrange sort (fun field => localName parent field.key)
        (slots.map (ValueSlot.input target parent)) =
      (arrange sort ValueSlot.name slots).map (ValueSlot.input target parent) :=
  (map_arrange sort (ValueSlot.input target parent) ValueSlot.name
    (fun field => localName parent field.key)
    (fun slot => localName_key target parent slot.name) slots).symm

/-- A slot has no children to sort. -/
@[simp]
theorem sortChildren_input (target : Target) (parent : Option String) (slot : ValueSlot) :
    (slot.input target parent).sortChildren = slot.input target parent := rfl

/-- Slots have no children to sort, however many there are. -/
@[simp]
theorem sortAllChildren_input (target : Target) (parent : Option String) (slots : List ValueSlot) :
    sortAllChildren (slots.map (ValueSlot.input target parent)) =
      slots.map (ValueSlot.input target parent) := by
  induction slots with
  | nil => rfl
  | cons slot rest ih => rw [List.map_cons, sortAllChildren, ih, sortChildren_input]

/-- Sorting the fields of slots is arranging the slots. -/
theorem sortInputGroup_input (target : Target) (parent : Option String) (sort : Bool)
    (slots : List ValueSlot) :
    sortInputGroup parent sort (slots.map (ValueSlot.input target parent)) =
      (arrange sort ValueSlot.name slots).map (ValueSlot.input target parent) := by
  rw [← arrange_input, sortInputGroup, sortAllChildren_input]
  rfl

/-- The field for an argument is its item, arranged and written for the target. -/
theorem inputFieldFor_eq (target : Target) (sort : Bool) (name : String) (expansion : Expansion) :
    inputFieldFor target sort name expansion =
      (FormItem.ofExpansion? name expansion).map fun item => (item.arranged sort).field target := by
  unfold inputFieldFor FormItem.ofExpansion?
  split
  · rw [leafInput_eq, Option.map_map]
    rfl
  · have hchildren : (expansion.children.filterMap fun child =>
        leafInput target (some name) child.1 child.2) =
        (expansion.children.filterMap fun child => ValueSlot.ofDetails? child.1 child.2).map
          (ValueSlot.input target (some name)) := by
      rw [List.map_filterMap]
      exact congrArg (expansion.children.filterMap ·)
        (funext fun child => leafInput_eq target (some name) child.1 child.2)
    simp only [hchildren]
    -- An object that has members, but no leaves among them, gives no field.
    by_cases hslots : (expansion.children.filterMap fun child =>
        ValueSlot.ofDetails? child.1 child.2) = []
    · simp [hslots]
    · have hkey : target.key none name = name := by cases target <;> rfl
      rw [dif_pos hslots, if_neg (by simpa using hslots), hkey, sortInputGroup_input]
      simp only [Option.map_some, FormItem.arranged, FormItem.field, parentInput]

/-- Sorting below a field that is sorted there already changes nothing. -/
theorem sortChildren_field (target : Target) (item : FormItem) :
    ((item.arranged true).field target).sortChildren = (item.arranged true).field target := by
  cases item with
  | value slot => rfl
  | group name required slots filled =>
    -- The slots were put in order by their names, and are sorted by what follows the parent.
    have hsorted : sortSiblings (fun field : InputField => field.key) (some name)
        (sortAllChildren
          ((arrange true ValueSlot.name slots).map (ValueSlot.input target (some name)))) =
        (arrange true ValueSlot.name slots).map (ValueSlot.input target (some name)) := by
      have h := sortInputGroup_input target (some name) true (arrange true ValueSlot.name slots)
      rwa [arrange_arrange] at h
    have hkey : target.key none name = name := by cases target <;> rfl
    simp only [FormItem.arranged, FormItem.field, InputField.sortChildren, hkey, hsorted]

/-- Sorting below the fields of a form that is sorted there already changes nothing. -/
theorem sortAllChildren_field (target : Target) (items : List FormItem) :
    sortAllChildren (items.map fun item => (item.arranged true).field target) =
      items.map fun item => (item.arranged true).field target := by
  induction items with
  | nil => rfl
  | cons item rest ih => rw [List.map_cons, sortAllChildren, ih, sortChildren_field]

/-- At the top level the key of a field is the name of its item. -/
@[simp]
theorem key_field (target : Target) (item : FormItem) : (item.field target).key = item.name := by
  cases item <;> cases target <;> rfl

/-- Sorting a form is arranging its items, as their slots are in order already. -/
theorem sortInputs_field (target : Target) (sort : Bool) (items : List FormItem) :
    sortInputs sort (items.map fun item => (item.arranged sort).field target) =
      (arrange sort FormItem.name (items.map (FormItem.arranged sort))).map
        (FormItem.field target) := by
  rw [map_arrange sort (FormItem.field target) FormItem.name (fun field => field.key)
    (fun item => key_field target item), List.map_map]
  cases sort with
  | false => rfl
  | true =>
    rw [sortInputs, sortInputGroup, if_pos rfl, sortAllChildren_field]
    rfl

/-! ## Forms -/

namespace Context

variable (context : Context)

/-- The items for arguments, in the order of the form. -/
def formItems (arguments : List Member) : List FormItem :=
  arrange context.settings.sortFields FormItem.name
    ((arguments.filterMap fun argument =>
      FormItem.ofExpansion? argument.name (context.argumentExpansion argument)).map
        (FormItem.arranged context.settings.sortFields))

/-- What is wrong with the first argument that is at fault. -/
def argumentsFault? (arguments : List Member) : Option ActionError :=
  arguments.findSome? context.argumentFault?

/-- The field for an argument is its item, checked for the faults in reach of the argument. -/
theorem argumentField_eq (target : Target) (argument : Member) :
    context.argumentField target argument =
      checked (context.argumentFault? argument)
        (inputFieldFor target context.settings.sortFields argument.name
          (context.argumentExpansion argument)) := by
  rw [argumentField, expandArgument_eq]
  exact checked_bind_pure _ _ _

/-- The form for either target is the items, written for it. -/
theorem inputFields_eq (arguments : List Member) (target : Target) :
    context.inputFields arguments target =
      checked (context.argumentsFault? arguments)
        ((context.formItems arguments).map (FormItem.field target)) := by
  -- Arguments with nothing to fill in are left out before the form is sorted.
  have hfields : (arguments.map fun argument => inputFieldFor target context.settings.sortFields
        argument.name (context.argumentExpansion argument)).filterMap id =
      (arguments.filterMap fun argument =>
        FormItem.ofExpansion? argument.name (context.argumentExpansion argument)).map
          fun item => (item.arranged context.settings.sortFields).field target := by
    rw [List.filterMap_map, List.map_filterMap]
    exact congrArg (arguments.filterMap ·) (funext fun argument => inputFieldFor_eq ..)
  rw [inputFields, mapM_checked (context.argumentField_eq target), argumentsFault?, formItems,
    ← sortInputs_field, ← hfields]
  exact checked_bind_pure _ _ _

/-! ## Records -/

/-- The slots of a result, in the order of declaration. -/
def declaredSlots (result : TypeRef) : List ValueSlot :=
  (context.schema.memberTable result).filterMap fun entry =>
    ValueSlot.ofDetails? entry.1 (context.memberDetails entry.2)

/-- The slots of a result are those of the members that it expands to. -/
theorem declaredSlots_eq (result : TypeRef) (fieldName : Option String) :
    context.declaredSlots result =
      (context.expansionOf result fieldName).children.filterMap fun child =>
        ValueSlot.ofDetails? child.1 child.2 := by
  rw [declaredSlots, expansionOf, List.filterMap_map]
  rfl

/-- A name has a slot when its last declaration has a field type. -/
theorem exists_mem_declaredSlots_iff (result : TypeRef) (name : String) :
    (∃ slot ∈ context.declaredSlots result, slot.name = name) ↔
      ∃ member, (name, member) ∈ context.schema.memberTable result ∧
        (context.fieldType? member.type).isSome := by
  constructor
  · rintro ⟨slot, hslot, hname⟩
    obtain ⟨⟨key, member⟩, hentry, hdetails⟩ := List.mem_filterMap.1 hslot
    obtain rfl : key = name := (ValueSlot.name_of_ofDetails? hdetails).symm.trans hname
    have hsome := ValueSlot.isSome_ofDetails? key (context.memberDetails member)
    rw [hdetails] at hsome
    exact ⟨member, hentry, hsome.symm⟩
  · rintro ⟨member, hentry, htype⟩
    have hsome := ValueSlot.isSome_ofDetails? name (context.memberDetails member)
    obtain ⟨slot, hslot⟩ := Option.isSome_iff_exists.1 (hsome.trans htype)
    exact ⟨slot, List.mem_filterMap.2 ⟨(name, member), hentry, hslot⟩,
      ValueSlot.name_of_ofDetails? hslot⟩

/-- What is wrong with the identifier source of a type: it is no slot of its results. -/
def idFault? (result : TypeRef) : Option ActionError :=
  match context.idSource? result.innermost with
  | none => none
  | some source =>
    if (context.declaredSlots result).any (·.name == source) then none
    else some (.unknownIdSource result.innermost source)

/-- Whether records get an identifier of their own. -/
def addsId (result : TypeRef) : Bool :=
  (context.idSource? result.innermost).isSome &&
    !(context.declaredSlots result).any (·.name == idKey)

/-- The identifier that is added to records. -/
def addedIdSlot : ValueSlot :=
  { name := idKey, type := .string, required := false, list := false, helpText := none, choices := [] }

/-- The slots of a result that fields are written for: the platform gets the added identifier as well. -/
def slotsFor (result : TypeRef) : Target → List ValueSlot
  | .platform =>
    context.declaredSlots result ++ if context.addsId result then [addedIdSlot] else []
  | .document => context.declaredSlots result

/-- The slots of a result in the order of the fields. -/
def resultSlots (result : TypeRef) (target : Target) : List ValueSlot :=
  arrange context.settings.sortFields ValueSlot.name (context.slotsFor result target)

/-- What is wrong with the types in reach of a result and with its identifier source. -/
def resultFault? (result : TypeRef) (operation : String) : Option ActionError :=
  (context.expandFault? result (some operation)).or (context.idFault? result)

/-- Fields have the keys of their slots. -/
theorem any_output_key (target : Target) (slots : List ValueSlot) (name : String) :
    (slots.map (ValueSlot.output target)).any (·.key == name) = slots.any (·.name == name) := by
  rw [List.any_map]
  rfl

/-- Adding an identifier to the fields is adding its slot, checked for a source that is no slot. -/
theorem withId_eq (target : Target) (result : TypeRef) :
    context.withId target result.innermost
        ((context.declaredSlots result).map (ValueSlot.output target)) =
      checked (context.idFault? result)
        ((context.slotsFor result target).map (ValueSlot.output target)) := by
  rw [withId, idFault?]
  -- Only the platform gets an identifier, and only where no slot has its key already.
  cases target <;> cases hid : context.idSource? result.innermost with
  | none => simp [slotsFor, addsId, hid]
  | some source =>
    simp only [any_output_key, slotsFor, addsId, hid]
    cases hsource : (context.declaredSlots result).any (·.name == source) <;>
      cases hkey : (context.declaredSlots result).any (·.name == idKey) <;>
        simp [addedIdSlot, addedId, ValueSlot.output, Target.schemaName]

/-- The output fields for either target are the slots of the result, written for it. -/
theorem outputFields_eq (result : TypeRef) (operation : String) (target : Target) :
    context.outputFields result operation target =
      checked (context.resultFault? result operation)
        ((context.resultSlots result target).map (ValueSlot.output target)) := by
  have hfields : (context.expansionOf result (some operation)).children.filterMap
        (fun child => outputFieldFor target child.1 child.2) =
      (context.declaredSlots result).map (ValueSlot.output target) := by
    rw [expansionOf, List.filterMap_map, declaredSlots, List.map_filterMap]
    exact congrArg (List.filterMap · _) (funext fun entry => outputFieldFor_eq ..)
  have hname : (context.expansionOf result (some operation)).details.typeName = result.innermost := rfl
  have hsort : sortOutputs context.settings.sortFields
      ((context.slotsFor result target).map (ValueSlot.output target)) =
      (context.resultSlots result target).map (ValueSlot.output target) :=
    (map_arrange context.settings.sortFields (ValueSlot.output target) ValueSlot.name
      (fun field => field.key) (fun _ => rfl) (context.slotsFor result target)).symm
  rw [outputFields, expand_eq, resultFault?, ← hsort]
  refine checked_bind_eq ?_
  simp only [hfields, hname, withId_eq]
  exact checked_bind_pure _ _ _

end Context

end ActionForge
