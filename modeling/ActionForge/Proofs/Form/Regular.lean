import ActionForge.Proofs.Generation
import ActionForge.Proofs.Name

/-!
# Forms are regular

Members count once each, so the slots of an object have distinct names, and so do the items of a form for
distinct arguments. Hence the form that the platform shows is regular: no two siblings have one key, with
the children of a lone object in its place as well. In a well-named schema all items have names.
-/

namespace ActionForge

/-- What a traversal keeps stands in the order of the list. -/
theorem map_filterMap_sublist {α β γ : Type} {f : α → Option β} {g : α → γ} {g' : β → γ}
    (h : ∀ a b, f a = some b → g' b = g a) (items : List α) :
    ((items.filterMap f).map g').Sublist (items.map g) := by
  induction items with
  | nil => exact .slnil
  | cons a rest ih =>
    rw [List.filterMap_cons, List.map_cons]
    cases ha : f a with
    | none => exact ih.cons (g a)
    | some b =>
      rw [List.map_cons, h a b ha]
      exact ih.cons_cons (g a)

namespace FormItem

/-! ## Names of items -/

/-- The names of the slots of an object. -/
def slotNames : FormItem → List String
  | .value _ => []
  | .group _ _ slots _ => slots.map ValueSlot.name

/-- The item and its slots have names. -/
def WellNamed (item : FormItem) : Prop := isName item.name ∧ ∀ name ∈ item.slotNames, isName name

/-- Arranging an item keeps the names of its slots. -/
theorem slotNames_arranged (sort : Bool) (item : FormItem) :
    (item.arranged sort).slotNames.Perm item.slotNames := by
  cases item with
  | value slot => exact .refl _
  | group name required slots filled => exact (arrange_perm sort ValueSlot.name slots).map _

/-- The slots of an item have names of members, in the order of declaration. -/
theorem slotNames_ofExpansion? {name : String} {expansion : Expansion} {item : FormItem}
    (h : ofExpansion? name expansion = some item) :
    item.slotNames.Sublist expansion.children.keys := by
  simp only [ofExpansion?] at h
  split at h
  · obtain ⟨slot, -, rfl⟩ := Option.map_eq_some_iff.1 h
    exact List.nil_sublist _
  · split at h
    · obtain rfl := Option.some.inj h
      exact map_filterMap_sublist (fun _ _ => ValueSlot.name_of_ofDetails?) expansion.children
    · cases h

end FormItem

namespace Context

variable (context : Context)

/-- The members of an expanded argument are those of its type. -/
theorem keys_children_argumentExpansion (argument : Member) :
    (context.argumentExpansion argument).children.keys =
      (context.schema.memberTable argument.type).keys :=
  (List.map_map ..).trans rfl

/-- Every item of a form stands for an argument, and its slots for members of the argument's type. -/
theorem exists_of_mem_formItems {arguments : List Member} {item : FormItem}
    (h : item ∈ context.formItems arguments) :
    ∃ argument ∈ arguments, item.name = argument.name ∧
      ∃ names, item.slotNames.Perm names ∧
        names.Sublist (context.schema.memberTable argument.type).keys := by
  obtain ⟨unsorted, hunsorted, rfl⟩ := List.mem_map.1 (mem_arrange.1 h)
  obtain ⟨argument, hargument, hitem⟩ := List.mem_filterMap.1 hunsorted
  have hnames := FormItem.slotNames_ofExpansion? hitem
  rw [keys_children_argumentExpansion] at hnames
  exact ⟨argument, hargument, (FormItem.name_arranged _ _).trans (FormItem.name_of_ofExpansion? hitem),
    unsorted.slotNames, FormItem.slotNames_arranged _ unsorted, hnames⟩

/-- The slots of an item have distinct names, whatever the schema declares twice. -/
theorem nodup_slotNames {arguments : List Member} {item : FormItem}
    (h : item ∈ context.formItems arguments) : item.slotNames.Nodup := by
  obtain ⟨argument, -, -, names, hperm, hnames⟩ := context.exists_of_mem_formItems h
  exact hperm.nodup_iff.2 (hnames.nodup (Entries.distinct_ofList _))

/-- Distinct arguments have items with distinct names. -/
theorem nodup_names_formItems {arguments : List Member} (h : (arguments.map Member.name).Nodup) :
    ((context.formItems arguments).map FormItem.name).Nodup := by
  have hperm := (arrange_perm context.settings.sortFields FormItem.name
    ((arguments.filterMap fun argument =>
      FormItem.ofExpansion? argument.name (context.argumentExpansion argument)).map
        (FormItem.arranged context.settings.sortFields))).map FormItem.name
  -- Neither arranging slots nor sorting items changes a name.
  have hnames : FormItem.name ∘ FormItem.arranged context.settings.sortFields = FormItem.name :=
    funext fun item => FormItem.name_arranged _ item
  rw [List.map_map, hnames] at hperm
  exact hperm.nodup_iff.2 <| h.sublist <|
    map_filterMap_sublist (fun _ _ => FormItem.name_of_ofExpansion?) arguments

/-- In a well-named schema the items of a form have names. -/
theorem wellNamed_formItems (hnames : context.schema.WellNamed) {arguments : List Member}
    (h : ∀ argument ∈ arguments, isName argument.name) {item : FormItem}
    (hitem : item ∈ context.formItems arguments) : item.WellNamed := by
  obtain ⟨argument, hargument, hname, names, hperm, hsub⟩ := context.exists_of_mem_formItems hitem
  refine ⟨hname ▸ h argument hargument, fun name hslot => ?_⟩
  obtain ⟨⟨key, member⟩, hentry, rfl⟩ := List.mem_map.1 (hsub.subset (hperm.mem_iff.1 hslot))
  obtain ⟨hmember, rfl⟩ := Schema.mem_membersOf_of_mem_memberTable hentry
  exact Schema.isName_of_mem_membersOf hnames hmember

end Context

/-! ## Regular forms -/

/-- Joining a name to a parent keeps names apart. -/
theorem joinKey_injective (parent : String) : Function.Injective (joinKey parent) := by
  intro name name' h
  exact (String.append_right_inj _).1 h

/-- Fields of slots are leaves with a type. -/
theorem regular_input (parent : Option String) (slots : List ValueSlot) :
    AllRegular (slots.map (ValueSlot.input .platform parent)) := by
  refine allRegular_iff.2 fun field hfield => ?_
  obtain ⟨slot, -, rfl⟩ := List.mem_map.1 hfield
  rfl

/-- The field of an item is regular when its slots have distinct names. -/
theorem FormItem.regular_field {item : FormItem} (h : item.slotNames.Nodup) :
    (item.field .platform).Regular := by
  cases item with
  | value slot => rfl
  | group name required slots filled =>
    have hkeys : (slots.map (ValueSlot.input .platform (some name))).map (fun field => field.key) =
        (slots.map ValueSlot.name).map (joinKey name) := by
      rw [List.map_map, List.map_map]
      rfl
    refine regular_of_children (by simpa using filled) ?_ (regular_input (some name) slots)
    rw [hkeys]
    exact h.map (joinKey_injective name)

/-- A form stays regular when the children of a lone wrapper take its place. -/
theorem regular_flatten {fields : List InputField} (h : AllRegular fields)
    (hkeys : (fields.map fun field => field.key).Nodup) :
    AllRegular (flatten fields) ∧ ((flatten fields).map fun field => field.key).Nodup := by
  -- Only a lone field with children gives way to them.
  match fields with
  | [] => exact ⟨h, hkeys⟩
  | [⟨spec, []⟩] => exact ⟨h, hkeys⟩
  | [⟨spec, child :: rest⟩] =>
    obtain ⟨⟨hchildren, hall⟩, -⟩ := h
    exact ⟨hall, hchildren⟩
  | _ :: _ :: _ => exact ⟨h, hkeys⟩

/-- The form that the platform shows for distinct arguments is regular. -/
theorem Context.regular_shownInputs (context : Context) {arguments : List Member}
    (h : (arguments.map Member.name).Nodup) :
    AllRegular (context.shownInputs arguments) ∧
      ((context.shownInputs arguments).map fun field => field.key).Nodup := by
  refine regular_flatten (allRegular_iff.2 fun field hfield => ?_) ?_
  · obtain ⟨item, hitem, rfl⟩ := List.mem_map.1 hfield
    exact FormItem.regular_field (context.nodup_slotNames hitem)
  · have hkeys : (fun field : InputField => field.key) ∘ FormItem.field .platform = FormItem.name :=
      funext fun item => key_field .platform item
    rw [List.map_map, hkeys]
    exact context.nodup_names_formItems h

end ActionForge
