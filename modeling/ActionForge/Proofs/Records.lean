import ActionForge.Proofs.Document.Paths

/-!
# Records and their identifiers

Settings may name a member of a type that serves as the identifier of its records. The member is looked up
three times over: for the document, for the fields that the platform shows, and for the action. By
`generate_records` the three agree. The identifier is always read from a member that the document selects,
and the platform shows the selected fields in their order, with an identifier added exactly where the
settings ask for one and the fields have none.
-/

namespace ActionForge

/-- A selected field as the platform shows it, without its name in the schema. -/
def OutputField.shown (field : OutputField) : OutputField := { field with field := none }

/-- The fields that the platform shows for selected ones: the same fields, after an identifier or before it
when one is `added`. -/
def shownRecord (sort added : Bool) (selected : List OutputField) : List OutputField :=
  let own := selected.map OutputField.shown
  if added then if sort then addedId :: own else own ++ [addedId] else own

namespace Context

variable (context : Context)

/-! ## Slots of a result -/

/-- The slots of a result have distinct names, however often a member is declared. -/
theorem nodup_names_declaredSlots (result : TypeRef) :
    ((context.declaredSlots result).map ValueSlot.name).Nodup :=
  (Entries.distinct_ofList _).sublist <|
    map_filterMap_sublist (fun _ _ => ValueSlot.name_of_ofDetails?) (context.schema.memberTable result)

/-- A leaf has no members, so its values have no slots. -/
theorem declaredSlots_of_isLeaf {result : TypeRef} (h : context.schema.isLeaf result) :
    context.declaredSlots result = [] := by
  rw [declaredSlots, Schema.memberTable, Schema.membersOf_of_isLeaf h]
  rfl

/-- A result that has slots is no scalar. -/
theorem shape_ne_scalar_of_mem_declaredSlots {result : TypeRef} {user : String}
    (huse : context.useFault? result user = none) {slot : ValueSlot}
    (hslot : slot ∈ context.declaredSlots result) : (context.detailsOf result none).shape ≠ .scalar := by
  have hleaf : ¬ context.schema.isLeaf result := by
    intro hleaf
    rw [context.declaredSlots_of_isLeaf hleaf] at hslot
    cases hslot
  have htype : (context.fieldType? result).isSome = false := by
    rw [context.isSome_fieldType? huse]
    simpa using hleaf
  rw [TypeDetails.shape, detailsOf, htype, if_neg Bool.false_ne_true]
  split <;> simp

/-- An identifier source that is not at fault is a slot of the result. -/
theorem exists_slot_of_idSource {result : TypeRef} {source : String}
    (hsource : context.idSource? result.innermost = some source) (h : context.idFault? result = none) :
    ∃ slot ∈ context.declaredSlots result, slot.name = source := by
  -- A source that is no slot would be at fault.
  by_contra hslots
  have hany : (context.declaredSlots result).any (·.name == source) = false := by
    simpa using hslots
  simp [idFault?, hsource, hany] at h

/-- An identifier is added where a source is named for it and no slot has its key. -/
theorem addsId_iff (result : TypeRef) :
    context.addsId result ↔ (context.idSource? result.innermost).isSome ∧
      ∀ slot ∈ context.declaredSlots result, slot.name ≠ idKey := by
  simp [addsId]

/-- An identifier that was added stands before the sorted slots, or after them when they are not sorted. -/
theorem resultSlots_platform (result : TypeRef) :
    context.resultSlots result .platform =
      if context.addsId result then
        if context.settings.sortFields then addedIdSlot :: context.resultSlots result .document
        else context.resultSlots result .document ++ [addedIdSlot]
      else context.resultSlots result .document := by
  simp only [resultSlots, slotsFor]
  by_cases hadds : context.addsId result
  · cases context.settings.sortFields with
    | false => simp [hadds, arrange]
    | true =>
      have hid : addedIdSlot.name = idKey := rfl
      simpa [hadds] using arrange_append_id hid ((context.addsId_iff result).1 hadds).2
  · simp [hadds]

/-- The platform shows the selected fields, completed with an identifier where that is called for. -/
theorem shownOutputs_eq_shownRecord (result : TypeRef) :
    context.shownOutputs result =
      shownRecord context.settings.sortFields (context.addsId result)
        ((context.resultSlots result .document).map (ValueSlot.output .document)) := by
  have hown : ((context.resultSlots result .document).map (ValueSlot.output .document)).map
      OutputField.shown = (context.resultSlots result .document).map (ValueSlot.output .platform) := by
    rw [List.map_map]
    rfl
  have hadded : addedIdSlot.output .platform = addedId := rfl
  simp only [shownOutputs, resultSlots_platform, shownRecord, hown]
  split
  · split
    · rw [List.map_cons, hadded]
    · rw [List.map_append, List.map_singleton, hadded]
  · rfl

/-- No two fields of a record have one key, whether an identifier was added or not. -/
theorem nodup_keys_shownOutputs (result : TypeRef) :
    ((context.shownOutputs result).map fun field => field.key).Nodup := by
  have hnames : ((context.slotsFor result .platform).map ValueSlot.name).Nodup := by
    rw [slotsFor]
    split
    · rename_i hadds
      have hid := ((context.addsId_iff result).1 hadds).2
      rw [List.map_append, List.nodup_append]
      refine ⟨context.nodup_names_declaredSlots result, List.nodup_singleton _, ?_⟩
      intro name hname other hother
      obtain ⟨slot, hslot, rfl⟩ := List.mem_map.1 hname
      obtain rfl : other = idKey := List.mem_singleton.1 hother
      exact hid slot hslot
    · rw [List.append_nil]
      exact context.nodup_names_declaredSlots result
  rw [shownOutputs, List.map_map]
  exact ((arrange_perm _ ValueSlot.name _).map _).nodup_iff.2 hnames

/-- Where an identifier source is named, some field has the key of the identifier. -/
theorem idKey_mem_keys_shownOutputs {result : TypeRef} (h : (context.idSource? result.innermost).isSome) :
    idKey ∈ (context.shownOutputs result).map fun field => field.key := by
  have hslot : ∃ slot ∈ context.slotsFor result .platform, slot.name = idKey := by
    simp only [slotsFor]
    by_cases hadds : context.addsId result
    · exact ⟨addedIdSlot, by simp [hadds], rfl⟩
    · have hdeclared : ∃ slot ∈ context.declaredSlots result, slot.name = idKey := by
        by_contra hnone
        exact hadds ((context.addsId_iff result).2 ⟨h, fun slot hslot hname => hnone ⟨slot, hslot, hname⟩⟩)
      obtain ⟨slot, hslot, hname⟩ := hdeclared
      exact ⟨slot, List.mem_append_left _ hslot, hname⟩
  obtain ⟨slot, hslot, hname⟩ := hslot
  exact List.mem_map.2 ⟨slot.output .platform, List.mem_map_of_mem (mem_arrange.2 hslot), hname⟩

/-- Sample records have the fields of the records, in their order. -/
theorem keys_outputSample (kind : ActionKind) (operation : String) (root : FieldDef) :
    (context.actionOf kind operation root).outputSample.keys =
      (context.shownOutputs root.type).map fun field => field.key := by
  have hkeys : ((context.shownOutputs root.type).map fun field =>
      (field.key, context.settings.samples.valueOf field.key field.type [])).map Prod.fst =
      (context.shownOutputs root.type).map fun field => field.key := by
    rw [List.map_map]
    rfl
  have hnodup := context.nodup_keys_shownOutputs root.type
  have hsample : (context.actionOf kind operation root).outputSample =
      (context.shownOutputs root.type).map fun field =>
        (field.key, context.settings.samples.valueOf field.key field.type []) :=
    Entries.ofList_of_nodup (hkeys ▸ hnodup)
  rw [hsample]
  exact hkeys

/-! ## Identifiers of generated actions -/

/-- The fields of a generated action are those that its document selects, with an identifier added where
settings name a source for one and no selected field has its key. Sample records have the same fields, each
once. The source of the identifier is a selected field, of a result that is no scalar. -/
theorem generate_records {kind : ActionKind} {operation : String} {action : Action}
    (h : context.generate kind operation = .ok action) :
    ∃ root sent selected,
      context.schema.operation? kind.operationKind operation = some root ∧
      context.inputFields root.arguments .document = .ok sent ∧
      context.outputFields root.type operation .document = .ok selected ∧
      action.outputs = shownRecord context.settings.sortFields
        (action.idSource.isSome && !selected.any fun field => field.key == idKey) selected ∧
      action.outputSample.keys = action.outputs.map (fun field => field.key) ∧
      (action.outputs.map fun field => field.key).Nodup ∧
      ∀ source, action.idSource = some source →
        (∃ field ∈ selected, field.key = source ∧ field.selectedName = source) ∧
        action.shape ≠ .scalar ∧
        action.document = (Operation.ofForm kind.operationKind operation sent (.ofFields selected)).text ∧
        (action.outputs.map fun field => field.key).count idKey = 1 := by
  obtain ⟨root, hfound, hfault, rfl⟩ := (context.generate_eq_ok_iff kind operation action).1 h
  obtain ⟨huse, hfields, -⟩ : context.useFault? root.type operation = none ∧
      context.fieldsFault? operation root = none ∧ context.samplesFault? root = none := by
    simpa [generationFault?] using hfault
  obtain ⟨harguments, hresult⟩ := Option.or_eq_none_iff.1 hfields
  have hid : context.idFault? root.type = none := (Option.or_eq_none_iff.1 hresult).2
  have hnodup := context.nodup_keys_shownOutputs root.type
  -- The selected fields have the key of the identifier when a slot of the result has its name.
  have hadds : ((context.actionOf kind operation root).idSource.isSome &&
      !((context.resultSlots root.type .document).map (ValueSlot.output .document)).any
        fun field => field.key == idKey) = context.addsId root.type := by
    rw [any_output_key, addsId, resultSlots, slotsFor,
      (arrange_perm context.settings.sortFields ValueSlot.name _).any_eq]
    rfl
  refine ⟨root, (context.formItems root.arguments).map (FormItem.field .document),
    (context.resultSlots root.type .document).map (ValueSlot.output .document),
    ((context.rootFor_eq_ok_iff kind operation root).1 hfound).1, ?_, ?_, ?_,
    context.keys_outputSample kind operation root, hnodup, ?_⟩
  · rw [inputFields_eq, harguments, checked_none]
  · rw [outputFields_eq, hresult, checked_none]
  · rw [hadds]
    exact context.shownOutputs_eq_shownRecord root.type
  · intro source hsource
    obtain ⟨slot, hslot, rfl⟩ := context.exists_slot_of_idSource hsource hid
    have hshape := context.shape_ne_scalar_of_mem_declaredSlots huse hslot
    refine ⟨⟨slot.output .document, List.mem_map_of_mem (mem_arrange.2 hslot), rfl, rfl⟩, hshape, ?_,
      List.count_eq_one_of_mem hnodup
        (context.idKey_mem_keys_shownOutputs (Option.isSome_iff_exists.2 ⟨slot.name, hsource⟩))⟩
    have hselection : context.selectionOf root.type =
        .ofFields ((context.resultSlots root.type .document).map (ValueSlot.output .document)) := by
      rw [selectionOf]
      cases hcase : (context.detailsOf root.type none).shape <;> simp_all
    rw [actionOf, operationOf, hselection]

/-- A library in which the member `id` of a book is an object. Settings name another member to identify books
by. -/
def catalogue : Context :=
  let author : NamedType := ⟨"Author", none, .object [⟨"name", none, .named "String", []⟩]⟩
  let book : NamedType :=
    ⟨"Book", none, .object [⟨"title", none, .named "String", []⟩, ⟨"id", none, .named "Author", []⟩,
      ⟨"isbn", none, .nonNull (.named "String"), []⟩]⟩
  let query : NamedType := ⟨"Query", none, .object [booksField]⟩
  let cursor : NamedType := ⟨"Cursor", none, .input []⟩
  let filter : NamedType := ⟨"Filter", none, .input [⟨"title", none, .named "String"⟩]⟩
  { schema :=
      { queryRoot := "Query"
        mutationRoot := none
        types := [author, book, cursor, filter, query].foldl TypeTable.insert TypeTable.builtin }
    settings := { Settings.default with idSources := [("Book", "isbn")] } }

/-- The object under `id` is not selected, so books get an identifier from their number. -/
theorem generate_records_catalogue : ∃ action selected,
    catalogue.generate .trigger "books" = .ok action ∧ action.idSource = some "isbn" ∧
      catalogue.outputFields booksField.type "books" .document = .ok selected ∧
      selected.map (fun field => field.key) = ["isbn", "title"] ∧
      action.outputs = addedId :: selected.map OutputField.shown ∧
      action.outputSample.keys = ["id", "isbn", "title"] ∧ action.shape ≠ .scalar := by
  have hok : (catalogue.generate .trigger "books").map Action.idSource = .ok (some "isbn") := by
    decide +kernel
  have hfound : catalogue.schema.operation? .query "books" = some booksField := by decide +kernel
  have hkeys : (catalogue.outputFields booksField.type "books" .document).map
      (fun selected => selected.map fun field => field.key) = .ok ["isbn", "title"] := by decide +kernel
  obtain ⟨action, hgenerate, hsource⟩ := exists_of_map_eq_ok hok
  obtain ⟨root, sent, selected, hroot, -, hselected, houtputs, hsample, -, hid⟩ :=
    generate_records catalogue hgenerate
  obtain rfl : booksField = root := Option.some.inj (hfound.symm.trans hroot)
  rw [hselected] at hkeys
  have hselectedKeys : selected.map (fun field => field.key) = ["isbn", "title"] := Except.ok.inj hkeys
  -- The selection has no `id`, so one is put before what is selected.
  have hadded : (action.idSource.isSome && !selected.any fun field => field.key == idKey) = true := by
    have hany : (selected.map fun field => field.key).any (· == idKey) = false := by
      rw [hselectedKeys]
      rfl
    rw [List.any_map] at hany
    simpa [hsource] using hany
  rw [hadded] at houtputs
  refine ⟨action, selected, hgenerate, hsource, hselected, hselectedKeys, houtputs, ?_,
    (hid "isbn" hsource).2.1⟩
  rw [hsample, houtputs]
  have hshown : (selected.map OutputField.shown).map (fun field => field.key) =
      selected.map fun field => field.key := by
    rw [List.map_map]
    rfl
  exact congrArg (idKey :: ·) (hshown.trans hselectedKeys)

end Context

end ActionForge
