import ActionForge.Proofs.Form.Required

/-!
# What documents leave out

A service refuses a document without an argument or a member that must not be null. Documents do not look at
that: an argument is written where it has something to fill in, a member of an object where it is a leaf, and
a field is selected where it is a leaf, whatever arguments it has. By `demands_document` this is all there is
to it, so what a service insists on is left out exactly where it is nested too deep to be filled in, and what
it insists on for a field that is selected is never written.
-/

namespace ActionForge

/-! ## Declarations -/

namespace Schema

/-- The member is what the type inside a reference has under its name: it is declared last under it. -/
def Declares (schema : Schema) (ref : TypeRef) (member : Member) : Prop :=
  ∃ before after, schema.membersOf ref = before ++ member :: after ∧
    ∀ later ∈ after, later.name ≠ member.name

/-- The fields of the object or interface inside a reference. -/
def fieldsOf (schema : Schema) (ref : TypeRef) : List FieldDef :=
  match schema.kind? ref with
  | some (.object fields) | some (.interface fields) => fields
  | _ => []

/-- The field is what the object or interface inside a reference has under its name. -/
def DeclaresField (schema : Schema) (ref : TypeRef) (field : FieldDef) : Prop :=
  ∃ before after, schema.fieldsOf ref = before ++ field :: after ∧
    ∀ later ∈ after, later.name ≠ field.name

variable {schema : Schema} {ref : TypeRef}

/-- A form shows the declared members that are leaves. -/
theorem shows_iff {member : Member} :
    schema.Shows ref member ↔ schema.Declares ref member ∧ schema.isLeaf member.type := by
  constructor
  · rintro ⟨before, after, hmembers, hlast, hleaf⟩
    exact ⟨⟨before, after, hmembers, hlast⟩, hleaf⟩
  · rintro ⟨⟨before, after, hmembers, hlast⟩, hleaf⟩
    exact ⟨before, after, hmembers, hlast, hleaf⟩

/-- A type declares one member under a name. -/
theorem eq_of_declares {first second : Member} (hfirst : schema.Declares ref first)
    (hsecond : schema.Declares ref second) (hname : first.name = second.name) : first = second := by
  -- Both are the entry of the member table under their name, and a table has one.
  have hentry : ∀ {member : Member}, schema.Declares ref member →
      (schema.memberTable ref).get? member.name = some member := by
    rintro member ⟨before, after, hmembers, hlast⟩
    exact (Entries.get?_eq_some_iff (Entries.distinct_ofList _) _ _).2
      (mem_memberTable_iff.2 ⟨before, after, hmembers, rfl, hlast⟩)
  have hsame := hentry hfirst
  rw [hname, hentry hsecond] at hsame
  exact (Option.some.inj hsame).symm

/-- The members of an object or interface are its fields. -/
theorem membersOf_eq_fieldsOf (h : schema.fieldsOf ref ≠ []) :
    schema.membersOf ref = (schema.fieldsOf ref).map FieldDef.toMember := by
  unfold fieldsOf kind? at h ⊢
  unfold membersOf
  cases htype : schema.get? ref.innermost with
  | none => simp [htype] at h
  | some type =>
    rw [htype] at h
    cases hkind : type.kind <;> simp [hkind, NamedType.members?] at h ⊢

/-- A field that a type declares is a member that it declares. -/
theorem declares_toMember {field : FieldDef} (h : schema.DeclaresField ref field) :
    schema.Declares ref field.toMember := by
  obtain ⟨before, after, hfields, hlast⟩ := h
  have hne : schema.fieldsOf ref ≠ [] := by simp [hfields]
  refine ⟨before.map FieldDef.toMember, after.map FieldDef.toMember, ?_, fun later hlater => ?_⟩
  · rw [membersOf_eq_fieldsOf hne, hfields, List.map_append, List.map_cons]
  · obtain ⟨field', hfield', rfl⟩ := List.mem_map.1 hlater
    exact hlast field' hfield'

end Schema

/-! ## What is written and selected -/

/-- What a document writes for an argument, under its name: one value for a leaf, and for another type an
object that has each declared member once if it is a leaf, and no other. -/
structure Context.Writes (context : Context) (argument : Member) (entry : String × Query.Value) : Prop where
  name : entry.1 = argument.name
  fillable : context.schema.Fillable argument.type
  leaf : context.schema.isLeaf argument.type → ∀ values, entry.2 ≠ .object values
  nested : ¬ context.schema.isLeaf argument.type → ∃ values, entry.2 = .object values ∧
    (values.map Prod.fst).Nodup ∧
    (∀ name ∈ values.map Prod.fst, ∃ member, context.schema.Declares argument.type member ∧
      member.name = name) ∧
    ∀ member, context.schema.Declares argument.type member →
      (member.name ∈ values.map Prod.fst ↔ context.schema.isLeaf member.type)

/-- What a document selects from a result: nothing from a leaf, and from another type each declared member
once if it is a leaf, and no other. None is selected with arguments. -/
structure Context.Selects (context : Context) (result : TypeRef) (selections : List Query.Node) : Prop where
  leaf : context.schema.isLeaf result → selections = []
  nested : ¬ context.schema.isLeaf result → ∃ names : List String, names.Nodup ∧
    selections = (if names = [] then ["__typename"] else names).map .leaf ∧
    (∀ name ∈ names, ∃ member, context.schema.Declares result member ∧ member.name = name) ∧
    (∀ member, context.schema.Declares result member →
      (member.name ∈ names ↔ context.schema.isLeaf member.type)) ∧
    ∀ field, context.schema.DeclaresField result field →
      (field.name ∈ names ↔ context.schema.isLeaf field.type)

namespace Context

variable (context : Context)

/-- The value that a document has for a type. -/
def valueFor (digit : Char) (ref : TypeRef) : Query.Value :=
  if context.schema.isLeaf ref then context.leafValue digit ref
  else
    .object ((context.shownMembers ref).map fun member =>
      (member.name, context.leafValue digit member.type))

/-- An argument is written, with its value, where it has something to fill in. -/
theorem prescribedArgument?_eq (digit : Char) (argument : Member) :
    context.prescribedArgument? digit argument =
      if context.schema.fills argument.type then
        some (argument.name, context.valueFor digit argument.type)
      else none := by
  rw [prescribedArgument?, Schema.fills, valueFor]
  by_cases hleaf : context.schema.isLeaf argument.type
  · rw [if_pos hleaf, if_pos hleaf, hleaf, Bool.true_or, if_pos rfl]
  · -- No leaf is filled in for its members, so it is one that shows if there are any.
    rw [if_neg hleaf, if_neg hleaf, Bool.eq_false_iff.2 hleaf, Bool.false_or, shownMembers,
      map_arrange context.settings.sortFields
        (fun member : Member => (member.name, context.leafValue digit member.type)) Member.name Prod.fst
        (fun _ => rfl)]
    cases context.schema.leafMembers argument.type <;> rfl

/-- A document writes the arguments that have something to fill in, in the order of the form. -/
theorem prescribedArguments_eq (digit : Char) (arguments : List Member) :
    context.prescribedArguments digit arguments =
      (context.shownArguments arguments).map fun argument =>
        (argument.name, context.valueFor digit argument.type) := by
  have hwritten : arguments.filterMap (context.prescribedArgument? digit) =
      (arguments.filter fun argument => context.schema.fills argument.type).map fun argument =>
        (argument.name, context.valueFor digit argument.type) := by
    rw [← List.filterMap_eq_filter, List.map_filterMap]
    refine List.filterMap_congr fun argument _ => ?_
    rw [prescribedArgument?_eq, Option.guard]
    split <;> rfl
  rw [prescribedArguments, hwritten, shownArguments,
    map_arrange context.settings.sortFields
      (fun argument : Member => (argument.name, context.valueFor digit argument.type)) Member.name Prod.fst
      (fun _ => rfl)]

/-- A document selects the members that are shown, in their order. -/
theorem prescribedSelections_eq {result : TypeRef} (h : ¬ context.schema.isLeaf result) :
    context.prescribedSelections result =
      (if (context.shownMembers result).map Member.name = [] then ["__typename"]
        else (context.shownMembers result).map Member.name).map .leaf := by
  have hnames : arrange context.settings.sortFields id
        ((context.schema.leafMembers result).map Member.name) =
      (context.shownMembers result).map Member.name :=
    (map_arrange context.settings.sortFields Member.name Member.name id (fun _ => rfl) _).symm
  rw [prescribedSelections, if_neg h, hnames]
  cases (context.shownMembers result).map Member.name <;> rfl

/-! ## Demands -/

/-- Every name that is shown is that of a declared member. -/
theorem exists_declares_of_mem {ref : TypeRef} {name : String}
    (h : name ∈ (context.shownMembers ref).map Member.name) :
    ∃ member, context.schema.Declares ref member ∧ member.name = name := by
  obtain ⟨member, hmember, rfl⟩ := List.mem_map.1 h
  exact ⟨member, (Schema.shows_iff.1 (context.mem_shownMembers_iff.1 hmember)).1, rfl⟩

/-- A declared member is shown if it is a leaf. -/
theorem mem_names_shownMembers_iff {ref : TypeRef} {member : Member}
    (h : context.schema.Declares ref member) :
    member.name ∈ (context.shownMembers ref).map Member.name ↔ context.schema.isLeaf member.type := by
  constructor
  · intro hname
    obtain ⟨shown, hshown, hsame⟩ := List.mem_map.1 hname
    obtain ⟨hdeclares, hleaf⟩ := Schema.shows_iff.1 (context.mem_shownMembers_iff.1 hshown)
    rwa [← Schema.eq_of_declares hdeclares h hsame]
  · intro hleaf
    exact List.mem_map_of_mem (context.mem_shownMembers_iff.2 (Schema.shows_iff.2 ⟨h, hleaf⟩))

/-- The value for an argument with something to fill in is as `Writes` says. -/
theorem writes_valueFor (digit : Char) {argument : Member}
    (h : context.schema.Fillable argument.type) :
    context.Writes argument (argument.name, context.valueFor digit argument.type) := by
  refine ⟨rfl, h, fun hleaf values => ?_, fun hleaf => ?_⟩
  · rw [valueFor, if_pos hleaf, leafValue]
    split <;> exact Query.Value.noConfusion
  · have hnames : ((context.shownMembers argument.type).map fun member =>
          (member.name, context.leafValue digit member.type)).map Prod.fst =
        (context.shownMembers argument.type).map Member.name := List.map_map ..
    rw [valueFor, if_neg hleaf]
    refine ⟨_, rfl, ?_⟩
    rw [hnames]
    exact ⟨context.nodup_shownMembers _, fun name hname => context.exists_declares_of_mem hname,
      fun member hmember => context.mem_names_shownMembers_iff hmember⟩

/-- What is selected from a result is as `Selects` says. -/
theorem selects_prescribedSelections (result : TypeRef) :
    context.Selects result (context.prescribedSelections result) := by
  refine ⟨fun hleaf => ?_, fun hleaf => ?_⟩
  · rw [prescribedSelections, if_pos hleaf]
  · refine ⟨(context.shownMembers result).map Member.name, context.nodup_shownMembers result,
      context.prescribedSelections_eq hleaf, fun name hname => context.exists_declares_of_mem hname,
      fun member hmember => context.mem_names_shownMembers_iff hmember, fun field hfield => ?_⟩
    exact context.mem_names_shownMembers_iff (Schema.declares_toMember hfield)

variable {context}

/-- A generated document is parsed as the field that the schema prescribes. -/
theorem parses_prescribed (hnames : context.schema.WellNamed) {kind : ActionKind} {operation : String}
    {action : Action} (h : context.generate kind operation = .ok action) {digit : Char}
    (hdigit : digit.isDigit) :
    ∃ root, context.schema.operation? kind.operationKind operation = some root ∧
      Query.Parses (String.ofList (Template.fill digit (afterFirstLine action.document)))
        ⟨.field none operation (context.prescribedArguments digit root.arguments), [],
          context.prescribedSelections root.type⟩ := by
  obtain ⟨root, hfound, hfault, rfl⟩ := (context.generate_eq_ok_iff kind operation action).1 h
  have hroot := ((context.rootFor_eq_ok_iff kind operation root).1 hfound).1
  obtain ⟨-, hfields, -⟩ : context.useFault? root.type operation = none ∧
      context.fieldsFault? operation root = none ∧ context.samplesFault? root = none := by
    simpa [generationFault?] using hfault
  obtain ⟨harguments, hresult⟩ := Option.or_eq_none_iff.1 hfields
  have hdepth : argumentsDepth (context.operationOf kind.operationKind operation root).arguments <
      Sdl.nestingLimit := by
    rw [context.arguments_operationOf hnames hroot]
    exact Nat.lt_of_le_of_lt (argumentsDepth_items _ _) (by decide)
  -- What the document writes is what the schema prescribes, by its arguments and by its selection.
  have hnode : (context.operationOf kind.operationKind operation root).node digit =
      ⟨.field none operation (context.prescribedArguments digit root.arguments), [],
        context.prescribedSelections root.type⟩ := by
    rw [Operation.node, context.arguments_operationOf hnames hroot, argumentMembers_items,
      context.member_formItems digit harguments,
      ← context.nodes_selectionOf (Option.or_eq_none_iff.1 hresult).1]
    rfl
  refine ⟨root, hroot, ?_⟩
  rw [actionOf, ← hnode]
  exact Operation.parses_body hdigit (context.wellNamed_operationOf hnames hroot) hdepth

/-- A generated document writes exactly the arguments that have something to fill in, of an object exactly the
members that are leaves, and selects exactly the members of the result that are leaves, none with arguments.
What a service insists on is no exception: an argument that must not be null is left out if there is nothing
to fill in, a member that must not be null if it is no leaf. -/
theorem demands_document (hnames : context.schema.WellNamed) {kind : ActionKind} {operation : String}
    {action : Action} (h : context.generate kind operation = .ok action) {digit : Char}
    (hdigit : digit.isDigit) :
    ∃ root written selections, context.schema.operation? kind.operationKind operation = some root ∧
      Query.Parses (String.ofList (Template.fill digit (afterFirstLine action.document)))
        ⟨.field none operation written, [], selections⟩ ∧
      (∃ sent dropped, root.arguments.Perm (sent ++ dropped) ∧ List.Forall₂ context.Writes sent written ∧
        ∀ argument ∈ dropped, ¬ context.schema.Fillable argument.type) ∧
      (∀ argument ∈ root.arguments, argument.type.ForbidsNull →
        (argument.name ∈ written.map Prod.fst ↔
          ∃ same ∈ root.arguments, same.name = argument.name ∧ context.schema.Fillable same.type)) ∧
      context.Selects root.type selections := by
  obtain ⟨root, hroot, hparses⟩ := parses_prescribed hnames h hdigit
  rw [context.prescribedArguments_eq] at hparses
  refine ⟨root, _, _, hroot, hparses, ?_, fun argument _ _ => ?_,
    context.selects_prescribedSelections root.type⟩
  · obtain ⟨dropped, hperm, hdropped⟩ := context.exists_perm_shownArguments root.arguments
    refine ⟨context.shownArguments root.arguments, dropped, hperm, ?_, hdropped⟩
    rw [List.forall₂_map_right_iff, List.forall₂_same]
    intro argument hshown
    exact context.writes_valueFor digit (context.mem_shownArguments_iff.1 hshown).2
  · rw [List.map_map]
    constructor
    · -- A name that is written is one of an argument that is sent, though perhaps of another than this.
      intro hname
      obtain ⟨same, hshown, hsame⟩ := List.mem_map.1 hname
      obtain ⟨hargument, hfillable⟩ := context.mem_shownArguments_iff.1 hshown
      exact ⟨same, hargument, hsame, hfillable⟩
    · rintro ⟨same, hargument, hsame, hfillable⟩
      exact List.mem_map.2 ⟨same, context.mem_shownArguments_iff.2 ⟨hargument, hfillable⟩, hsame⟩

/-! ## A shop that insists -/

/-- The total of an order, which a shop gives in a currency only. -/
def totalField : FieldDef :=
  { name := "total"
    description := none
    type := .named "Float"
    arguments := [⟨"currency", none, .nonNull (.named "String")⟩] }

/-- The owner to search for, which is nested too deep for a form. -/
def ownerMember : Member := ⟨"owner", none, .nonNull (.named "Owner")⟩

/-- The filter of a search. -/
def filterArgument : Member := ⟨"filter", none, .nonNull (.named "Filter")⟩

/-- The page of a search, which is found by nothing but a cursor. -/
def pageArgument : Member := ⟨"page", none, .nonNull (.named "Page")⟩

/-- A search that must be told what to search for, and the page. -/
def ordersField : FieldDef :=
  { name := "orders"
    description := none
    type := .list (.named "Order")
    arguments := [filterArgument, pageArgument] }

/-- A shop whose orders are searched for by their owners. -/
def shop : Context :=
  let cursor : NamedType := ⟨"Cursor", none, .input [⟨"after", none, .nonNull (.named "ID")⟩]⟩
  let filter : NamedType :=
    ⟨"Filter", none, .input [⟨"text", none, .named "String"⟩, ownerMember]⟩
  let order : NamedType := ⟨"Order", none, .object [⟨"id", none, .nonNull (.named "ID"), []⟩, totalField]⟩
  let owner : NamedType := ⟨"Owner", none, .input [⟨"id", none, .nonNull (.named "ID")⟩]⟩
  let page : NamedType := ⟨"Page", none, .input [⟨"cursor", none, .nonNull (.named "Cursor")⟩]⟩
  let query : NamedType := ⟨"Query", none, .object [ordersField]⟩
  { schema :=
      { queryRoot := "Query"
        mutationRoot := none
        types := [cursor, filter, order, owner, page, query].foldl TypeTable.insert TypeTable.builtin }
    settings := Settings.default }

/-- The shop has the search for orders. -/
theorem operation?_orders : shop.schema.operation? .query "orders" = some ordersField := by
  decide +kernel

/-- The search for orders writes its filter but not the page, which must not be null either. -/
theorem demands_document_orders : ∃ action written selections,
    shop.generate .search "orders" = .ok action ∧
      Query.Parses (String.ofList (Template.fill '7' (afterFirstLine action.document)))
        ⟨.field none "orders" written, [], selections⟩ ∧
      "filter" ∈ written.map Prod.fst ∧ "page" ∉ written.map Prod.fst ∧
      shop.Selects ordersField.type selections := by
  have hok : (shop.generate .search "orders").isOk := by decide +kernel
  have hdigit : '7'.isDigit := by decide
  have hfilter : shop.schema.Fillable filterArgument.type := Schema.fills_iff.1 (by decide +kernel)
  have hpage : ¬ shop.schema.Fillable pageArgument.type := by
    rw [← Schema.fills_iff]
    decide +kernel
  cases h : shop.generate .search "orders" with
  | error e =>
    rw [h] at hok
    cases hok
  | ok action =>
    obtain ⟨root, written, selections, hroot, hparses, -, hdemands, hselects⟩ :=
      demands_document (by decide +kernel) h hdigit
    obtain rfl : ordersField = root := Option.some.inj (operation?_orders.symm.trans hroot)
    refine ⟨action, written, selections, rfl, hparses, ?_, fun hwritten => ?_, hselects⟩
    · exact (hdemands filterArgument (by decide) (by decide)).2 ⟨filterArgument, by decide, rfl, hfilter⟩
    · obtain ⟨same, hsame, hname, hfillable⟩ :=
        (hdemands pageArgument (by decide) (by decide)).1 hwritten
      -- The page is the only argument of its name, and there is nothing to fill in for it.
      have harguments : ∀ argument ∈ ordersField.arguments, argument.name = "page" →
          argument = pageArgument := by decide
      exact hpage (harguments same hsame hname ▸ hfillable)

/-- The document that searches for orders leaves out the page, and the owner inside the filter, and it selects
the total without its currency, though none of the three may be null. -/
theorem orders_document_omits : ∃ action, shop.generate .search "orders" = .ok action ∧
    Query.Parses (String.ofList (Template.fill '7' (afterFirstLine action.document)))
      ⟨.field none "orders" [("filter", .object [("text", .text ['7'])])], [],
        [.leaf "id", .leaf "total"]⟩ ∧
    (pageArgument ∈ ordersField.arguments ∧ pageArgument.type.ForbidsNull) ∧
    (shop.schema.Declares filterArgument.type ownerMember ∧ ownerMember.type.ForbidsNull) ∧
    shop.schema.DeclaresField ordersField.type totalField ∧
      ∃ argument ∈ totalField.arguments, argument.type.ForbidsNull := by
  have hok : (shop.generate .search "orders").isOk := by decide +kernel
  have hdigit : '7'.isDigit := by decide
  cases h : shop.generate .search "orders" with
  | error e =>
    rw [h] at hok
    cases hok
  | ok action =>
    obtain ⟨root, hroot, hparses⟩ := parses_prescribed (by decide +kernel) h hdigit
    obtain rfl : ordersField = root := Option.some.inj (operation?_orders.symm.trans hroot)
    refine ⟨action, rfl, hparses, ⟨by decide, by decide⟩, ⟨?_, by decide⟩, ?_, ?_⟩
    · exact ⟨[⟨"text", none, .named "String"⟩], [], by decide +kernel, by simp⟩
    · exact ⟨[⟨"id", none, .nonNull (.named "ID"), []⟩], [], by decide +kernel, by simp⟩
    · exact ⟨⟨"currency", none, .nonNull (.named "String")⟩, by decide, by decide⟩

end Context

end ActionForge
