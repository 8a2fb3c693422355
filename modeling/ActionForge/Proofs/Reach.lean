import ActionForge.Proofs.Document.Paths
import ActionForge.Proofs.Schema.Table

/-!
# What generation looks at

Generation looks up the types in reach of a root field and nothing else: the types inside its result and
its arguments, and the types inside the members of those. `generate_within_reach` says so of two contexts.
Where they have the same root field, agree on what the names in reach stand for, on the identifier source
of the result, on sorting and on samples, they generate the same action or refuse with the same error.
Types and field types that are added out of reach therefore play no part.
-/

namespace ActionForge

/-- Searches that find the same in every item find the same in the list. -/
theorem findSome?_congr {α β : Type} {f g : α → Option β} {items : List α}
    (h : ∀ item ∈ items, f item = g item) : items.findSome? f = items.findSome? g := by
  rw [← List.head?_filterMap, ← List.head?_filterMap, List.filterMap_congr h]

namespace Schema

/-- The names in reach of a reference: the type inside it, and the types inside its declared members. -/
def reachOf (schema : Schema) (ref : TypeRef) : List String :=
  ref.innermost :: (schema.membersOf ref).map fun member => member.type.innermost

/-- The names in reach of a root field: those in reach of its result and of its arguments. -/
def reach (schema : Schema) (root : FieldDef) : List String :=
  schema.reachOf root.type ++ root.arguments.flatMap fun argument => schema.reachOf argument.type

end Schema

namespace Context

/-- A name stands for the same type and for the same field type in both contexts. -/
structure SameUnder (context other : Context) (name : String) : Prop where
  type : context.schema.get? name = other.schema.get? name
  fieldType : context.settings.scalarTypes.get? name = other.settings.scalarTypes.get? name

instance (context other : Context) (name : String) : Decidable (context.SameUnder other name) :=
  decidable_of_iff (context.schema.get? name = other.schema.get? name ∧
      context.settings.scalarTypes.get? name = other.settings.scalarTypes.get? name)
    ⟨fun h => ⟨h.1, h.2⟩, fun h => ⟨h.type, h.fieldType⟩⟩

/-- Every name in reach of a reference stands for the same in both contexts. -/
def SameWithin (context other : Context) (ref : TypeRef) : Prop :=
  ∀ name ∈ context.schema.reachOf ref, context.SameUnder other name

/-- The contexts agree on all that generation looks at for an operation. -/
structure Agree (context other : Context) (kind : ActionKind) (operation : String) : Prop where
  root : context.schema.operation? kind.operationKind operation =
    other.schema.operation? kind.operationKind operation
  reach : ∀ root, context.schema.operation? kind.operationKind operation = some root →
    ∀ name ∈ context.schema.reach root, context.SameUnder other name
  idSource : ∀ root, context.schema.operation? kind.operationKind operation = some root →
    context.settings.idSources.get? root.type.innermost =
      other.settings.idSources.get? root.type.innermost
  sortFields : context.settings.sortFields = other.settings.sortFields
  samples : context.settings.samples = other.settings.samples

variable {context other : Context}

/-! ## One name -/

namespace SameUnder

variable {ref : TypeRef} (h : context.SameUnder other ref.innermost)

include h

/-- A type that is the same in both contexts is of the same kind. -/
theorem kind?_eq : context.schema.kind? ref = other.schema.kind? ref := by
  rw [Schema.kind?, Schema.kind?, h.type]

/-- A type that is the same in both contexts has the same members. -/
theorem membersOf_eq : context.schema.membersOf ref = other.schema.membersOf ref := by
  rw [Schema.membersOf, Schema.membersOf, h.type]

/-- The members of such a type stand under the same names. -/
theorem memberTable_eq : context.schema.memberTable ref = other.schema.memberTable ref := by
  rw [Schema.memberTable, Schema.memberTable, h.membersOf_eq]

/-- A use of such a type is at fault in both contexts or in neither. -/
theorem useFault?_eq (user : String) : context.useFault? ref user = other.useFault? ref user := by
  rw [useFault?, useFault?, h.kind?_eq, h.fieldType]

/-- A type that is the same in both contexts has the same details. -/
theorem detailsOf_eq (fieldName : Option String) :
    context.detailsOf ref fieldName = other.detailsOf ref fieldName := by
  have htype : context.fieldType? ref = other.fieldType? ref := by
    rw [fieldType?, fieldType?, h.kind?_eq, h.fieldType]
  have hchoices : context.choicesOf ref = other.choicesOf ref := by
    rw [choicesOf, choicesOf, h.kind?_eq]
  rw [detailsOf, detailsOf, htype, hchoices, h.type]

end SameUnder

/-! ## A reference with the members of its type -/

namespace SameWithin

variable {ref : TypeRef} (h : context.SameWithin other ref)

include h

/-- The name of the reference is in its own reach. -/
theorem sameUnder : context.SameUnder other ref.innermost := h ref.innermost List.mem_cons_self

/-- The names of the types of its members are in the reach of a reference. -/
theorem sameUnder_member {member : Member} (hmember : member ∈ context.schema.membersOf ref) :
    context.SameUnder other member.type.innermost :=
  h member.type.innermost (List.mem_cons_of_mem _ (List.mem_map.2 ⟨member, hmember, rfl⟩))

/-- A member of the type has the same details in both contexts. -/
theorem memberDetails_eq {member : Member} (hmember : member ∈ context.schema.membersOf ref) :
    context.memberDetails member = other.memberDetails member := by
  rw [memberDetails, memberDetails, (h.sameUnder_member hmember).detailsOf_eq]

/-- A reference expands to the same in both contexts. -/
theorem expansionOf_eq (fieldName : Option String) :
    context.expansionOf ref fieldName = other.expansionOf ref fieldName := by
  have hchildren : (context.schema.memberTable ref).map (fun entry =>
        (entry.1, context.memberDetails entry.2)) =
      (context.schema.memberTable ref).map fun entry => (entry.1, other.memberDetails entry.2) := by
    refine List.map_congr_left fun entry hentry => ?_
    obtain ⟨hmember, -⟩ := Schema.mem_membersOf_of_mem_memberTable hentry
    rw [h.memberDetails_eq hmember]
  rw [expansionOf, expansionOf, hchildren, h.sameUnder.memberTable_eq, h.sameUnder.detailsOf_eq]

/-- What is in reach of a reference is at fault for the same reason in both contexts. -/
theorem expandFault?_eq (fieldName : Option String) :
    context.expandFault? ref fieldName = other.expandFault? ref fieldName := by
  have hmembers : (context.schema.membersOf ref).findSome? context.memberFault? =
      (context.schema.membersOf ref).findSome? other.memberFault? := by
    refine findSome?_congr fun member hmember => ?_
    exact (h.sameUnder_member hmember).useFault?_eq member.name
  rw [expandFault?, expandFault?, hmembers, h.sameUnder.membersOf_eq, h.sameUnder.useFault?_eq]

/-- The values of a reference have the same slots in both contexts. -/
theorem declaredSlots_eq : context.declaredSlots ref = other.declaredSlots ref := by
  rw [context.declaredSlots_eq ref none, other.declaredSlots_eq ref none, h.expansionOf_eq]

end SameWithin

/-! ## Forms and records -/

section Fields

variable {arguments : List Member}
  (harguments : ∀ argument ∈ arguments, context.SameWithin other argument.type)

include harguments

/-- Arguments are at fault for the same reason when the contexts agree within each of them. -/
theorem argumentsFault?_congr : context.argumentsFault? arguments = other.argumentsFault? arguments := by
  refine findSome?_congr fun argument hargument => ?_
  exact (harguments argument hargument).expandFault?_eq (some argument.name)

/-- Arguments make the same items when the contexts agree within each of them and sort in both or in neither. -/
theorem formItems_congr (hsort : context.settings.sortFields = other.settings.sortFields) :
    context.formItems arguments = other.formItems arguments := by
  have hitems : arguments.filterMap (fun argument =>
        FormItem.ofExpansion? argument.name (context.argumentExpansion argument)) =
      arguments.filterMap fun argument =>
        FormItem.ofExpansion? argument.name (other.argumentExpansion argument) := by
    refine List.filterMap_congr fun argument hargument => ?_
    rw [argumentExpansion, argumentExpansion, (harguments argument hargument).expansionOf_eq]
  rw [formItems, formItems, hitems, hsort]

end Fields

section Records

variable {result : TypeRef} (hresult : context.SameWithin other result)
  (hid : context.idSource? result.innermost = other.idSource? result.innermost)

include hresult hid

/-- A result is at fault for the same reason when the contexts agree within it. -/
theorem resultFault?_congr (operation : String) :
    context.resultFault? result operation = other.resultFault? result operation := by
  have hfault : context.idFault? result = other.idFault? result := by
    rw [idFault?, idFault?, hid, hresult.declaredSlots_eq]
  rw [resultFault?, resultFault?, hfault, hresult.expandFault?_eq]

/-- The records of a result have the same slots, with the same identifier added. -/
theorem resultSlots_congr (hsort : context.settings.sortFields = other.settings.sortFields)
    (target : Target) : context.resultSlots result target = other.resultSlots result target := by
  -- Whether an identifier is added depends on the source and the slots, which are the same.
  have hadds : context.addsId result = other.addsId result := by
    rw [addsId, addsId, hid, hresult.declaredSlots_eq]
  have hslots : context.slotsFor result target = other.slotsFor result target := by
    cases target with
    | platform => rw [slotsFor, slotsFor, hadds, hresult.declaredSlots_eq]
    | document => rw [slotsFor, slotsFor, hresult.declaredSlots_eq]
  rw [resultSlots, resultSlots, hslots, hsort]

end Records

/-! ## Actions -/

namespace Agree

variable {kind : ActionKind} {operation : String} (h : context.Agree other kind operation)

include h

/-- The root field is chosen alike. -/
theorem rootFor_eq : context.rootFor kind operation = other.rootFor kind operation := by
  rw [rootFor, rootFor, Schema.operation, Schema.operation, h.root]

variable {root : FieldDef}
  (hroot : context.schema.operation? kind.operationKind operation = some root)

include hroot

/-- What is in reach of the result is in reach of the root field. -/
theorem sameWithin_result : context.SameWithin other root.type := by
  intro name hname
  exact h.reach root hroot name (List.mem_append_left _ hname)

/-- What is in reach of an argument is in reach of the root field. -/
theorem sameWithin_argument {argument : Member} (hargument : argument ∈ root.arguments) :
    context.SameWithin other argument.type := by
  intro name hname
  refine h.reach root hroot name (List.mem_append_right _ ?_)
  exact List.mem_flatMap.2 ⟨argument, hargument, hname⟩

/-- The same form is shown in both contexts. -/
theorem shownInputs_eq : context.shownInputs root.arguments = other.shownInputs root.arguments := by
  have hitems := formItems_congr (fun _ => h.sameWithin_argument hroot) h.sortFields
  rw [shownInputs, shownInputs, hitems]

/-- The records of the result have the same slots in both contexts. -/
theorem resultSlots_eq (target : Target) :
    context.resultSlots root.type target = other.resultSlots root.type target :=
  resultSlots_congr (h.sameWithin_result hroot) (h.idSource root hroot) h.sortFields target

/-- The same fields are shown for records in both contexts. -/
theorem shownOutputs_eq : context.shownOutputs root.type = other.shownOutputs root.type := by
  rw [shownOutputs, shownOutputs, h.resultSlots_eq hroot]

/-- The same operation is sent in both contexts. -/
theorem operationOf_eq (rootKind : OperationKind) :
    context.operationOf rootKind operation root = other.operationOf rootKind operation root := by
  have hitems := formItems_congr (fun _ => h.sameWithin_argument hroot) h.sortFields
  have hdetails := (h.sameWithin_result hroot).sameUnder.detailsOf_eq none
  have hselection : context.selectionOf root.type = other.selectionOf root.type := by
    rw [selectionOf, selectionOf, hdetails, h.resultSlots_eq hroot]
  rw [operationOf, operationOf, hitems, hselection]

/-- The same action results in both contexts, faults apart. -/
theorem actionOf_eq : context.actionOf kind operation root = other.actionOf kind operation root := by
  have hdetails := (h.sameWithin_result hroot).sameUnder.detailsOf_eq none
  have hid : context.idSource? root.type.innermost = other.idSource? root.type.innermost :=
    h.idSource root hroot
  rw [actionOf, actionOf, h.operationOf_eq hroot, h.shownInputs_eq hroot, h.shownOutputs_eq hroot,
    h.samples, hdetails, hid]

/-- Generation finds the same fault in both contexts, if any. -/
theorem generationFault?_eq :
    context.generationFault? operation root = other.generationFault? operation root := by
  have huse := (h.sameWithin_result hroot).sameUnder.useFault?_eq operation
  have harguments := argumentsFault?_congr fun _ => h.sameWithin_argument hroot
  have hresult := resultFault?_congr (h.sameWithin_result hroot) (h.idSource root hroot) operation
  rw [generationFault?, generationFault?, fieldsFault?, fieldsFault?, samplesFault?, samplesFault?,
    huse, harguments, hresult, h.shownInputs_eq hroot, h.shownOutputs_eq hroot, h.samples]

end Agree

/-! ## Additions out of reach -/

/-- The context with types and field types for scalars added to it. -/
def withMore (context : Context) (types : List NamedType) (scalars : List (String × FieldType)) :
    Context :=
  { schema := { context.schema with types := types.foldl TypeTable.insert context.schema.types }
    settings :=
      { context.settings with scalarTypes := context.settings.scalarTypes.putAll scalars } }

/-- The name is not in reach of the operation. -/
def OutOfReach (context : Context) (kind : ActionKind) (operation name : String) : Prop :=
  ∀ root, context.schema.operation? kind.operationKind operation = some root →
    name ∉ context.schema.reach root

/-- Adding types under other names does not change what a name stands for. -/
theorem get?_foldl_insert_of_ne {types : List NamedType} {name : String}
    (h : ∀ type ∈ types, type.name ≠ name) (table : TypeTable) :
    (types.foldl TypeTable.insert table).get? name = table.get? name := by
  induction types generalizing table with
  | nil => rfl
  | cons type rest ih =>
    obtain ⟨htype, hrest⟩ := List.forall_mem_cons.1 h
    rw [List.foldl_cons, ih hrest, TypeTable.get?_insert, if_neg htype]

/-- Adding field types for other scalars does not change that of a scalar. -/
theorem get?_putAll_of_ne {scalars : List (String × FieldType)} {name : String}
    (h : ∀ scalar ∈ scalars, scalar.1 ≠ name) (entries : Entries FieldType) :
    (entries.putAll scalars).get? name = entries.get? name := by
  have hnone : scalars.reverse.find? (fun scalar => scalar.1 = name) = none := by
    rw [List.find?_eq_none]
    intro scalar hscalar
    simpa using h scalar (List.mem_reverse.1 hscalar)
  rw [Entries.get?_putAll, hnone, Option.map_none, Option.none_or]

/-- Additions out of reach leave all that generation looks at. -/
theorem agree_withMore {kind : ActionKind} {operation : String} {types : List NamedType}
    {scalars : List (String × FieldType)}
    (hroot : ∀ type ∈ types, context.schema.root? kind.operationKind ≠ some type.name)
    (htypes : ∀ type ∈ types, context.OutOfReach kind operation type.name)
    (hscalars : ∀ scalar ∈ scalars, context.OutOfReach kind operation scalar.1) :
    context.Agree (context.withMore types scalars) kind operation where
  root := by
    have hroots : (context.withMore types scalars).schema.root? kind.operationKind =
        context.schema.root? kind.operationKind := by
      cases kind.operationKind <;> rfl
    rw [Schema.operation?, Schema.operation?, hroots]
    cases hname : context.schema.root? kind.operationKind with
    | none => rfl
    | some name =>
      -- No added type has the name of the root type, so the root field stays the same.
      have hget : (context.withMore types scalars).schema.get? name = context.schema.get? name := by
        refine get?_foldl_insert_of_ne (fun type htype hsame => ?_) context.schema.types
        exact hroot type htype (hname.trans (congrArg some hsame.symm))
      simp only [Option.bind_eq_bind, Option.bind_some, hget]
  reach := by
    intro root hfound name hname
    refine ⟨(get?_foldl_insert_of_ne (fun type htype hsame => ?_) context.schema.types).symm,
      (get?_putAll_of_ne (fun scalar hscalar hsame => ?_) context.settings.scalarTypes).symm⟩
    · exact htypes type htype root hfound (hsame ▸ hname)
    · exact hscalars scalar hscalar root hfound (hsame ▸ hname)
  idSource := fun _ _ => rfl
  sortFields := rfl
  samples := rfl

/-- Generation gives the same action or the same error in contexts that agree on what it looks at.
Additions out of reach are no exception, whatever else they refer to. -/
theorem generate_within_reach (context : Context) (kind : ActionKind) (operation : String) :
    (∀ other, context.Agree other kind operation →
        context.generate kind operation = other.generate kind operation) ∧
      ∀ types scalars,
        (∀ type ∈ types, context.schema.root? kind.operationKind ≠ some type.name) →
        (∀ type ∈ types, context.OutOfReach kind operation type.name) →
        (∀ scalar ∈ scalars, context.OutOfReach kind operation scalar.1) →
        (context.withMore types scalars).generate kind operation =
          context.generate kind operation := by
  have hagree : ∀ other, context.Agree other kind operation →
      context.generate kind operation = other.generate kind operation := by
    intro other h
    -- Generation is a choice and a checked value, and the contexts agree on each part.
    rw [generate_eq, generate_eq, ← h.rootFor_eq]
    cases hfound : context.rootFor kind operation with
    | error e => rfl
    | ok root =>
      have hroot := ((context.rootFor_eq_ok_iff kind operation root).1 hfound).1
      show checked _ _ = checked _ _
      rw [h.generationFault?_eq hroot, h.actionOf_eq hroot]
  refine ⟨hagree, fun types scalars hroot htypes hscalars => ?_⟩
  exact (hagree _ (agree_withMore hroot htypes hscalars)).symm

/-! ## Shelves beside the library -/

/-- Types that no search for books comes to: an object that refers to itself, to a type that is not part
of the schema and to a scalar without a field type, and that scalar. -/
def shelfTypes : List NamedType :=
  [⟨"Shelf", none, .object [⟨"next", none, .named "Shelf", []⟩, ⟨"room", none, .named "Room", []⟩,
      ⟨"load", none, .named "Grams", []⟩]⟩,
    ⟨"Grams", none, .scalar⟩]

/-- The library with shelves and with settings that say something else where it does not matter. -/
def shelvedLibrary : Context :=
  { schema := (library.withMore shelfTypes []).schema
    settings :=
      { Settings.default with
        request := ⟨"LIBRARY_URL", []⟩
        scalarTypes := Settings.default.scalarTypes ++ [("Room", .file)]
        idSources := [("Shelf", "next")] } }

/-- The library with shelves agrees with the library on all that a search for books looks at. -/
theorem agree_shelvedLibrary : library.Agree shelvedLibrary .search "books" where
  root := by decide +kernel
  reach := by
    intro root hroot
    obtain rfl : booksField = root := Option.some.inj (operation?_books.symm.trans hroot)
    decide +kernel
  idSource := by
    intro root hroot
    obtain rfl : booksField = root := Option.some.inj (operation?_books.symm.trans hroot)
    decide
  sortFields := rfl
  samples := rfl

/-- Books are searched for in the same way with shelves beside them. -/
theorem generate_within_reach_shelves :
    library.Agree shelvedLibrary .search "books" ∧
      library.generate .search "books" = shelvedLibrary.generate .search "books" ∧
      (∀ type ∈ shelfTypes, library.OutOfReach .search "books" type.name) ∧
      (library.withMore shelfTypes [("Room", .file)]).generate .search "books" =
        library.generate .search "books" := by
  -- What the search reaches can be computed, and shelves are not in it.
  have hout : ∀ name ∈ ["Shelf", "Grams", "Room"], library.OutOfReach .search "books" name := by
    intro name hname root hroot
    obtain rfl : booksField = root := Option.some.inj (operation?_books.symm.trans hroot)
    have hreach : ∀ name ∈ ["Shelf", "Grams", "Room"], name ∉ library.schema.reach booksField := by
      decide +kernel
    exact hreach name hname
  have htypes : ∀ type ∈ shelfTypes, library.OutOfReach .search "books" type.name := by
    intro type htype
    have hnames : ∀ type ∈ shelfTypes, type.name ∈ ["Shelf", "Grams", "Room"] := by decide
    exact hout type.name (hnames type htype)
  have hscalars : ∀ scalar ∈ [("Room", FieldType.file)],
      library.OutOfReach .search "books" scalar.1 := by
    intro scalar hscalar
    obtain rfl := List.mem_singleton.1 hscalar
    exact hout "Room" (by decide)
  obtain ⟨hsame, hmore⟩ := generate_within_reach library .search "books"
  exact ⟨agree_shelvedLibrary, hsame shelvedLibrary agree_shelvedLibrary, htypes,
    hmore shelfTypes [("Room", .file)] (by decide) htypes hscalars⟩

end Context

end ActionForge
