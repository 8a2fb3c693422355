import ActionForge.Proofs.Document.Pieces

/-!
# What documents read

`inputPaths_document` says that the paths a generated document reads, the paths of the sample data and
the key paths of the form are one list. The document is built from one tree of fields and the form from
another, with other keys and with a lone wrapper handled in another way; both are written from the same
items, so no document reads a value that the form does not supply.
-/

namespace ActionForge

namespace Context

/-- A generated document reads the leaves of the sample data, which are the leaves of the form, and it
reads them in that order. -/
theorem inputPaths_document {context : Context} (hnames : context.schema.WellNamed)
    {kind : ActionKind} {operation : String}
    (hdistinct : ∀ root, context.schema.operation? kind.operationKind operation = some root →
      (root.arguments.map Member.name).Nodup)
    {action : Action} (h : context.generate kind operation = .ok action) :
    Template.inputPaths action.document = recordPaths action.inputSample ∧
      recordPaths action.inputSample = keyPathsOf action.inputs := by
  obtain ⟨root, hroot, rfl⟩ := context.exists_root_of_generate h
  obtain ⟨hregular, hkeys⟩ := context.regular_shownInputs (hdistinct root hroot)
  -- Both lists are compared with the key paths of the form.
  have hsample : recordPaths (context.actionOf kind operation root).inputSample =
      keyPathsOf (context.shownInputs root.arguments) := by
    rw [actionOf, context.settings.samples.ofList_pairsOf hregular hkeys,
      context.settings.samples.recordPaths_pairsOf hregular]
  have hdocument : Template.inputPaths (context.actionOf kind operation root).document =
      keyPathsOf (context.shownInputs root.arguments) := by
    rw [actionOf, Operation.inputPaths_text (context.wellNamed_operationOf hnames hroot),
      context.arguments_operationOf hnames hroot, argumentPaths_formItems, shownInputs]
  exact ⟨hdocument.trans hsample.symm, hsample⟩

/-! ## A search by one object -/

/-- A root field with an object to search by. The other argument has nothing to fill in, so no form
shows it. -/
def booksField : FieldDef :=
  { name := "books"
    description := none
    type := .nonNull (.list (.named "Book"))
    arguments := [⟨"after", none, .named "Cursor"⟩, ⟨"filter", none, .nonNull (.named "Filter")⟩] }

/-- A schema with books to search for. -/
def librarySchema : Schema :=
  let author : NamedType := ⟨"Author", none, .object [⟨"books", none, booksField.type, []⟩]⟩
  let book : NamedType :=
    ⟨"Book", none, .object [⟨"title", none, .named "String", []⟩, ⟨"author", none, .named "Author", []⟩,
      ⟨"id", none, .nonNull (.named "ID"), []⟩]⟩
  let cursor : NamedType := ⟨"Cursor", none, .input [⟨"filter", none, .named "Filter"⟩]⟩
  let filter : NamedType :=
    ⟨"Filter", none, .input [⟨"title", none, .nonNull (.named "String")⟩,
      ⟨"cursor", none, .named "Cursor"⟩, ⟨"ids", none, .list (.named "ID")⟩,
      ⟨"year", none, .named "Int"⟩]⟩
  let query : NamedType := ⟨"Query", none, .object [booksField]⟩
  { queryRoot := "Query"
    mutationRoot := none
    types := [author, book, cursor, filter, query].foldl TypeTable.insert TypeTable.builtin }

/-- The schema under settings that say nothing. -/
def library : Context := ⟨librarySchema, Settings.default⟩

/-- The library has the search for books. -/
theorem operation?_books : library.schema.operation? .query "books" = some booksField := by
  decide +kernel

/-- The search sends the slots of the filter, which the form shows at its top level. -/
theorem inputPaths_document_books : ∃ action, library.generate .search "books" = .ok action ∧
    Template.inputPaths action.document = recordPaths action.inputSample ∧
      recordPaths action.inputSample = keyPathsOf action.inputs := by
  have hok : (library.generate .search "books").isOk := by decide +kernel
  have hdistinct : ∀ root, library.schema.operation? .query "books" = some root →
      (root.arguments.map Member.name).Nodup := by
    intro root hroot
    obtain rfl : booksField = root := Option.some.inj (operation?_books.symm.trans hroot)
    decide
  cases h : library.generate .search "books" with
  | error e =>
    rw [h] at hok
    cases hok
  | ok action => exact ⟨action, rfl, inputPaths_document (by decide +kernel) hdistinct h⟩

end Context

end ActionForge
