import ActionForge.CommandLine.Report
import ActionForge.Proofs.Document.Paths
import ActionForge.Proofs.Outcome

/-!
# Descriptions and actions

A description and an action show the same fields of an operation, but they come to them in different ways:
generation resolves the result first, builds a document and makes up samples. `describe_generate` says that
nothing of this gets between them. What a description shows is what the action has, and where there is a
description, only a search without arguments or a field without a sample keeps the action from being
generated.
-/

namespace ActionForge

namespace Context

variable (context : Context)

/-- A description is the choice of a root field and a checked value for it. -/
theorem describe_eq (kind : OperationKind) (operation : String) :
    context.describe kind operation =
      (context.schema.operation kind operation >>= fun root =>
        checked (context.fieldsFault? operation root)
          { kind, operation
            inputs := context.shownInputs root.arguments
            outputs := context.shownOutputs root.type }) := by
  rw [describe]
  refine congrArg _ (funext fun root => ?_)
  -- The fields are computed and checked in one go, and the name and kind are put around them.
  rw [platformFields_eq]
  exact checked_bind_pure _ _ _

/-- Looking up an operation succeeds with the root field that there is for it. -/
theorem operation_eq_ok_iff {schema : Schema} {kind : OperationKind} {operation : String}
    {root : FieldDef} :
    schema.operation kind operation = .ok root ↔ schema.operation? kind operation = some root := by
  rw [Schema.operation]
  cases schema.operation? kind operation <;> simp

/-- A description comes from a root field whose fields have no fault. -/
theorem describe_eq_ok_iff (kind : OperationKind) (operation : String) (description : Description) :
    context.describe kind operation = .ok description ↔
      ∃ root, context.schema.operation? kind operation = some root ∧
        context.fieldsFault? operation root = none ∧
        { kind, operation
          inputs := context.shownInputs root.arguments
          outputs := context.shownOutputs root.type } = description := by
  simp only [← operation_eq_ok_iff, describe_eq]
  cases context.schema.operation kind operation with
  | error e => simp [bind, Except.bind]
  | ok root => simp [bind, Except.bind, checked_eq_ok_iff]

/-! ## What only generation asks for -/

/-- The fields of an operation have no fault unless generation gets past its result. -/
theorem useFault?_of_fieldsFault? {operation : String} {root : FieldDef}
    (h : context.fieldsFault? operation root = none) : context.useFault? root.type operation = none := by
  have hresult := (Option.or_eq_none_iff.1 h).2
  have hexpand := (Option.or_eq_none_iff.1 hresult).1
  exact (Option.or_eq_none_iff.1 hexpand).1

/-- Where the fields have no fault, generation can fail for a sample only. -/
theorem generationFault?_of_fieldsFault? {operation : String} {root : FieldDef}
    (h : context.fieldsFault? operation root = none) :
    context.generationFault? operation root = context.samplesFault? root := by
  rw [generationFault?, context.useFault?_of_fieldsFault? h, h]
  rfl

/-- A root field is refused for an action when the action is a search and the field has no arguments. -/
theorem rootFor_of_operation? {kind : ActionKind} {operation : String} {root : FieldDef}
    (h : context.schema.operation? kind.operationKind operation = some root) :
    context.rootFor kind operation = .ok root ∨
      context.rootFor kind operation = .error (.noArguments operation) := by
  by_cases hsearch : kind = .search → root.arguments ≠ []
  · exact .inl ((context.rootFor_eq_ok_iff kind operation root).2 ⟨h, hsearch⟩)
  · obtain ⟨hkind, harguments⟩ := Classical.not_imp.1 hsearch
    rw [rootFor, operation_eq_ok_iff.2 h]
    simp [bind, Except.bind, hkind, not_not.1 harguments]

/-- An action has the fields that a description of its operation shows. Where there is a description, the
action is generated too, unless it is a search without arguments or a field has no sample. -/
theorem describe_generate (kind : ActionKind) (operation : String) :
    (∀ action, context.generate kind operation = .ok action →
      context.describe kind.operationKind operation =
        .ok { kind := kind.operationKind, operation, inputs := action.inputs, outputs := action.outputs }) ∧
    (∀ description, context.describe kind.operationKind operation = .ok description →
      (∃ action, context.generate kind operation = .ok action) ∨
        context.generate kind operation = .error (.noArguments operation) ∨
        ∃ key type, context.generate kind operation = .error (.noSample key type)) := by
  constructor
  · intro action h
    obtain ⟨root, hroot, hfault, rfl⟩ := (context.generate_eq_ok_iff kind operation action).1 h
    have hfound := ((context.rootFor_eq_ok_iff kind operation root).1 hroot).1
    -- Generation checks the fields in passing, between the result and the samples.
    have hfields : context.fieldsFault? operation root = none :=
      (Option.or_eq_none_iff.1 (Option.or_eq_none_iff.1 hfault).2).1
    exact (context.describe_eq_ok_iff kind.operationKind operation _).2 ⟨root, hfound, hfields, rfl⟩
  · intro description h
    obtain ⟨root, hfound, hfields, -⟩ :=
      (context.describe_eq_ok_iff kind.operationKind operation description).1 h
    rw [generate_eq]
    rcases context.rootFor_of_operation? hfound with hroot | hroot
    · rw [hroot]
      show (∃ action, checked _ _ = _) ∨ checked _ _ = _ ∨ ∃ key type, checked _ _ = _
      -- The fields are in order, so the samples alone decide.
      rw [context.generationFault?_of_fieldsFault? hfields]
      cases hsamples : context.samplesFault? root with
      | none => exact .inl ⟨_, rfl⟩
      | some e =>
        obtain ⟨key, type, rfl, -⟩ := context.exists_noSample_of_samplesFault? hsamples
        exact .inr (.inr ⟨key, type, rfl⟩)
    · rw [hroot]
      exact .inr (.inl rfl)

/-- The library with texts that are files, for which there are no samples. -/
def filedLibrary : Context :=
  { library with
    settings :=
      { Settings.default with scalarTypes := [("String", .file), ("ID", .string), ("Int", .integer)] } }

/-- Books are described as they are searched for. Once their titles are files they can be described, but the
search is not generated. -/
theorem describe_generate_books :
    (∃ action, library.generate .search "books" = .ok action ∧
      library.describe .query "books" = .ok ⟨.query, "books", action.inputs, action.outputs⟩) ∧
    (∃ description, filedLibrary.describe .query "books" = .ok description) ∧
    ∃ key type, filedLibrary.generate .search "books" = .error (.noSample key type) := by
  have hgenerate : (library.generate .search "books").isOk := by decide +kernel
  have hdescribe : (filedLibrary.describe .query "books").isOk := by decide +kernel
  have hlacks : (filedLibrary.generate .search "books").map (fun _ => ()) =
      .error (.noSample "filter__title" .file) := by decide +kernel
  refine ⟨?_, ?_⟩
  · cases h : library.generate .search "books" with
    | error e =>
      rw [h] at hgenerate
      cases hgenerate
    | ok action => exact ⟨action, rfl, (describe_generate library .search "books").1 action h⟩
  · cases h : filedLibrary.describe .query "books" with
    | error e =>
      rw [h] at hdescribe
      cases hdescribe
    | ok description =>
      refine ⟨⟨description, rfl⟩, ?_⟩
      -- The second half leaves three ways, and the error is of the third.
      rcases (describe_generate filedLibrary .search "books").2 description h with
        ⟨action, hok⟩ | hno | hsample
      · rw [hok] at hlacks
        cases hlacks
      · rw [hno] at hlacks
        cases hlacks
      · exact hsample

end Context

end ActionForge
