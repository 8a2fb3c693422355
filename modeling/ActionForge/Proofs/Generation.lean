import ActionForge.Action
import ActionForge.Proofs.Form.Item
import ActionForge.Proofs.Sample

/-!
# Generation as a check and a value

`generate` resolves the same types several times over, for two targets and two samples. `generate_eq`
sums it up: once there is a root field, the action is a checked value. `generationFault?` tries the
types in reach, the identifier source and the samples, each once, and `actionOf` is the action that
results.
-/

namespace ActionForge

namespace Context

variable (context : Context)

/-! ## Parts of an action -/

/-- What an operation selects from its result. -/
def selectionOf (result : TypeRef) : Selection :=
  match (context.detailsOf result none).shape with
  | .scalar => .scalar
  | .list | .object =>
    .ofFields ((context.resultSlots result .document).map (ValueSlot.output .document))

/-- The operation that is sent for a root field. -/
def operationOf (kind : OperationKind) (name : String) (root : FieldDef) : Operation :=
  Operation.ofForm kind name ((context.formItems root.arguments).map (FormItem.field .document))
    (context.selectionOf root.type)

/-- The form that the platform shows for arguments. -/
def shownInputs (arguments : List Member) : List InputField :=
  flatten ((context.formItems arguments).map (FormItem.field .platform))

/-- The fields of the records that the platform gets. -/
def shownOutputs (result : TypeRef) : List OutputField :=
  (context.resultSlots result .platform).map (ValueSlot.output .platform)

/-- The action for a root field that generation does not refuse. -/
def actionOf (kind : ActionKind) (operation : String) (root : FieldDef) : Action :=
  { kind
    key := operation
    noun := labelFor root.type.innermost
    label := labelFor operation
    description := root.description.getD (kind.describe (labelFor operation))
    document := (context.operationOf kind.operationKind operation root).text
    inputs := context.shownInputs root.arguments
    outputs := context.shownOutputs root.type
    inputSample := Entries.ofList (context.settings.samples.pairsOf (context.shownInputs root.arguments))
    outputSample := Entries.ofList ((context.shownOutputs root.type).map fun field =>
      (field.key, context.settings.samples.valueOf field.key field.type []))
    shape := (context.detailsOf root.type none).shape
    idSource := context.idSource? root.type.innermost }

/-! ## Faults -/

/-- What is wrong with the fields of an operation, for either target. -/
def fieldsFault? (operation : String) (root : FieldDef) : Option ActionError :=
  (context.argumentsFault? root.arguments).or (context.resultFault? root.type operation)

/-- What is wrong with the samples of an operation. -/
def samplesFault? (root : FieldDef) : Option ActionError :=
  ((leavesOf (context.shownInputs root.arguments)).findSome? context.settings.samples.leafFault?).or
    ((context.shownOutputs root.type).findSome? context.settings.samples.outputFault?)

/-- Why generation refuses a root field. -/
def generationFault? (operation : String) (root : FieldDef) : Option ActionError :=
  (context.useFault? root.type operation).or
    ((context.fieldsFault? operation root).or (context.samplesFault? root))

/-! ## Steps of generation -/

/-- The document is the text of the operation, checked for the faults of its fields. -/
theorem document_eq (kind : OperationKind) (operation : String) (root : FieldDef) :
    context.document kind operation root (context.detailsOf root.type (some operation)).shape =
      checked (context.fieldsFault? operation root) (context.operationOf kind operation root).text := by
  rw [document, inputFields_eq, fieldsFault?]
  refine checked_bind_eq ?_
  rw [outputFields_eq]
  exact checked_bind_pure _ _ _

/-- The fields that the platform shows are checked for the same faults. -/
theorem platformFields_eq (operation : String) (root : FieldDef) :
    context.platformFields operation root =
      checked (context.fieldsFault? operation root)
        (context.shownInputs root.arguments, context.shownOutputs root.type) := by
  rw [platformFields, inputFields_eq, fieldsFault?]
  refine checked_bind_eq ?_
  rw [outputFields_eq]
  exact checked_bind_pure _ _ _

/-- Generation is the choice of a root field and a checked value for it. -/
theorem generate_eq (kind : ActionKind) (operation : String) :
    context.generate kind operation =
      (context.rootFor kind operation >>= fun root =>
        checked (context.generationFault? operation root) (context.actionOf kind operation root)) := by
  rw [generate]
  refine congrArg _ (funext fun root => ?_)
  rw [resolve_eq, generationFault?]
  refine checked_bind_eq ?_
  -- The fields are built for both targets, so their faults are tried twice.
  rw [document_eq, platformFields_eq, ← or_or_self_left]
  refine checked_bind_eq (checked_bind_eq ?_)
  simp only [SampleRules.sampleInputs_eq, SampleRules.sampleOutputs_eq]
  exact checked_bind_eq (checked_bind_pure _ _ _)

/-! ## Root fields -/

/-- A root field is chosen for an action unless it is missing, or the action is a search and the field has no
arguments. -/
theorem rootFor_eq_ok_iff (kind : ActionKind) (operation : String) (root : FieldDef) :
    context.rootFor kind operation = .ok root ↔
      context.schema.operation? kind.operationKind operation = some root ∧
        (kind = .search → root.arguments ≠ []) := by
  rw [rootFor, Schema.operation]
  cases context.schema.operation? kind.operationKind operation with
  | none => simp [bind, Except.bind]
  | some found =>
    show (if kind = .search && found.arguments.isEmpty then _ else Except.ok found) = .ok root ↔ _
    -- A search without arguments is the one case in which a root field that is there is refused.
    by_cases hsearch : kind = .search ∧ found.arguments = []
    · rw [if_pos (by simpa using hsearch)]
      constructor
      · intro h
        cases h
      · rintro ⟨h, harguments⟩
        cases h
        exact absurd hsearch.2 (harguments hsearch.1)
    · rw [if_neg (by simpa using hsearch)]
      constructor
      · intro h
        cases h
        exact ⟨rfl, fun hkind hnil => hsearch ⟨hkind, hnil⟩⟩
      · rintro ⟨h, -⟩
        cases h
        rfl

/-- An action comes from a root field that generation has nothing against. -/
theorem generate_eq_ok_iff (kind : ActionKind) (operation : String) (action : Action) :
    context.generate kind operation = .ok action ↔
      ∃ root, context.rootFor kind operation = .ok root ∧
        context.generationFault? operation root = none ∧
        context.actionOf kind operation root = action := by
  rw [generate_eq]
  cases context.rootFor kind operation with
  | error e => simp [bind, Except.bind]
  | ok root => simp [bind, Except.bind, checked_eq_ok_iff]

end Context

end ActionForge
