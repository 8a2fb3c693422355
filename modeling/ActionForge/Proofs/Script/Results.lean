import ActionForge.Proofs.Records
import ActionForge.Proofs.Script.Evaluation
import ActionForge.Proofs.Script.Reading

/-!
# Results of actions

What an action returns for the values that its response may hold. Records get their identifiers, and all
results of triggers and searches are arrays, with one exception: a list that is missing stays null, or stops
the action where identifiers are copied. Creations that copy an identifier stop at a missing record as well.
Only the search and the trigger for a single record ask whether there is a result. By `generate_result`
nothing else goes wrong.
-/

namespace ActionForge

/-- Whether null is a value of the type. -/
def TypeRef.isNullable : TypeRef → Bool
  | .nonNull _ => false
  | .named _ | .list _ => true

namespace Script

/-! ## Records -/

/-- The members of a plain object. -/
def Value.record? : Value → Option (Entries Value)
  | .object none members => some members
  | _ => none

/-- The records that a value holds: those of an array of records, or the one that it is. -/
def Value.records? : Value → Option (List (Entries Value))
  | .array items => items.mapM Value.record?
  | value => value.record?.map fun record => [record]

/-- An array of records holds these records. -/
theorem records?_array (records : List (Entries Value)) :
    (Value.array (records.map .record)).records? = some records := by
  rw [Value.records?]
  induction records with
  | nil => rfl
  | cons record rest ih =>
    rw [List.map_cons, List.mapM_cons, ih]
    rfl

/-- A record holds itself. -/
theorem records?_record (record : Entries Value) : (Value.record record).records? = some [record] := rfl

/-- What a response may hold for a result of the given type and shape. -/
inductive Allows (type : TypeRef) : ResultShape → Value → Prop where
  | missing (shape : ResultShape) (h : type.isNullable) : Allows type shape .null
  | records (records : List (Entries Value)) (h : ∀ record ∈ records, record.Distinct) :
    Allows type .list (.array (records.map .record))
  | record (record : Entries Value) (h : record.Distinct) : Allows type .object (.record record)
  | scalar (value : Value) : Allows type .scalar value

/-- A copy of a record with one of its members for an identifier. -/
structure Identified (source : String) (record copy : Entries Value) : Prop where
  id : copy.get? idKey = some (Value.recordMember record source)
  others : ∀ name, name ≠ idKey → copy.get? name = record.get? name

/-- The copy that spreading a record and setting its identifier makes. -/
def withIdentifier (source : String) (record : Entries Value) : Entries Value :=
  (Entries.ofList record).put idKey (Value.recordMember record source)

/-- The copy differs from the record in its identifier only. -/
theorem identified_withIdentifier {record : Entries Value} (h : record.Distinct) (source : String) :
    Identified source record (withIdentifier source record) := by
  constructor
  · rw [withIdentifier, Entries.get?_put, if_pos rfl]
  · intro name hname
    rw [withIdentifier, Entries.get?_put, if_neg (Ne.symm hname), Entries.ofList_of_nodup h]

/-! ## Parts of results -/

variable {scope : Entries Value} {name : String}

/-- A variable has the value that is in scope. -/
theorem eval_variable {value : Value} (h : scope.get? name = some value) :
    (Expression.variable name).eval scope = .ok value := by
  rw [Expression.eval, h]

/-- A record that is spread gives its copy. -/
theorem eval_identified {record : Entries Value} (h : scope.get? name = some (.record record))
    (source : String) :
    (identified name source).eval scope = .ok (.record (withIdentifier source record)) := by
  simp only [identified, Expression.eval, evalParts, h]
  rfl

/-- Null has nothing to spread, but also no member to read. -/
theorem eval_identified_null (h : scope.get? name = some .null) (source : String) :
    (identified name source).eval scope = .error .typeError := by
  simp only [identified, Expression.eval, evalParts, h]
  rfl

/-- Mapping over records gives their copies, in the same order. -/
theorem eval_eachIdentified {records : List (Entries Value)}
    (h : scope.get? name = some (.array (records.map .record))) (source : String) :
    (Expression.mapped (.variable name) "item" (identified "item" source)).eval scope =
      .ok (.array ((records.map (withIdentifier source)).map .record)) := by
  have hitem : ∀ record : Entries Value,
      (identified "item" source).eval (scope.put "item" (.record record)) =
        .ok (.record (withIdentifier source record)) := fun record =>
    eval_identified (by rw [Entries.get?_put, if_pos rfl]) source
  have hitems : (records.map Value.record).mapM
      (fun item => (identified "item" source).eval (scope.put "item" item)) =
      .ok (records.map fun record => .record (withIdentifier source record)) := by
    apply mapM_map_ok
    exact hitem
  rw [Expression.eval, eval_variable h, List.map_map]
  show (records.map Value.record).mapM
    (fun item => (identified "item" source).eval (scope.put "item" item)) >>= _ = _
  rw [hitems]
  rfl

/-- Null has no `map` to call, whatever would be mapped. -/
theorem eval_eachIdentified_null (h : scope.get? name = some .null) (body : Expression) (parameter : String) :
    (Expression.mapped (.variable name) parameter body).eval scope = .error .typeError := by
  rw [Expression.eval, eval_variable h]
  rfl

/-- An object with one part is a value, also when the part sets its prototype. -/
theorem exists_eval_single {value : Value} (h : scope.get? name = some value) (key : String) :
    ∃ found, (Expression.object [.named key (.variable name)]).eval scope = .ok found := by
  rw [Expression.eval, evalParts, eval_variable h]
  show ∃ found, (if key = "__proto__" then _ else _) = Except.ok found
  split <;> exact ⟨_, rfl⟩

end Script

/-! ## Outcomes -/

namespace Action

open Script

/-- The action copies identifiers without asking whether there is a result. -/
def StopsAtNull (action : Action) : Prop :=
  action.idSource.isSome ∧ (action.shape = .list ∨ action.kind = .create)

/-- What an outcome is like: an array for triggers and searches, except for a list that is missing, with the
records of the response and their identifiers in it. -/
structure Delivers (action : Action) (value outcome : Value) : Prop where
  isArray : action.kind.returnsList → (outcome.isArray ↔ ¬ (value = .null ∧ action.shape = .list))
  records : ∀ source records, action.idSource = some source → value.records? = some records →
    ∃ copies, outcome.records? = some copies ∧ List.Forall₂ (Identified source) records copies

/-- What evaluating a result comes to: a type error where the action stops at null, and an outcome
everywhere else. -/
structure Settles (action : Action) (value : Value) (result : Except Stop Value) : Prop where
  stops : value = .null → action.StopsAtNull → result = .error .typeError
  delivers : ¬ (value = .null ∧ action.StopsAtNull) →
    ∃ outcome, result = .ok outcome ∧ action.Delivers value outcome

variable {action : Action} {scope : Entries Value} {name : String}

/-- An action that stops at null settles for null by its type error. -/
theorem StopsAtNull.settles (h : action.StopsAtNull) : action.Settles .null (.error .typeError) where
  stops _ _ := rfl
  delivers hnot := absurd ⟨rfl, h⟩ hnot

/-- An action settles by delivering where it does not stop. -/
theorem Delivers.settles {value outcome : Value} (h : action.Delivers value outcome)
    (hgoes : ¬ (value = .null ∧ action.StopsAtNull)) : action.Settles value (.ok outcome) where
  stops hnull hstops := absurd ⟨hnull, hstops⟩ hgoes
  delivers _ := ⟨outcome, rfl, h⟩

/-- Creations are the only actions that return no list. -/
theorem returnsList_eq_false_iff {kind : ActionKind} : kind.returnsList = false ↔ kind = .create := by
  cases kind <;> decide

/-! ### Lists and records -/

/-- For null, a mapped result fails where identifiers are copied, and is null elsewhere. -/
theorem eval_mappedTree_null (h : scope.get? name = some .null) (isList : Bool) :
    (action.mappedTree name isList).eval scope =
      if action.idSource.isSome then .error .typeError else .ok .null := by
  unfold mappedTree
  cases action.idSource with
  | none => exact eval_variable h
  | some source =>
    cases isList with
    | false => exact eval_identified_null h source
    | true => exact eval_eachIdentified_null h _ _

/-- For a record, a mapped result is a copy that has the identifier, if one is copied. -/
theorem eval_mappedTree_record (action : Action) {record : Entries Value} (hrecord : record.Distinct)
    (h : scope.get? name = some (.record record)) :
    ∃ copy, (action.mappedTree name false).eval scope = .ok (.record copy) ∧
      ∀ source, action.idSource = some source → Identified source record copy := by
  unfold mappedTree
  cases action.idSource with
  | none => exact ⟨record, eval_variable h, nofun⟩
  | some source =>
    refine ⟨_, eval_identified h source, ?_⟩
    rintro _ ⟨⟩
    exact identified_withIdentifier hrecord source

/-- For records, a mapped result is their copies, each with its identifier if one is copied. -/
theorem eval_mappedTree_records (action : Action) {records : List (Entries Value)}
    (hrecords : ∀ record ∈ records, record.Distinct)
    (h : scope.get? name = some (.array (records.map .record))) :
    ∃ copies : List (Entries Value),
      (action.mappedTree name true).eval scope = .ok (.array (copies.map .record)) ∧
      ∀ source, action.idSource = some source → List.Forall₂ (Identified source) records copies := by
  unfold mappedTree
  cases action.idSource with
  | none => exact ⟨records, eval_variable h, nofun⟩
  | some source =>
    refine ⟨_, eval_eachIdentified h source, ?_⟩
    rintro _ ⟨⟩
    rw [List.forall₂_map_right_iff, List.forall₂_same]
    exact fun record hmem => identified_withIdentifier (hrecords record hmem) source

/-- Null is passed on where no identifiers are copied. -/
theorem settles_missing (h : scope.get? name = some .null) (isList : Bool)
    (hstops : action.shape = .list ∨ action.kind = .create) :
    action.Settles .null ((action.mappedTree name isList).eval scope) := by
  rw [eval_mappedTree_null h]
  by_cases hid : action.idSource.isSome
  · rw [if_pos hid]
    exact StopsAtNull.settles ⟨hid, hstops⟩
  · rw [if_neg hid]
    refine Delivers.settles ⟨fun hkind => ?_, fun source _ hsource => ?_⟩ fun hnull => hid hnull.2.1
    · rcases hstops with hshape | hcreate
      · simp [Value.isArray, hshape]
      · rw [hcreate] at hkind
        cases hkind
    · simp [hsource] at hid

/-- A result that is a list settles alike for all kinds of actions. -/
theorem settles_list {type : TypeRef} {value : Value} (hshape : action.shape = .list)
    (hallows : Allows type .list value) (h : scope.get? name = some value) :
    action.Settles value ((action.resultTree name).eval scope) := by
  have htree : action.resultTree name = action.mappedTree name true := by
    rw [resultTree, hshape]
  rw [htree]
  cases hallows with
  | missing => exact settles_missing h true (.inl hshape)
  | records records hrecords =>
    obtain ⟨copies, heval, hcopies⟩ := action.eval_mappedTree_records hrecords h
    rw [heval]
    refine Delivers.settles ⟨fun _ => ?_, fun source found hsource hfound => ?_⟩
      fun ⟨hnull, _⟩ => nomatch hnull
    · simp [Value.isArray]
    · obtain rfl : records = found := Option.some.inj ((records?_array records).symm.trans hfound)
      exact ⟨copies, records?_array copies, hcopies source hsource⟩

/-- A single record, as it is for creations and in an array for triggers and searches. -/
theorem settles_record {record copy : Entries Value} {outcome : Value}
    (hcopy : ∀ source, action.idSource = some source → Identified source record copy)
    (hrecords : outcome.records? = some [copy]) (harray : action.kind.returnsList → outcome.isArray) :
    action.Settles (.record record) (.ok outcome) := by
  refine Delivers.settles ⟨fun hkind => ?_, fun source found hsource hfound => ?_⟩
    fun ⟨hnull, _⟩ => nomatch hnull
  · simp [harray hkind, Value.record]
  · obtain rfl : [record] = found := Option.some.inj ((records?_record record).symm.trans hfound)
    exact ⟨[copy], hrecords, .cons (hcopy source hsource) .nil⟩

/-- Triggers and searches ask whether there is a record. -/
theorem not_stopsAtNull_of_object (hshape : action.shape = .object) (hkind : action.kind.returnsList) :
    ¬ action.StopsAtNull := by
  rintro ⟨-, hlist | hcreate⟩
  · rw [hshape] at hlist
    cases hlist
  · rw [hcreate] at hkind
    cases hkind

/-- A single record settles as it is for creations, and behind a test for triggers and searches. -/
theorem settles_object {type : TypeRef} {value : Value} (hshape : action.shape = .object)
    (hallows : Allows type .object value) (h : scope.get? name = some value) :
    action.Settles value ((action.resultTree name).eval scope) := by
  cases hkind : action.kind.returnsList with
  | false =>
    have htree : action.resultTree name = action.mappedTree name false := by
      rw [resultTree, hshape, hkind]
    rw [htree]
    cases hallows with
    | missing => exact settles_missing h false (.inr (returnsList_eq_false_iff.1 hkind))
    | record record hrecord =>
      obtain ⟨copy, heval, hcopy⟩ := action.eval_mappedTree_record hrecord h
      rw [heval]
      exact settles_record hcopy rfl (by simp [hkind])
  | true =>
    have htree : action.resultTree name =
        .conditional (.variable name) (.array [action.mappedTree name false]) (.array []) := by
      rw [resultTree, hshape, hkind]
    rw [htree, Expression.eval, eval_variable h]
    cases hallows with
    | missing =>
      -- The test fails, so nothing is copied from what is not there.
      refine Delivers.settles ⟨fun _ => ?_, fun _ _ _ => nofun⟩ fun ⟨_, hstops⟩ =>
        not_stopsAtNull_of_object hshape hkind hstops
      simp [Value.isArray, hshape]
    | record record hrecord =>
      obtain ⟨copy, heval, hcopy⟩ := action.eval_mappedTree_record hrecord h
      show action.Settles _ ((Expression.array [action.mappedTree name false]).eval scope)
      rw [Expression.eval, evalItems, heval, evalItems]
      exact settles_record hcopy (records?_array [copy]) fun _ => rfl

/-- A scalar settles in any case, since no identifier is copied from it. -/
theorem settles_scalar {value : Value} (hshape : action.shape = .scalar) (hsource : action.idSource = none)
    (h : scope.get? name = some value) : action.Settles value ((action.resultTree name).eval scope) := by
  obtain ⟨found, hfound⟩ := exists_eval_single h action.key
  -- Without an identifier to copy, the action neither stops nor has records to account for.
  have hgoes : ¬ (value = .null ∧ action.StopsAtNull) := by
    rintro ⟨-, hsome, -⟩
    rw [hsource] at hsome
    cases hsome
  have hrecords : ∀ outcome source records, action.idSource = some source → value.records? = some records →
      ∃ copies, Value.records? outcome = some copies ∧ List.Forall₂ (Identified source) records copies := by
    intro outcome source records hsome
    rw [hsource] at hsome
    cases hsome
  rw [resultTree, hshape]
  cases hkind : action.kind.returnsList with
  | false =>
    show action.Settles value ((Expression.object [.named action.key (.variable name)]).eval scope)
    rw [hfound]
    exact Delivers.settles ⟨by simp [hkind], hrecords _⟩ hgoes
  | true =>
    show action.Settles value ((Expression.array [.object [.named action.key (.variable name)]]).eval scope)
    rw [Expression.eval, evalItems, hfound, evalItems]
    exact Delivers.settles ⟨fun _ => by simp [Value.isArray, hshape], hrecords _⟩ hgoes

/-- The tree of an action's result stops at null where identifiers would be copied from it, and delivers
everywhere else. -/
theorem settles_resultTree {type : TypeRef} {value : Value}
    (hscalar : action.shape = .scalar → action.idSource = none)
    (hallows : Allows type action.shape value) (h : scope.get? name = some value) :
    action.Settles value ((action.resultTree name).eval scope) := by
  cases hshape : action.shape with
  | list => exact settles_list hshape (hshape ▸ hallows) h
  | object => exact settles_object hshape (hshape ▸ hallows) h
  | scalar => exact settles_scalar hshape (hscalar hshape) h

end Action

namespace Context

open Script

variable (context : Context)

/-- What generation knows of the source of an identifier: it is a slot of the result. -/
theorem exists_slot_of_generate {kind : ActionKind} {operation : String} {root : FieldDef}
    (hfault : context.generationFault? operation root = none) {source : String}
    (hsource : (context.actionOf kind operation root).idSource = some source) :
    ∃ slot ∈ context.declaredSlots root.type, slot.name = source := by
  obtain ⟨-, hfields, -⟩ : context.useFault? root.type operation = none ∧
      context.fieldsFault? operation root = none ∧ context.samplesFault? root = none := by
    simpa [generationFault?] using hfault
  have hid : context.idFault? root.type = none :=
    (Option.or_eq_none_iff.1 (Option.or_eq_none_iff.1 hfields).2).2
  exact context.exists_slot_of_idSource hsource hid

/-- Actions that are generated for well-named schemas are well-spelled. -/
theorem wellSpelled_of_generate (hnames : context.schema.WellNamed) {kind : ActionKind} {operation : String}
    {action : Action} (h : context.generate kind operation = .ok action) : action.WellSpelled := by
  obtain ⟨root, hroot, hfault, rfl⟩ := (context.generate_eq_ok_iff kind operation action).1 h
  have hfound := ((context.rootFor_eq_ok_iff kind operation root).1 hroot).1
  -- Keys are names of fields, and the sources of identifiers are slots of the result.
  constructor
  · intro _
    exact Schema.name_of_operation? hfound ▸ (Schema.isName_of_operation? hnames hfound).1
  · intro source hsource
    obtain ⟨slot, hslot, rfl⟩ := context.exists_slot_of_generate hfault hsource
    exact context.isName_of_mem_resultSlots hnames (mem_arrange.2 hslot)

/-- The result expression of a generated action settles for all that the response may hold: it stops at null
where identifiers are to be copied from it, and delivers everything else. -/
theorem generate_result {kind : ActionKind} {operation : String} {action : Action}
    (h : context.generate kind operation = .ok action) (hspelled : action.WellSpelled) :
    ∃ root, context.schema.operation? kind.operationKind operation = some root ∧
      ∀ value, Allows root.type action.shape value →
        action.Settles value (evaluate (action.resultExpression "result") [("result", value)]) := by
  obtain ⟨root, hroot, hfault, rfl⟩ := (context.generate_eq_ok_iff kind operation action).1 h
  refine ⟨root, ((context.rootFor_eq_ok_iff kind operation root).1 hroot).1, fun value hallows => ?_⟩
  have huse : context.useFault? root.type operation = none := (Option.or_eq_none_iff.1 hfault).1
  have hscalar : (context.actionOf kind operation root).shape = .scalar →
      (context.actionOf kind operation root).idSource = none := by
    intro hshape
    by_contra hsome
    obtain ⟨source, hsource⟩ := Option.ne_none_iff_exists'.1 hsome
    obtain ⟨slot, hslot, -⟩ := context.exists_slot_of_generate hfault hsource
    exact context.shape_ne_scalar_of_mem_declaredSlots huse hslot hshape
  rw [evaluate, Action.read_resultExpression hspelled (by decide) (by decide)]
  exact Action.settles_resultTree hscalar hallows rfl

/-- A list of users that may be missing. -/
def usersField : FieldDef :=
  { name := "users", description := none, type := .list (.named "User"), arguments := [] }

/-- A schema with users, who are identified by another member than `id`. -/
def accounts : Context :=
  let user : NamedType :=
    ⟨"User", none, .object [⟨"id", none, .named "Int", []⟩, ⟨"uuid", none, .named "String", []⟩]⟩
  let query : NamedType := ⟨"Query", none, .object [usersField]⟩
  { schema :=
      { queryRoot := "Query"
        mutationRoot := none
        types := [query, user].foldl TypeTable.insert TypeTable.builtin }
    settings := { Settings.default with idSources := [("User", "uuid")] } }

/-- The trigger for users maps over its result, to copy the identifiers. -/
theorem generate_accounts : ∃ action, accounts.generate .trigger "users" = .ok action ∧
    action.idSource = some "uuid" ∧ action.shape = .list ∧
      action.resultExpression "result" = "result.map((item) => (\x7b ...item, id: item.uuid \x7d))" := by
  have hok : (accounts.generate .trigger "users").map (fun action =>
      (action.idSource, action.shape, action.resultExpression "result")) =
      .ok (some "uuid", .list, "result.map((item) => (\x7b ...item, id: item.uuid \x7d))") := by
    decide +kernel
  obtain ⟨action, hgenerate, hfound⟩ := exists_of_map_eq_ok hok
  simp only [Prod.mk.injEq] at hfound
  exact ⟨action, hgenerate, hfound⟩

/-- A user whose members `id` and `uuid` differ. -/
def user : Entries Value := [("id", .number (.integer 7)), ("uuid", .text "u7")]

/-- The trigger for users gives a user with the new identifier, and stops when there is no list. -/
theorem generate_result_users : ∃ action, accounts.generate .trigger "users" = .ok action ∧
    action.Settles (.array [.record user])
      (evaluate (action.resultExpression "result") [("result", .array [.record user])]) ∧
    action.Settles .null (evaluate (action.resultExpression "result") [("result", .null)]) := by
  obtain ⟨action, hgenerate, -, hshape, -⟩ := generate_accounts
  obtain ⟨root, hroot, hsettles⟩ := generate_result accounts hgenerate
    (accounts.wellSpelled_of_generate (by decide +kernel) hgenerate)
  have hfound : accounts.schema.operation? .query "users" = some usersField := by decide +kernel
  obtain rfl : usersField = root := Option.some.inj (hfound.symm.trans hroot)
  rw [hshape] at hsettles
  refine ⟨action, hgenerate, hsettles _ (.records [user] ?_), hsettles _ (.missing .list rfl)⟩
  exact List.forall_mem_singleton.2 (by decide)

/-- The type of the users allows null, for which the trigger stops with a type error. -/
theorem typeError_of_missing_users : ∃ action, accounts.schema.WellNamed ∧
    accounts.generate .trigger "users" = .ok action ∧
    accounts.schema.operation? .query "users" = some usersField ∧
    Allows usersField.type action.shape .null ∧
    evaluate (action.resultExpression "result") [("result", .null)] = .error .typeError := by
  obtain ⟨action, hgenerate, -, hshape, htext⟩ := generate_accounts
  refine ⟨action, by decide +kernel, hgenerate, by decide +kernel, ?_, ?_⟩
  · rw [hshape]
    exact .missing .list rfl
  · have htokens : scan [] "result.map((item) => (\x7b ...item, id: item.uuid \x7d))".toList =
        some [.name "result", .mark '.', .name "map", .mark '(', .mark '(', .name "item", .mark ')', .arrow,
          .mark '(', .mark '\x7b', .spread, .name "item", .mark ',', .name "id", .mark ':', .name "item",
          .mark '.', .name "uuid", .mark '\x7d', .mark ')', .mark ')'] := by decide +kernel
    rw [htext, evaluate, Script.read, htokens]
    rfl

end Context

end ActionForge
