import ActionForge.Proofs.Document.Paths
import ActionForge.Proofs.Json.Reading
import ActionForge.Script

/-!
# Test bundles

The bundle of a test is the configured one with the sample of the form below what is configured in its
`inputData`. Its members stand where they are configured, and a configured value comes before a sampled one,
while sampled names come before the other configured ones (`testBundle_merges`). A record of the sample
gives way as a whole to what is configured under its key. So what a document reads is in the bundle, unless a
key is configured that is the key of a field with children.
-/

namespace ActionForge

/-! ## Paths in JSON -/

/-- The value at the end of a path of members. -/
def Json.follow : Json → List String → Option Json
  | value, [] => some value
  | value, name :: path => (value.member? name).bind fun inner => inner.follow path

/-- A path in an object goes on in the member that it names first. -/
theorem Json.follow_object (members : Entries Json) (name : String) (path : List String) :
    (Json.object members).follow (name :: path) = (members.get? name).bind fun inner => inner.follow path :=
  rfl

/-! ## Sample data as JSON -/

/-- Sample data has the same names as JSON. -/
theorem keys_sampleMembers (time : String) (data : SampleData) :
    Entries.keys (sampleMembers time data) = data.keys := by
  induction data with
  | nil => rfl
  | cons entry rest ih =>
    obtain ⟨key, value⟩ := entry
    rw [sampleMembers, Entries.keys, List.map_cons, ← Entries.keys, ih]
    rfl

/-- A path from a field starts with its key, and goes no further from a leaf. -/
theorem exists_cons_of_mem_keyPaths {field : InputField} {path : List String} (h : path ∈ field.keyPaths) :
    ∃ rest, path = field.key :: rest ∧ (field.children = [] → rest = []) := by
  match field, h with
  | ⟨spec, []⟩, h => exact ⟨[], by simpa [InputField.keyPaths] using h, fun _ => rfl⟩
  | ⟨spec, child :: others⟩, h =>
    rw [InputField.keyPaths] at h
    obtain ⟨rest, -, rfl⟩ := List.mem_map.1 h
    exact ⟨rest, rfl, fun hnil => by cases hnil⟩

/-- A path from a form is a path from one of its fields. -/
theorem exists_of_mem_keyPathsOf {fields : List InputField} {path : List String}
    (h : path ∈ keyPathsOf fields) : ∃ field ∈ fields, path ∈ field.keyPaths := by
  induction fields with
  | nil => cases h
  | cons field rest ih =>
    rw [keyPathsOf, List.mem_append] at h
    rcases h with h | h
    · exact ⟨field, List.mem_cons_self, h⟩
    · obtain ⟨other, hother, hpath⟩ := ih h
      exact ⟨other, List.mem_cons_of_mem field hother, hpath⟩

namespace SampleRules

variable (rules : SampleRules) (time : String)

mutual

/-- The paths of a field lead to values in its sample. -/
theorem follow_fieldValue : ∀ {field : InputField} {value : SampleValue} {path : List String},
    field.Regular → rules.fieldValue? field = some value → field.key :: path ∈ field.keyPaths →
    ((value.toJson time).follow path).isSome
  | ⟨spec, []⟩, value, path, _, _, hpath => by
    obtain rfl : path = [] := by simpa [InputField.keyPaths] using hpath
    rfl
  | ⟨spec, child :: rest⟩, value, path, h, hvalue, hpath => by
    rw [fieldValue?, Option.some.injEq] at hvalue
    subst hvalue
    have hall : AllRegular (child :: rest) := ⟨h.2.1, h.2.2⟩
    have hpairs := rules.ofList_pairsOf hall h.1
    rw [pairsOf] at hpairs
    have hmem : path ∈ keyPathsOf (child :: rest) := by
      rw [InputField.keyPaths] at hpath
      obtain ⟨inner, hinner, heq⟩ := List.mem_map.1 hpath
      obtain ⟨-, rfl⟩ := List.cons.inj heq
      rwa [keyPathsOf]
    have hfollow := follow_pairsOf hall h.1 hmem
    rw [pairsOf] at hfollow
    rw [hpairs, SampleValue.toJson]
    exact hfollow

/-- The paths of regular fields with distinct keys lead to values in their samples. -/
theorem follow_pairsOf : ∀ {fields : List InputField} {path : List String}, AllRegular fields →
    (fields.map fun field => field.key).Nodup → path ∈ keyPathsOf fields →
    ((Json.object (sampleMembers time (rules.pairsOf fields))).follow path).isSome
  | [], path, _, _, hpath => by cases hpath
  | field :: rest, path, h, hkeys, hpath => by
    obtain ⟨value, hvalue⟩ := rules.isSome_fieldValue? h.1
    obtain ⟨hkey, hrest⟩ := List.nodup_cons.1 hkeys
    have hmembers : sampleMembers time (rules.pairsOf (field :: rest)) =
        (field.key, value.toJson time) :: sampleMembers time (rules.pairsOf rest) := by
      rw [pairsOf, hvalue]
      rfl
    rw [keyPathsOf, List.mem_append] at hpath
    rw [hmembers]
    rcases hpath with hpath | hpath
    · obtain ⟨inner, rfl, -⟩ := exists_cons_of_mem_keyPaths hpath
      rw [Json.follow_object, Entries.get?, if_pos rfl]
      exact follow_fieldValue h.1 hvalue hpath
    · -- the path starts with the key of another field, so the first member is passed over
      obtain ⟨other, hother, hinner⟩ := exists_of_mem_keyPathsOf hpath
      obtain ⟨inner, rfl, -⟩ := exists_cons_of_mem_keyPaths hinner
      have hne : field.key ≠ other.key := fun heq =>
        hkey (List.mem_map.2 ⟨other, hother, heq.symm⟩)
      rw [Json.follow_object, Entries.get?, if_neg hne, ← Json.follow_object]
      exact follow_pairsOf h.2 hrest hpath

end

end SampleRules

/-! ## Bundles -/

/-- What is configured in the `inputData` of the bundle; nothing when that is no object. -/
def Settings.givenInputs (settings : Settings) : Entries Json :=
  match settings.testBundle.member? "inputData" with
  | some (.object given) => given
  | _ => []

namespace Action

variable {action : Action} {settings : Settings} {time : String} {members : Entries Json}

/-- What is configured in `inputData` has distinct names, like every object that is read. -/
theorem distinct_givenInputs (h : settings.testBundle.WellFormed) : settings.givenInputs.Distinct := by
  rw [Settings.givenInputs]
  split
  · rename_i given hgiven
    cases hbundle : settings.testBundle with
    | object members =>
      rw [hbundle] at h hgiven
      have hmem := (Entries.get?_eq_some_iff h.1 _ _).1 hgiven
      exact (Json.membersWellFormed_iff.1 h.2 _ hmem).1
    | _ =>
      rw [hbundle] at hgiven
      cases hgiven
  · exact List.nodup_nil

/-- The `inputData` of the bundle is the sample with what is configured put into it. -/
theorem testBundle_eq (h : settings.testBundle = .object members) :
    action.testBundle settings time = .object (Entries.put members "inputData"
      (.object (Entries.putAll (sampleMembers time action.inputSample) settings.givenInputs))) := by
  simp only [testBundle, Settings.givenInputs, h]
  cases (Json.object members).member? "inputData" with
  | none => rfl
  | some value => cases value <;> rfl

/-- Settings without a defect have an object for a test bundle. -/
theorem exists_object_of_defect?_eq_none (h : settings.defect? = none) :
    ∃ configured : Entries Json, settings.testBundle = .object configured := by
  have hobject : settings.testBundle.isObject := by
    rw [Settings.defect?] at h
    split at h
    · cases h
    · split at h
      · cases h
      · cases h
      · split at h
        · assumption
        · cases h
  cases hbundle : settings.testBundle with
  | object configured => exact ⟨configured, rfl⟩
  | _ =>
    rw [hbundle] at hobject
    cases hobject

/-- An object under `inputData` is what is configured there. -/
theorem givenInputs_of_member? {given : Entries Json}
    (h : settings.testBundle.member? "inputData" = some (.object given)) : settings.givenInputs = given := by
  rw [Settings.givenInputs, h]

/-- Nothing is configured in an `inputData` that is no object. -/
theorem givenInputs_of_ne (h : ∀ given, settings.testBundle.member? "inputData" ≠ some (.object given)) :
    settings.givenInputs = [] := by
  rw [Settings.givenInputs]
  split
  · rename_i given hgiven
    exact absurd hgiven (h given)
  · rfl

/-- A name that no path in the bundle leads to is not configured. -/
theorem get?_givenInputs {name : String} (h : settings.testBundle.follow ["inputData", name] = none) :
    settings.givenInputs.get? name = none := by
  rw [Settings.givenInputs]
  split
  · rename_i given hgiven
    rw [Json.follow, hgiven, Option.bind_some, Json.follow_object] at h
    cases hvalue : Entries.get? given name with
    | none => rfl
    | some value =>
      rw [hvalue] at h
      cases h
  · rfl

/-- A path of the sample leads to something in what is laid over it, if the value that it goes through at
first is not configured. -/
theorem follow_overlaid {sample given inputs : Entries Json} (h : Entries.Overlaid sample given inputs)
    {name : String} {path : List String} (hsample : ((Json.object sample).follow (name :: path)).isSome)
    (hgiven : path ≠ [] → given.get? name = none) :
    ((Json.object inputs).follow (name :: path)).isSome := by
  rw [Json.follow_object] at hsample ⊢
  rw [h.values]
  -- A path of one name ends in the value, wherever that comes from; a longer one goes on inside the sample.
  cases path with
  | nil =>
    cases given.get? name with
    | some value => rfl
    | none => exact hsample
  | cons next path =>
    rw [hgiven (List.cons_ne_nil next path)]
    exact hsample

/-- The sample of a generated action has what its document reads. -/
theorem follow_inputSample {context : Context} (hnames : context.schema.WellNamed) {kind : ActionKind}
    {operation : String}
    (hdistinct : ∀ root, context.schema.operation? kind.operationKind operation = some root →
      (root.arguments.map Member.name).Nodup)
    (h : context.generate kind operation = .ok action) {path : List String}
    (hpath : path ∈ Template.inputPaths action.document) :
    path ∈ keyPathsOf action.inputs ∧
      ((Json.object (sampleMembers time action.inputSample)).follow path).isSome := by
  obtain ⟨root, hroot, rfl⟩ := context.exists_root_of_generate h
  obtain ⟨hregular, hnodup⟩ := context.regular_shownInputs (hdistinct root hroot)
  rw [Context.actionOf, Operation.inputPaths_text (context.wellNamed_operationOf hnames hroot),
    context.arguments_operationOf hnames hroot, argumentPaths_formItems] at hpath
  refine ⟨hpath, ?_⟩
  rw [Context.actionOf, context.settings.samples.ofList_pairsOf hregular hnodup]
  exact context.settings.samples.follow_pairsOf time hregular hnodup hpath

/-- Merging the bundle of a test. In the configured bundle, of which only `inputData` may change or be added at
the end, that member is the sample with what is configured in it laid over, or the sample alone when no object
is configured in it. Merging once more changes nothing. For a generated action whose arguments have distinct
names, a path that the document reads leads to something in `inputData`, unless the path goes through a field
with children whose key is configured. -/
theorem testBundle_merges (hsettings : settings.defect? = none) (hformed : settings.testBundle.WellFormed)
    (hsample : action.inputSample.Distinct) (time : String) :
    ∃ configured inputs bundle : Entries Json,
      settings.testBundle = .object configured ∧ action.testBundle settings time = .object bundle ∧
      Entries.Overlaid configured [("inputData", .object inputs)] bundle ∧
      (∀ given, configured.get? "inputData" = some (.object given) →
        Entries.Overlaid (sampleMembers time action.inputSample) given inputs) ∧
      ((∀ given, configured.get? "inputData" ≠ some (.object given)) →
        inputs = sampleMembers time action.inputSample) ∧
      action.testBundle { settings with testBundle := action.testBundle settings time } time =
        action.testBundle settings time ∧
      ∀ (context : Context) (kind : ActionKind) (operation : String), context.schema.WellNamed →
        (∀ root, context.schema.operation? kind.operationKind operation = some root →
          (root.arguments.map Member.name).Nodup) →
        context.generate kind operation = .ok action →
        ∀ path ∈ Template.inputPaths action.document,
          (∀ field ∈ action.inputs, field.children ≠ [] → path.head? = some field.key →
            settings.testBundle.follow ["inputData", field.key] = none) →
          ((action.testBundle settings time).follow ("inputData" :: path)).isSome := by
  obtain ⟨configured, hconfigured⟩ := exists_object_of_defect?_eq_none hsettings
  have hdistinct : configured.Distinct := by
    rw [hconfigured] at hformed
    exact hformed.1
  have hsampled : Entries.Distinct (sampleMembers time action.inputSample) := by
    rwa [Entries.Distinct, keys_sampleMembers]
  have hinputs := Entries.overlaid_putAll hsampled (distinct_givenInputs hformed)
  have hbundle := @testBundle_eq action settings time configured hconfigured
  generalize hmerged : Entries.putAll (sampleMembers time action.inputSample) settings.givenInputs = inputs
    at hinputs hbundle
  have hone : Entries.Distinct [("inputData", Json.object inputs)] := List.nodup_singleton "inputData"
  have houter : Entries.Overlaid configured [("inputData", .object inputs)]
      (Entries.put configured "inputData" (.object inputs)) := Entries.overlaid_putAll hdistinct hone
  have hmember : settings.testBundle.member? "inputData" = configured.get? "inputData" := by
    rw [hconfigured, Json.member?]
  have hget : Entries.get? (Entries.put configured "inputData" (.object inputs)) "inputData" =
      some (.object inputs) := houter.values "inputData"
  refine ⟨configured, inputs, _, hconfigured, hbundle, houter, fun given hgiven => ?_, fun hnone => ?_,
    ?_, ?_⟩
  · rwa [givenInputs_of_member? (hmember.trans hgiven)] at hinputs
  · rw [← hmerged, givenInputs_of_ne (hmember ▸ hnone), Entries.putAll_nil]
  · -- the second merge puts the sample below itself and `inputData` where it already is
    rw [hbundle]
    generalize Entries.put configured "inputData" (.object inputs) = bundle at houter hget ⊢
    have hgiven : Settings.givenInputs { settings with testBundle := .object bundle } = inputs :=
      givenInputs_of_member? hget
    have hsame : Entries.putAll (sampleMembers time action.inputSample) inputs = inputs :=
      (Entries.overlaid_putAll hsampled hinputs.distinct).unique hinputs.again
    have hput : bundle.put "inputData" (.object inputs) = bundle :=
      (Entries.overlaid_putAll houter.distinct hone).unique houter.absorb
    rw [testBundle_eq rfl, hgiven, hsame, hput]
  · intro context kind operation hnames harguments hgenerate path hpath hgiven
    obtain ⟨hkeys, hfollow⟩ := @follow_inputSample _ time _ hnames _ _ harguments hgenerate path hpath
    obtain ⟨field, hfield, hpath⟩ := exists_of_mem_keyPathsOf hkeys
    obtain ⟨rest, rfl, hleaf⟩ := exists_cons_of_mem_keyPaths hpath
    rw [hbundle, Json.follow_object, hget, Option.bind_some]
    refine follow_overlaid hinputs hfollow fun hrest => get?_givenInputs ?_
    exact hgiven field hfield (fun hchildren => hrest (hleaf hchildren)) rfl

end Action

/-! ## A bundle with a record in its sample -/

namespace Context

variable {context : Context} {kind : ActionKind} {operation : String} {action : Action}

/-- Sample data of a generated action is a map. -/
theorem distinct_inputSample (h : context.generate kind operation = .ok action) :
    action.inputSample.Distinct := by
  obtain ⟨root, -, rfl⟩ := context.exists_root_of_generate h
  exact Entries.distinct_ofList _

/-- Books by a filter and a number of books, so that the filter has a place of its own in the form. -/
def pagedField : FieldDef :=
  { booksField with
    arguments := [⟨"first", none, .named "Int"⟩, ⟨"filter", none, .nonNull (.named "Filter")⟩] }

/-- A bundle with a number of books in it, but no filter. -/
def pagedSettings : Settings :=
  { Settings.default with
    testBundle := .object [("note", .null),
      ("inputData", .object [("other", .bool true), ("first", .integer 7)]), ("authData", .object [])] }

/-- Books that are searched for page by page. -/
def paged : Context :=
  ⟨{ librarySchema with types := librarySchema.types.insert ⟨"Query", none, .object [pagedField]⟩ },
    pagedSettings⟩

/-- In the bundle for a page of books, configured members keep their places, and the sampled filter comes before
what is configured for it. -/
theorem testBundle_merges_paged : ∃ action, paged.generate .search "books" = .ok action ∧
    ∃ inputs bundle : Entries Json, action.testBundle pagedSettings "now" = .object bundle ∧
      bundle.keys = ["note", "inputData", "authData"] ∧ inputs.keys = ["filter", "first", "other"] ∧
      ∀ path ∈ Template.inputPaths action.document,
        ((action.testBundle pagedSettings "now").follow ("inputData" :: path)).isSome := by
  have hok : (paged.generate .search "books").isOk := by decide +kernel
  have hroot : paged.schema.operation? .query "books" = some pagedField := by decide +kernel
  have hfield : ∀ {root}, paged.schema.operation? .query "books" = some root → pagedField = root :=
    fun h => Option.some.inj (hroot.symm.trans h)
  cases h : paged.generate .search "books" with
  | error e =>
    rw [h] at hok
    cases hok
  | ok action =>
    obtain ⟨configured, inputs, bundle, hconfigured, hbundle, houter, hinner, -, -, hpaths⟩ :=
      Action.testBundle_merges (show pagedSettings.defect? = none by decide +kernel)
        ⟨by decide, trivial, ⟨by decide, trivial, trivial, trivial⟩, ⟨by decide, trivial⟩, trivial⟩
        (distinct_inputSample h) "now"
    obtain ⟨root, hfound, rfl⟩ := paged.exists_root_of_generate h
    obtain rfl := hfield hfound
    obtain rfl := Json.object.inj hconfigured
    refine ⟨_, rfl, inputs, bundle, hbundle, houter.keys.trans rfl, ?_, ?_⟩
    · rw [(hinner _ rfl).keys, keys_sampleMembers]
      decide +kernel
    · have hunconfigured : ∀ field ∈ (paged.actionOf .search "books" pagedField).inputs,
          field.children.isEmpty ∨ (pagedSettings.testBundle.follow ["inputData", field.key]).isNone := by
        decide +kernel
      have harguments : ∀ root, paged.schema.operation? .query "books" = some root →
          (root.arguments.map Member.name).Nodup := by
        intro root hroot
        obtain rfl := hfield hroot
        decide
      intro path hpath
      refine hpaths paged .search "books" (by decide +kernel) harguments h path hpath ?_
      intro field hfield hchildren _
      rcases hunconfigured field hfield with hnil | hnone
      · exact absurd (List.isEmpty_iff.1 hnil) hchildren
      · exact Option.isNone_iff_eq_none.1 hnone

end Context

end ActionForge
