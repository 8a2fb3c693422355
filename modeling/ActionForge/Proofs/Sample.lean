import ActionForge.Proofs.Checked
import ActionForge.Proofs.Entries
import ActionForge.Sample

/-!
# Sample data and the forms it is made for

Making up sample data fails for the first leaf of the form that no rule and no type gives a value for,
and otherwise gives data of the shape of the form. The main statement is `recordPaths_pairsOf`: where
keys are distinct among siblings, the paths of the data are the key paths of the form.
-/

namespace ActionForge

/-! ## Single values -/

namespace SampleRules

variable (rules : SampleRules)

/-- Whether a value can be found: a choice, a rule that applies, or a type that suggests one. -/
def HasSample (key : String) (type : FieldType) (choices : List String) : Prop :=
  choices ≠ [] ∨ rules.find? (Text.lowercase key).toList ≠ none ∨ (type ≠ .file ∧ type ≠ .copy)

/-- What is wrong with a leaf that has no sample value. -/
def fault? (key : String) (type : FieldType) (choices : List String) : Option ActionError :=
  match choices, rules.find? (Text.lowercase key).toList, type with
  | [], none, .file | [], none, .copy => some (.noSample key type)
  | _, _, _ => none

/-- The sample value of a leaf that has one. -/
def valueOf (key : String) (type : FieldType) (choices : List String) : SampleValue :=
  match choices, rules.find? (Text.lowercase key).toList with
  | choice :: _, _ => .text choice
  | [], some value => .given value
  | [], none =>
    match typeSample key type with
    | .ok value => value
    | .error _ => .now

/-- A leaf without a fault is one that a value can be found for. -/
theorem fault?_eq_none_iff (key : String) (type : FieldType) (choices : List String) :
    rules.fault? key type choices = none ↔ rules.HasSample key type choices := by
  unfold fault? HasSample
  cases choices with
  | cons choice others => simp
  | nil =>
    cases rules.find? (Text.lowercase key).toList with
    | some value => simp
    | none => cases type <;> simp

/-- A leaf has no other fault than that no value is found for it. -/
theorem eq_noSample_of_fault? {key : String} {type : FieldType} {choices : List String}
    {e : ActionError} (h : rules.fault? key type choices = some e) : e = .noSample key type := by
  unfold fault? at h
  split at h <;> simp_all

/-- A sample value is that of the leaf, checked for the fault of the leaf. -/
theorem sampleValue_eq (key : String) (type : FieldType) (choices : List String) :
    sampleValue rules key type choices =
      checked (rules.fault? key type choices) (rules.valueOf key type choices) := by
  unfold sampleValue fault? valueOf
  cases choices with
  | cons choice others => rfl
  | nil =>
    cases rules.find? (Text.lowercase key).toList with
    | some value => rfl
    | none => cases type <;> rfl

/-- What is wrong with the sample of a leaf; a leaf without a type has none and needs none. -/
def leafFault? (leaf : InputSpec) : Option ActionError :=
  leaf.type.bind fun type => rules.fault? leaf.key type leaf.choices

/-- What is wrong with the sample of an output field. -/
def outputFault? (field : OutputField) : Option ActionError :=
  rules.fault? field.key field.type []

end SampleRules

/-! ## Forms as trees -/

mutual

/-- The leaves at or below a field. -/
def InputField.leaves : InputField → List InputSpec
  | ⟨spec, []⟩ => [spec]
  | ⟨_, child :: rest⟩ => child.leaves ++ leavesOf rest

/-- The leaves of a form. -/
def leavesOf : List InputField → List InputSpec
  | [] => []
  | field :: rest => field.leaves ++ leavesOf rest

end

mutual

/-- The key paths from a field to the leaves at or below it. -/
def InputField.keyPaths : InputField → List (List String)
  | ⟨spec, []⟩ => [[spec.key]]
  | ⟨spec, child :: rest⟩ => (child.keyPaths ++ keyPathsOf rest).map (spec.key :: ·)

/-- The key paths to the leaves of a form. -/
def keyPathsOf : List InputField → List (List String)
  | [] => []
  | field :: rest => field.keyPaths ++ keyPathsOf rest

end

mutual

/-- Every leaf at or below a field has a type, and no two siblings below it have one key. -/
def InputField.Regular : InputField → Prop
  | ⟨spec, []⟩ => spec.type.isSome
  | ⟨_, child :: rest⟩ =>
    ((child :: rest).map fun field => field.key).Nodup ∧ child.Regular ∧ AllRegular rest

/-- Every field is regular. -/
def AllRegular : List InputField → Prop
  | [] => True
  | field :: rest => field.Regular ∧ AllRegular rest

end

/-- A form is regular field by field. -/
theorem allRegular_iff {fields : List InputField} :
    AllRegular fields ↔ ∀ field ∈ fields, field.Regular := by
  induction fields with
  | nil => simp [AllRegular]
  | cons field rest ih => simp [AllRegular, ih]

/-- The paths of a field with children go through its key, however many children there are. -/
theorem keyPaths_of_children {spec : InputSpec} {children : List InputField} (h : children ≠ []) :
    InputField.keyPaths ⟨spec, children⟩ = (keyPathsOf children).map (spec.key :: ·) := by
  cases children with
  | nil => exact absurd rfl h
  | cons child rest => rw [InputField.keyPaths, keyPathsOf]

/-- A field with children is regular when these are, and are named apart. -/
theorem regular_of_children {spec : InputSpec} {children : List InputField} (h : children ≠ [])
    (hkeys : (children.map fun field => field.key).Nodup) (hall : AllRegular children) :
    InputField.Regular ⟨spec, children⟩ := by
  cases children with
  | nil => exact absurd rfl h
  | cons child rest => exact ⟨hkeys, hall⟩

/-! ## Data as trees -/

mutual

/-- The paths to the leaves of a value. Only records are gone into. -/
def SampleValue.paths : SampleValue → List (List String)
  | .record members => recordPaths members
  | _ => [[]]

/-- The paths to the leaves of the members. -/
def recordPaths : List (String × SampleValue) → List (List String)
  | [] => []
  | (key, value) :: rest => value.paths.map (key :: ·) ++ recordPaths rest

end

/-- The paths of two records put together are those of the first and then those of the second. -/
theorem recordPaths_append (first second : List (String × SampleValue)) :
    recordPaths (first ++ second) = recordPaths first ++ recordPaths second := by
  induction first with
  | nil => rfl
  | cons pair rest ih =>
    obtain ⟨key, value⟩ := pair
    rw [List.cons_append, recordPaths, recordPaths, ih, List.append_assoc]

namespace SampleRules

variable (rules : SampleRules)

/-- A field's value under its key. -/
def pairOf (field : InputField) (value : Option SampleValue) : List (String × SampleValue) :=
  (value.map fun value => (field.key, value)).toList

mutual

/-- The sample value of a field whose leaves have samples. -/
def fieldValue? : InputField → Option SampleValue
  | ⟨spec, []⟩ => spec.type.map fun type => rules.valueOf spec.key type spec.choices
  | ⟨_, child :: rest⟩ =>
    some (.record (Entries.ofList (pairOf child (fieldValue? child) ++ pairsOf rest)))

/-- The sample values of fields under their keys. -/
def pairsOf : List InputField → List (String × SampleValue)
  | [] => []
  | field :: rest => pairOf field (fieldValue? field) ++ pairsOf rest

end

mutual

/-- Samples of a field fail for its first leaf without a value. -/
theorem fieldSample_eq : ∀ field : InputField,
    fieldSample rules field =
      checked (field.leaves.findSome? rules.leafFault?) (rules.fieldValue? field)
  | ⟨spec, []⟩ => by
    rw [fieldSample, InputField.leaves, fieldValue?]
    cases htype : spec.type with
    | none => simp [leafFault?, htype]
    | some type =>
      have hfault : [spec].findSome? rules.leafFault? = rules.fault? spec.key type spec.choices := by
        have hleaf : rules.leafFault? spec = rules.fault? spec.key type spec.choices := by
          rw [leafFault?, htype, Option.bind_some]
        cases h : rules.fault? spec.key type spec.choices <;> simp [hleaf, h]
      simp only [hfault, sampleValue_eq, map_checked, Option.map_some]
  | ⟨spec, child :: rest⟩ => by
    -- The first child is sampled before its siblings, so its faults come first.
    rw [fieldSample, fieldSample_eq child, samplePairs_eq rest, InputField.leaves, fieldValue?,
      List.findSome?_append]
    refine checked_bind_eq ((checked_bind_pure _ _ _).trans ?_)
    cases rules.fieldValue? child <;> rfl

/-- Samples fail for the first leaf without a value. -/
theorem samplePairs_eq : ∀ fields : List InputField,
    samplePairs rules fields =
      checked ((leavesOf fields).findSome? rules.leafFault?) (rules.pairsOf fields)
  | [] => rfl
  | field :: rest => by
    rw [samplePairs, fieldSample_eq field, samplePairs_eq rest, leavesOf, pairsOf,
      List.findSome?_append]
    refine checked_bind_eq ((checked_bind_pure _ _ _).trans ?_)
    cases rules.fieldValue? field <;> rfl

end

/-- Sample data of a form fails for the first leaf without a value, and is otherwise the record of the values.
-/
theorem sampleInputs_eq (fields : List InputField) :
    sampleInputs rules fields =
      checked ((leavesOf fields).findSome? rules.leafFault?)
        (Entries.ofList (rules.pairsOf fields)) := by
  rw [sampleInputs, samplePairs_eq]
  exact checked_bind_pure _ _ _

/-- Sample data of a result fails for the first field without a value, and is otherwise their record. -/
theorem sampleOutputs_eq (fields : List OutputField) :
    sampleOutputs rules fields =
      checked (fields.findSome? rules.outputFault?)
        (Entries.ofList (fields.map fun field =>
          (field.key, rules.valueOf field.key field.type []))) := by
  have hfield : ∀ field, outputSample rules field =
      checked (rules.outputFault? field) (field.key, rules.valueOf field.key field.type []) := by
    intro field
    rw [outputSample, sampleValue_eq]
    exact checked_bind_pure _ _ _
  rw [sampleOutputs, mapM_checked hfield]
  exact checked_bind_pure _ _ _

/-! ## Paths of samples -/

/-- A regular field has a value, for its leaf has a type. -/
theorem isSome_fieldValue? {field : InputField} (h : field.Regular) :
    ∃ value, rules.fieldValue? field = some value := by
  match field, h with
  | ⟨spec, []⟩, h =>
    obtain ⟨type, htype⟩ := Option.isSome_iff_exists.1 h
    exact ⟨_, by rw [fieldValue?, htype, Option.map_some]⟩
  | ⟨spec, child :: rest⟩, _ => exact ⟨_, by rw [fieldValue?]⟩

/-- Every field of a regular form leaves one pair, under its own key. -/
theorem map_fst_pairsOf {fields : List InputField} (h : AllRegular fields) :
    (rules.pairsOf fields).map Prod.fst = fields.map fun field => field.key := by
  induction fields with
  | nil => rfl
  | cons field rest ih =>
    obtain ⟨value, hvalue⟩ := rules.isSome_fieldValue? h.1
    rw [pairsOf, hvalue, pairOf, List.map_append, ih h.2]
    rfl

/-- Regular fields lose no pair to another of the same key. -/
theorem ofList_pairsOf {fields : List InputField} (h : AllRegular fields)
    (hkeys : (fields.map fun field => field.key).Nodup) :
    Entries.ofList (rules.pairsOf fields) = rules.pairsOf fields :=
  Entries.ofList_of_nodup (by rwa [rules.map_fst_pairsOf h])

mutual

/-- The value made up for a regular field has, below the key of the field, the key paths of the field. -/
theorem paths_fieldValue : ∀ {field : InputField} {value : SampleValue}, field.Regular →
    rules.fieldValue? field = some value → value.paths.map (field.key :: ·) = field.keyPaths
  | ⟨spec, []⟩, value, _, hvalue => by
    rw [fieldValue?, Option.map_eq_some_iff] at hvalue
    obtain ⟨type, -, rfl⟩ := hvalue
    have hpaths : (rules.valueOf spec.key type spec.choices).paths = [[]] := by
      unfold valueOf
      split
      · rfl
      · rfl
      · cases type <;> rfl
    rw [hpaths, InputField.keyPaths]
    rfl
  | ⟨spec, child :: rest⟩, value, h, hvalue => by
    rw [fieldValue?, Option.some.injEq] at hvalue
    subst hvalue
    have hall : AllRegular (child :: rest) := ⟨h.2.1, h.2.2⟩
    -- Keys are distinct, so no child takes the place of another in the record.
    have hpairs := rules.ofList_pairsOf hall h.1
    rw [pairsOf] at hpairs
    have hpaths := recordPaths_pairsOf hall
    rw [pairsOf] at hpaths
    rw [hpairs, SampleValue.paths, hpaths, InputField.keyPaths, keyPathsOf]

/-- The values made up for regular fields have the key paths of the fields. -/
theorem recordPaths_pairsOf : ∀ {fields : List InputField}, AllRegular fields →
    recordPaths (rules.pairsOf fields) = keyPathsOf fields
  | [], _ => rfl
  | field :: rest, h => by
    obtain ⟨value, hvalue⟩ := rules.isSome_fieldValue? h.1
    rw [pairsOf, hvalue, recordPaths_append, recordPaths_pairsOf h.2, keyPathsOf,
      ← paths_fieldValue h.1 hvalue]
    simp only [pairOf, Option.map_some, Option.toList_some, recordPaths, List.append_nil]

end

end SampleRules

end ActionForge
