import Mathlib.Data.List.Sublists
import ActionForge.Form.Basic
import ActionForge.Proofs.Json.Embedding

/-!
# Forms as JSON

Fields are written with members that are left out when they say nothing. Nothing is lost by that: the JSON of
input fields, and of output fields, is that of no other fields (`inputsToJson_injective`,
`OutputField.toJson_injective`). No field has a member twice and no number is written, so the JSON of fields
can be read from its text whatever the fields hold.
-/

namespace ActionForge

open Json (Legible)

/-! ## Members that may be left out -/

/-- A member that may be left out is found under its name if it has a value. -/
theorem get?_optionalMember (member : String) (value : Option Json) (name : String) :
    Entries.get? (optionalMember member value) name = if member = name then value else none := by
  cases value <;> simp [optionalMember, Entries.get?]

/-- A flag is found under its name if it is set. -/
theorem get?_flagMember (member : String) (flag : Bool) (name : String) :
    Entries.get? (flagMember member flag) name =
      if member = name ∧ flag then some (.bool true) else none := by
  cases flag <;> simp [flagMember, Entries.get?]

/-- A list is found under its name if it has items. -/
theorem get?_listMember (member : String) (items : List Json) (name : String) :
    Entries.get? (listMember member items) name =
      if member = name ∧ items ≠ [] then some (.array items) else none := by
  cases items <;> simp [listMember, Entries.get?]

/-! ## Input fields -/

/-- The members of an input field with the JSON of its children. -/
def fieldMembers (spec : InputSpec) (children : List Json) : Entries Json :=
  spec.members ++ listMember "children" children

/-- The JSON of a field is an object of its members. -/
theorem toJson_eq (spec : InputSpec) (children : List InputField) :
    InputField.toJson ⟨spec, children⟩ = .object (fieldMembers spec (inputsToJson children)) := by
  rw [InputField.toJson, fieldMembers]

/-- Types of fields have different names. -/
theorem FieldType.name_injective : Function.Injective FieldType.name := by
  intro type type'
  cases type <;> cases type' <;> first | exact fun _ => rfl | exact fun h => absurd h (by decide)

/-- Different strings are different JSON texts. -/
theorem text_injective : Function.Injective Json.text := fun _ _ h => by injection h

/-- A member that is left out when there are no items tells what the items are. -/
theorem ite_array_inj {items items' : List Json}
    (h : (if items ≠ [] then some (Json.array items) else none) =
      if items' ≠ [] then some (Json.array items') else none) : items = items' := by
  by_cases hnil : items = [] <;> by_cases hnil' : items' = [] <;> simp_all

/-- Members of fields are equal only when everything that they are made of is. -/
theorem fieldMembers_inj {spec spec' : InputSpec} {children children' : List Json}
    (h : fieldMembers spec children = fieldMembers spec' children') :
    spec = spec' ∧ children = children' := by
  -- Equal objects have equal values under each name, and every part of the field is under one.
  have hget := fun name => congrArg (Entries.get? · name) h
  simp only [fieldMembers, InputSpec.members, Entries.get?_append, get?_optionalMember, get?_flagMember,
    get?_listMember, Entries.get?] at hget
  have hkey : spec.key = spec'.key := by simpa using hget "key"
  have hlabel : spec.label = spec'.label := by simpa using hget "label"
  have hrequired : spec.required = spec'.required := by simpa using hget "required"
  have hfield : spec.field = spec'.field :=
    Option.map_injective text_injective (by simpa using hget "field")
  have hhelp : spec.helpText = spec'.helpText :=
    Option.map_injective text_injective (by simpa using hget "helpText")
  have htype : spec.type = spec'.type :=
    Option.map_injective (text_injective.comp FieldType.name_injective)
      (by simpa [Function.comp_def] using hget "type")
  -- A flag is written only when it is set, so its absence tells it as well.
  have hlist : spec.list = spec'.list := by
    have hflag := hget "list"
    cases hlist : spec.list <;> cases hlist' : spec'.list <;> simp [hlist, hlist'] at hflag ⊢
  have hchoices : spec.choices = spec'.choices :=
    List.map_injective_iff.2 text_injective (ite_array_inj (by simpa using hget "choices"))
  have hchildren : children = children' := ite_array_inj (by simpa using hget "children")
  refine ⟨?_, hchildren⟩
  cases spec
  cases spec'
  simp_all only

mutual

/-- A field's JSON tells everything of the field. -/
theorem InputField.toJson_inj : (field field' : InputField) → field.toJson = field'.toJson → field = field'
  | ⟨spec, children⟩, ⟨spec', children'⟩, h => by
    rw [toJson_eq, toJson_eq, Json.object.injEq] at h
    obtain ⟨rfl, hchildren⟩ := fieldMembers_inj h
    rw [inputsToJson_inj children children' hchildren]

/-- The JSON of fields tells everything of the fields. -/
theorem inputsToJson_inj : (fields fields' : List InputField) →
    inputsToJson fields = inputsToJson fields' → fields = fields'
  | [], [], _ => rfl
  | [], _ :: _, h | _ :: _, [], h => by cases h
  | field :: rest, field' :: rest', h => by
    rw [inputsToJson, inputsToJson, List.cons.injEq] at h
    rw [InputField.toJson_inj field field' h.1, inputsToJson_inj rest rest' h.2]

end

/-! ## Output fields -/

/-- An output field's JSON tells everything of the field. -/
theorem OutputField.toJson_injective : Function.Injective OutputField.toJson := by
  intro field field' h
  rw [OutputField.toJson, OutputField.toJson, Json.object.injEq] at h
  have hget := fun name => congrArg (Entries.get? · name) h
  simp only [Entries.get?_append, get?_optionalMember, get?_flagMember, Entries.get?] at hget
  have hkey : field.key = field'.key := by simpa using hget "key"
  have hlabel : field.label = field'.label := by simpa using hget "label"
  have hfield : field.field = field'.field :=
    Option.map_injective text_injective (by simpa using hget "field")
  have hhelp : field.helpText = field'.helpText :=
    Option.map_injective text_injective (by simpa using hget "helpText")
  have htype : field.type = field'.type := FieldType.name_injective (by simpa using hget "type")
  have hrequired : field.required = field'.required := by
    have hflag := hget "required"
    cases hrequired : field.required <;> cases hrequired' : field'.required <;>
      simp [hrequired, hrequired'] at hflag ⊢
  cases field
  cases field'
  simp_all only

/-! ## Fields are read from their texts -/

/-- The members have some of these names, in this order, and can be read from their texts. -/
structure Written (members : Entries Json) (names : List String) : Prop where
  keys : List.Sublist members.keys names
  legible : ∀ member ∈ members, member.2.Legible

namespace Written

/-- A member that is always written. -/
theorem one (name : String) {value : Json} (h : value.Legible) : Written [(name, value)] [name] :=
  ⟨.refl _, by simpa using h⟩

/-- A member that is left out. -/
theorem none (name : String) : Written [] [name] := ⟨List.nil_sublist _, by simp⟩

/-- Members that are written after others. -/
theorem append {first second : Entries Json} {names more : List String} (h : Written first names)
    (h' : Written second more) : Written (first ++ second) (names ++ more) where
  keys := by
    rw [Entries.keys, List.map_append]
    exact h.keys.append h'.keys
  legible := List.forall_mem_append.2 ⟨h.legible, h'.legible⟩

/-- A member that is written if it has a value. -/
theorem optional (name : String) {value : Option Json} (h : ∀ v ∈ value, v.Legible) :
    Written (optionalMember name value) [name] := by
  cases value with
  | none => exact .none name
  | some v => exact .one name (h v rfl)

/-- A text that is written if there is one. -/
theorem optionalText (name : String) (value : Option String) :
    Written (optionalMember name (value.map .text)) [name] := by
  refine optional name fun v hv => ?_
  obtain ⟨s, -, rfl⟩ := Option.map_eq_some_iff.1 hv
  exact Json.legible_text s

/-- A flag that is written if it is set. -/
theorem flag (name : String) (flag : Bool) : Written (flagMember name flag) [name] := by
  cases flag with
  | true => exact .one name (Json.legible_bool true)
  | false => exact .none name

/-- A list that is written if it has items. -/
theorem list (name : String) {items : List Json} (h : ∀ item ∈ items, item.Legible) :
    Written (listMember name items) [name] := by
  cases items with
  | nil => exact .none name
  | cons item rest => exact .one name (Json.legible_array_iff.2 h)

/-- An object with distinct names among its members can be read from its text. -/
theorem legible_object {members : Entries Json} {names : List String} (h : Written members names)
    (hnames : names.Nodup) : (Json.object members).Legible :=
  Json.legible_object_iff.2 ⟨h.keys.nodup hnames, h.legible⟩

end Written

mutual

/-- The JSON of an input field can be read from its text. -/
theorem InputField.legible_toJson : (field : InputField) → field.toJson.Legible
  | ⟨spec, children⟩ => by
    have htype : ∀ v ∈ spec.type.map fun type => Json.text type.name, v.Legible := by
      intro v hv
      obtain ⟨type, -, rfl⟩ := Option.map_eq_some_iff.1 hv
      exact Json.legible_text type.name
    have hchoices : ∀ item ∈ spec.choices.map Json.text, item.Legible := by
      intro item hitem
      obtain ⟨choice, -, rfl⟩ := List.mem_map.1 hitem
      exact Json.legible_text choice
    -- The members are put together in the order in which they are written.
    have hwritten := ((((((((Written.one "key" (Json.legible_text spec.key)).append
      (.optionalText "field" spec.field)).append (.one "label" (Json.legible_text spec.label))).append
      (.optional "type" htype)).append (.one "required" (Json.legible_bool spec.required))).append
      (.flag "list" spec.list)).append (.optionalText "helpText" spec.helpText)).append
      (.list "choices" hchoices)).append (.list "children" (legible_inputsToJson children))
    rw [toJson_eq]
    exact hwritten.legible_object (by decide)

/-- The JSON of input fields can be read from its text. -/
theorem legible_inputsToJson : (fields : List InputField) → ∀ item ∈ inputsToJson fields, item.Legible
  | [] => by simp [inputsToJson]
  | field :: rest => List.forall_mem_cons.2 ⟨field.legible_toJson, legible_inputsToJson rest⟩

end

/-- The JSON of an output field can be read from its text. -/
theorem OutputField.legible_toJson (field : OutputField) : field.toJson.Legible := by
  have hnames : Written [("label", .text field.label), ("type", .text field.type.name)]
      ["label", "type"] := ⟨.refl _, by simp [Json.legible_text]⟩
  have hwritten := ((((Written.one "key" (Json.legible_text field.key)).append
    (.optionalText "field" field.field)).append hnames).append
    (.flag "required" field.required)).append (.optionalText "helpText" field.helpText)
  exact hwritten.legible_object (by decide)

end ActionForge
