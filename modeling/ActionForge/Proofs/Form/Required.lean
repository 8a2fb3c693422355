import ActionForge.Proofs.Form.Invariant

/-!
# Required fields

A field is marked as required when some layer of its type forbids null, however deep that layer stands. So
the mark says too much of a list that may be null but whose items may not: it is required all the same, and
its placeholder has nothing to fall back to. By `required_iff` these lists are all that tells the mark from
the types that forbid null, in what resolving reports, in the fields of a form and in its placeholders.
-/

namespace ActionForge

/-! ## Layers of types -/

/-- A wrapper around a type. -/
inductive Layer where
  | list
  | nonNull
  deriving DecidableEq, Repr

namespace TypeRef

/-- A name inside layers, the outermost layer first. -/
def wrap (name : String) : List Layer → TypeRef
  | [] => .named name
  | .list :: inner => .list (wrap name inner)
  | .nonNull :: inner => .nonNull (wrap name inner)

/-- The layers around the name of a type, the outermost first. -/
def layers : TypeRef → List Layer
  | .named _ => []
  | .list inner => .list :: inner.layers
  | .nonNull inner => .nonNull :: inner.layers

/-- The value must not be null: the outermost layer forbids it. -/
def ForbidsNull (ref : TypeRef) : Prop := ref.layers.head? = some .nonNull

/-- The value may be null, but not everything inside it may. -/
def HidesNonNull (ref : TypeRef) : Prop := ¬ ref.ForbidsNull ∧ .nonNull ∈ ref.layers

instance (ref : TypeRef) : Decidable ref.ForbidsNull :=
  inferInstanceAs (Decidable (ref.layers.head? = some .nonNull))

/-- The layers that were put around a name are found again. -/
@[simp]
theorem layers_wrap (name : String) (layers : List Layer) : (wrap name layers).layers = layers := by
  induction layers with
  | nil => rfl
  | cons layer inner ih => cases layer <;> rw [wrap, TypeRef.layers, ih]

/-- The name that layers were put around is found again. -/
@[simp]
theorem innermost_wrap (name : String) (layers : List Layer) : (wrap name layers).innermost = name := by
  induction layers with
  | nil => rfl
  | cons layer inner ih => cases layer <;> rw [wrap, innermost, ih]

/-- A type is one of lists when some layer is. -/
theorem hasList_iff {ref : TypeRef} : ref.hasList ↔ .list ∈ ref.layers := by
  induction ref with
  | named name => simp [hasList, layers]
  | list inner ih => simp [hasList, layers]
  | nonNull inner ih => simp [hasList, layers, ih]

/-- A type is marked as required when some layer of it forbids null. -/
theorem hasNonNull_iff_mem {ref : TypeRef} : ref.hasNonNull ↔ .nonNull ∈ ref.layers := by
  induction ref with
  | named name => simp [hasNonNull, layers]
  | list inner ih => simp [hasNonNull, layers, ih]
  | nonNull inner ih => simp [hasNonNull, layers]

/-- The mark of a type that forbids null is also that of a type that hides a layer which does. -/
theorem hasNonNull_iff {ref : TypeRef} : ref.hasNonNull ↔ ref.ForbidsNull ∨ ref.HidesNonNull := by
  rw [hasNonNull_iff_mem]
  constructor
  · intro hmem
    by_cases hforbids : ref.ForbidsNull
    · exact .inl hforbids
    · exact .inr ⟨hforbids, hmem⟩
  · rintro (hforbids | ⟨-, hmem⟩)
    · exact List.mem_of_head? hforbids
    · exact hmem

end TypeRef

/-- Layers change nothing but the two marks. -/
theorem Context.resolve_wrap (context : Context) (name : String) (layers : List Layer)
    (user : Option String) :
    context.resolve (.wrap name layers) user =
      (fun details => { details with isList := .list ∈ layers, isRequired := .nonNull ∈ layers }) <$>
        context.resolve (.named name) user := by
  have hlist : (TypeRef.wrap name layers).hasList = decide (.list ∈ layers) := by
    rw [Bool.eq_iff_iff, TypeRef.hasList_iff, TypeRef.layers_wrap, decide_eq_true_iff]
  have hrequired : (TypeRef.wrap name layers).hasNonNull = decide (.nonNull ∈ layers) := by
    rw [Bool.eq_iff_iff, TypeRef.hasNonNull_iff_mem, TypeRef.layers_wrap, decide_eq_true_iff]
  -- What a type is called and what kind it is depend on the innermost name alone.
  have hkind : context.schema.kind? (.wrap name layers) = context.schema.kind? (.named name) := by
    rw [Schema.kind?, Schema.kind?, TypeRef.innermost_wrap, TypeRef.innermost]
  have hfault : ∀ user, context.useFault? (.wrap name layers) user =
      context.useFault? (.named name) user := by
    intro user
    unfold useFault?
    rw [hkind, TypeRef.innermost_wrap, TypeRef.innermost]
  rw [resolve_eq, resolve_eq, map_checked, hfault, detailsOf, detailsOf, hlist, hrequired, fieldType?,
    fieldType?, choicesOf, choicesOf, hkind, TypeRef.innermost_wrap, TypeRef.innermost]

/-! ## Placeholders that fall back -/

namespace Placeholder

/-- What stands around the expression of a placeholder. -/
def frames : List (String × String) :=
  [("$\x7b", "\x7d"), ("\"$\x7b", "\x7d\""), ("$\x7bJSON.stringify(", ")\x7d")]

/-- The text reads the value and has something else to write when there is none. -/
def FallsBack (placeholder : Placeholder) : Prop :=
  ∃ frame ∈ frames, ∃ fallback ∈ ["''", "null"],
    placeholder.text = frame.1 ++ placeholder.path ++ " ?? " ++ fallback ++ frame.2

variable {placeholder : Placeholder}

/-- The placeholder of an optional field falls back, whatever its type. -/
theorem fallsBack_of_optional (h : placeholder.required = false) : placeholder.FallsBack := by
  unfold FallsBack text
  rw [h]
  cases placeholder.list with
  | true =>
    exact ⟨("$\x7bJSON.stringify(", ")\x7d"), by simp [frames], "null", by simp,
      by simp [String.append_assoc]⟩
  | false =>
    cases placeholder.quoted with
    | true =>
      exact ⟨("\"$\x7b", "\x7d\""), by simp [frames], "''", by simp, by simp [String.append_assoc]⟩
    | false => exact ⟨("$\x7b", "\x7d"), by simp [frames], "null", by simp, by simp [String.append_assoc]⟩

/-- The placeholder of a required field is its path in one of the frames, with nothing after it. -/
theorem text_of_required (h : placeholder.required = true) :
    ∃ frame ∈ frames, placeholder.text = frame.1 ++ placeholder.path ++ frame.2 := by
  unfold text
  rw [h]
  cases placeholder.list with
  | true => exact ⟨("$\x7bJSON.stringify(", ")\x7d"), by simp [frames], rfl⟩
  | false =>
    cases placeholder.quoted with
    | true => exact ⟨("\"$\x7b", "\x7d\""), by simp [frames], rfl⟩
    | false => exact ⟨("$\x7b", "\x7d"), by simp [frames], rfl⟩

/-- A text without a fallback has the length of none that has one. -/
theorem not_fallsBack_of_required (h : placeholder.required = true) : ¬ placeholder.FallsBack := by
  rintro ⟨frame, hframe, fallback, hfallback, htext⟩
  obtain ⟨plain, hplain, hrequired⟩ := text_of_required h
  -- The frames and fallbacks are fixed, so the lengths of both texts are known but for the path.
  have hlengths : ∀ frame ∈ frames, frame.1.length + frame.2.length ∈ [3, 5, 19] := by decide +kernel
  have hmark : " ?? ".length = 4 := by decide +kernel
  have hfallbacks : ∀ fallback ∈ ["''", "null"], fallback.length ∈ [2, 4] := by decide +kernel
  have hsame := congrArg String.length (hrequired.symm.trans htext)
  simp only [String.length_append, hmark] at hsame
  have hframe := hlengths frame hframe
  have hplain := hlengths plain hplain
  have hfallback := hfallbacks fallback hfallback
  simp only [List.mem_cons, List.not_mem_nil, or_false] at hframe hplain hfallback
  omega

/-- Placeholders fall back exactly for optional fields. -/
theorem fallsBack_iff : placeholder.FallsBack ↔ placeholder.required = false :=
  ⟨fun h => Bool.eq_false_iff.2 fun hrequired => not_fallsBack_of_required hrequired h,
    fallsBack_of_optional⟩

end Placeholder

/-! ## Fields and what is sent for them -/

/-- A field with children becomes an object, whose members are read inside it unless it was promoted. -/
theorem ofField_of_children {spec : InputSpec} {children : List InputField} (h : children ≠ [])
    (parents : List String) (promoted : Bool) :
    Argument.ofField parents promoted ⟨spec, children⟩ =
      .object spec.schemaName
        (argumentsOf (if promoted then parents else parents ++ [spec.platformKey]) false children) := by
  cases children with
  | nil => exact absurd rfl h
  | cons child rest => rw [Argument.ofField, argumentsOf]

/-- What a document has for an argument or a member: for a leaf a placeholder, which falls back unless the
type forbids null or hides a layer that does, and else an object of what it has for the members shown. -/
inductive Context.Sends (context : Context) : Member → Argument → Prop
  | value {member : Member} {placeholder : Placeholder} (leaf : context.schema.isLeaf member.type)
      (fallsBack : placeholder.FallsBack ↔ ¬ (member.type.ForbidsNull ∨ member.type.HidesNonNull)) :
      Sends context member (.value member.name placeholder)
  | object {member : Member} {members : List Member} {written : List Argument}
      (nested : ¬ context.schema.isLeaf member.type)
      (shown : ∀ below, below ∈ members ↔ context.schema.Shows member.type below)
      (sent : List.Forall₂ (Sends context) members written) :
      Sends context member (.object member.name written)

namespace Context

variable (context : Context)

/-- The field for an argument has the mark of the argument's type. -/
theorem required_fieldOf (target : Target) (argument : Member) :
    (context.fieldOf target argument).required = argument.type.hasNonNull := by
  rw [fieldOf]
  split <;> rfl

/-- What a document has for a leaf is as `Sends` says. -/
theorem sends_leafField {member : Member} (h : context.schema.isLeaf member.type) (parents : List String)
    (promoted : Bool) (parent : Option String) :
    context.Sends member (.ofField parents promoted (context.leafField .document parent member)) := by
  rw [leafField, Argument.ofField]
  refine .value h ?_
  rw [Placeholder.fallsBack_iff, ← TypeRef.hasNonNull_iff, Bool.not_eq_true]
  rfl

/-- What a document has for an argument is as `Sends` says, by the leaves in it. -/
theorem sends_fieldOf {argument : Member} (h : context.schema.fills argument.type) (parents : List String)
    (promoted : Bool) :
    context.Sends argument (.ofField parents promoted (context.fieldOf .document argument)) := by
  by_cases hleaf : context.schema.isLeaf argument.type
  · rw [fieldOf, if_pos hleaf]
    exact context.sends_leafField hleaf parents promoted none
  · have hfilled := context.shownMembers_ne_nil h hleaf
    rw [fieldOf, if_neg hleaf, parentField, ofField_of_children (by simpa using hfilled),
      argumentsOf_eq_map, List.map_map]
    refine .object hleaf (fun member => context.mem_shownMembers_iff) ?_
    rw [List.forall₂_map_right_iff, List.forall₂_same]
    intro member hmember
    obtain ⟨-, -, -, -, hisLeaf⟩ := context.mem_shownMembers_iff.1 hmember
    exact context.sends_leafField hisLeaf _ false (some argument.name)

/-- What resolving, a form and a document make of the layers of a type. A field is required, and its
placeholder without anything to fall back to, where the type forbids null; but so it is where the type only
hides a layer that does. -/
theorem required_iff :
    (∀ (name : String) (layers : List Layer) (user : Option String),
        ((context.resolve (.wrap name layers) user).isOk ↔ (context.resolve (.named name) user).isOk) ∧
        ∀ details, context.resolve (.wrap name layers) user = .ok details →
          details.typeName = name ∧ (details.isList ↔ .list ∈ layers) ∧
            (details.isRequired ↔
              (TypeRef.wrap name layers).ForbidsNull ∨ (TypeRef.wrap name layers).HidesNonNull)) ∧
      ∀ (arguments : List Member) (target : Target) (fields : List InputField),
        context.inputFields arguments target = .ok fields →
          ∃ shown, (∀ argument ∈ shown, argument ∈ arguments) ∧
            List.Forall₂ (fun argument field => context.argumentField target argument = .ok (some field) ∧
              (field.required ↔ argument.type.ForbidsNull ∨ argument.type.HidesNonNull) ∧
              ∃ members, List.Forall₂ (fun member child =>
                context.IsChildField target argument member child ∧
                  (child.required ↔ member.type.ForbidsNull ∨ member.type.HidesNonNull))
                members field.children) shown fields ∧
            (target = .document → ∀ parents promoted,
              List.Forall₂ context.Sends shown (argumentsOf parents promoted fields)) := by
  constructor
  · intro name layers user
    rw [resolve_wrap, resolve_eq, map_checked]
    refine ⟨by cases context.useFault? _ _ <;> rfl, fun details h => ?_⟩
    obtain ⟨-, rfl⟩ := checked_eq_ok_iff.1 h
    rw [← TypeRef.hasNonNull_iff, TypeRef.hasNonNull_iff_mem, TypeRef.layers_wrap]
    exact ⟨rfl, decide_eq_true_iff, decide_eq_true_iff⟩
  · intro arguments target fields h
    rw [inputFields_eq_fieldOf] at h
    obtain ⟨hfault, rfl⟩ := checked_eq_ok_iff.1 h
    -- The arguments that are shown have the fields, in the order of the form.
    refine ⟨context.shownArguments arguments, ?_, ?_, ?_⟩
    · intro argument hshown
      exact (context.mem_shownArguments_iff.1 hshown).1
    · rw [List.forall₂_map_right_iff, List.forall₂_same]
      intro argument hshown
      obtain ⟨hargument, hfillable⟩ := context.mem_shownArguments_iff.1 hshown
      have hnone := List.findSome?_eq_none_iff.1 hfault argument hargument
      have hmembers := (Option.or_eq_none_iff.1 hnone).2
      refine ⟨(context.represents_fieldOf hnone (Schema.fills_iff.2 hfillable) target).built, ?_,
        context.shownMembers argument.type, ?_⟩
      · rw [required_fieldOf, TypeRef.hasNonNull_iff]
      · rw [children_fieldOf, List.forall₂_map_right_iff, List.forall₂_same]
        intro member hmember
        obtain ⟨before, after, hdeclared, -, hleaf⟩ := context.mem_shownMembers_iff.1 hmember
        have husable := List.findSome?_eq_none_iff.1 hmembers member (by simp [hdeclared])
        exact ⟨context.isChildField_leafField husable hleaf target, TypeRef.hasNonNull_iff⟩
    · rintro rfl parents promoted
      rw [argumentsOf_eq_map, List.map_map, List.forall₂_map_right_iff, List.forall₂_same]
      intro argument hshown
      have hfillable := (context.mem_shownArguments_iff.1 hshown).2
      exact context.sends_fieldOf (Schema.fills_iff.2 hfillable) parents promoted

/-! ## A list that may be null -/

/-- An argument that may be left out, though what it lists may not be null. -/
def optionalIds : Member := ⟨"ids", none, .list (.nonNull (.named "ID"))⟩

/-- The list may be null and its items may not. -/
theorem hidesNonNull_optionalIds : optionalIds.type.HidesNonNull := by
  constructor <;> decide

/-- The list is shown, so the form is its one field. -/
theorem inputFields_optionalIds (target : Target) :
    library.inputFields [optionalIds] target = .ok [library.fieldOf target optionalIds] := by
  have hfault : library.argumentsFault? [optionalIds] = none := by decide +kernel
  have hshown : library.shownArguments [optionalIds] = [optionalIds] := by decide +kernel
  rw [inputFields_eq_fieldOf, hfault, checked_none, hshown]
  rfl

/-- For the list that may be null, resolving reports a list that is required, and its field is required. -/
theorem required_iff_optionalIds : ∃ details fields,
    library.resolve optionalIds.type (some "ids") = .ok details ∧ details.typeName = "ID" ∧
      details.isList ∧ details.isRequired ∧
      library.inputFields [optionalIds] .document = .ok fields ∧ ∀ field ∈ fields, field.required := by
  obtain ⟨hresolve, hfields⟩ := required_iff library
  have hok : (library.resolve optionalIds.type (some "ids")).isOk := by decide +kernel
  cases h : library.resolve optionalIds.type (some "ids") with
  | error e =>
    rw [h] at hok
    cases hok
  | ok details =>
    -- The mark inside the list is enough for both.
    obtain ⟨hname, hlist, hrequired⟩ := (hresolve "ID" [.list, .nonNull] (some "ids")).2 details h
    obtain ⟨shown, harguments, hbuilt, -⟩ :=
      hfields [optionalIds] .document _ (inputFields_optionalIds .document)
    obtain ⟨argument, rest, ⟨-, hmark, -⟩, -, rfl⟩ := List.forall₂_cons_right_iff.1 hbuilt
    obtain rfl := List.mem_singleton.1 (harguments argument List.mem_cons_self)
    refine ⟨details, _, rfl, hname, hlist.2 (by decide), hrequired.2 (.inr hidesNonNull_optionalIds),
      inputFields_optionalIds .document, fun field hfield => ?_⟩
    obtain rfl := List.mem_singleton.1 hfield
    exact hmark.2 (.inr hidesNonNull_optionalIds)

/-- The list may be null, but resolving and the form mark it as required, and where it is left out the
document has nothing to fall back to. -/
theorem required_optionalIds : ¬ optionalIds.type.ForbidsNull ∧
    (library.resolve optionalIds.type (some "ids")).toOption.map TypeDetails.isRequired = some true ∧
    ∃ field, library.inputFields [optionalIds] .document = .ok [field] ∧ field.required ∧
      (Placeholder.ofField [] field.toInputSpec).text = "$\x7bJSON.stringify(bundle.inputData.ids)\x7d" ∧
      ∀ parents, ¬ (Placeholder.ofField parents field.toInputSpec).FallsBack := by
  have hrequired : (library.fieldOf .document optionalIds).required :=
    required_fieldOf library .document optionalIds
  exact ⟨by decide, by decide +kernel, library.fieldOf .document optionalIds,
    inputFields_optionalIds .document, hrequired, by decide +kernel,
    fun _ => Placeholder.not_fallsBack_of_required hrequired⟩

end Context

end ActionForge
