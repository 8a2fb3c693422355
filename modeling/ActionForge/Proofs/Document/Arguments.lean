import ActionForge.Proofs.Form.Regular
import ActionForge.Proofs.Template

/-!
# Arguments of generated operations

`FormItem.argument` says what becomes of an item of the form: a slot is a value that is read under its
name, an object has a value for every slot, read from inside the object, or from the top level when the
object is all there is. By `arguments_operationOf` these are the arguments of a generated operation, and
by `argumentPaths_formItems` they read the leaves of the form that the platform shows.
-/

namespace ActionForge

/-! ## Well-named arguments -/

/-- The placeholder reads a path of names. -/
def Placeholder.WellNamed (placeholder : Placeholder) : Prop :=
  (∀ parent ∈ placeholder.parents, isName parent) ∧ isName placeholder.key

mutual

/-- The argument and all within it have names and read paths of names. -/
def Argument.WellNamed : Argument → Prop
  | .value name placeholder => isName name ∧ placeholder.WellNamed
  | .object name members => isName name ∧ AllWellNamed members

/-- All arguments are well-named. -/
def AllWellNamed : List Argument → Prop
  | [] => True
  | argument :: rest => argument.WellNamed ∧ AllWellNamed rest

end

/-- Arguments are well-named if each of them is. -/
theorem allWellNamed_iff {arguments : List Argument} :
    AllWellNamed arguments ↔ ∀ argument ∈ arguments, argument.WellNamed := by
  induction arguments with
  | nil => simp [AllWellNamed]
  | cons argument rest ih => simp [AllWellNamed, ih]

mutual

/-- The paths that an argument reads. -/
def Argument.paths : Argument → List (List String)
  | .value _ placeholder => [placeholder.parents ++ [placeholder.key]]
  | .object _ members => argumentPaths members

/-- The paths that arguments read, in order. -/
def argumentPaths : List Argument → List (List String)
  | [] => []
  | argument :: rest => argument.paths ++ argumentPaths rest

end

/-- Joining two names gives a name. -/
theorem isName_joinKey {parent name : String} (hparent : isName parent) (hname : isName name) :
    isName (joinKey parent name) := by
  obtain ⟨c, rest, htext, hfirst, hrest⟩ := isName_iff.1 hparent
  refine isName_iff.2 ⟨c, rest ++ '_' :: '_' :: name.toList, ?_, hfirst, fun d hd => ?_⟩
  · simp [joinKey, htext]
  · -- The underscores between the two names are characters of names.
    rcases List.mem_append.1 hd with hd | hd
    · exact hrest d hd
    · rcases List.mem_cons.1 hd with rfl | hd
      · rfl
      rcases List.mem_cons.1 hd with rfl | hd
      · rfl
      · exact continuesName_of_mem hname hd

/-! ## Keys of the platform -/

/-- No name has a point in it. -/
theorem point_notMem {name : String} (h : isName name) : '.' ∉ name.toList :=
  notMem_of_isName h (by decide)

/-- The characters of a text without points, as the splitting at points asks about them. -/
theorem forall_ne_point {name : String} (h : '.' ∉ name.toList) :
    ∀ c ∈ name.toList, decide (c = '.') = false := by
  intro c hc
  have hne : c ≠ '.' := fun hpoint => h (hpoint ▸ hc)
  exact decide_eq_false hne

/-- A key without a point is sent as it is. -/
theorem platformKey_of_notMem {field : InputSpec} (h : '.' ∉ field.key.toList) :
    field.platformKey = field.key := by
  rw [InputSpec.platformKey, segmentsBackward, Text.pieces_of_forall (forall_ne_point h)]
  simp

/-- A child that the document keeps under `parent.name` is sent under `parent__name`. -/
theorem platformKey_of_child {field : InputSpec} {parent name : String} (hparent : '.' ∉ parent.toList)
    (hname : '.' ∉ name.toList) (h : field.key = parent ++ "." ++ name) :
    field.platformKey = joinKey parent name := by
  have hkey : field.key.toList = parent.toList ++ '.' :: name.toList := by
    rw [h]
    simp
  rw [InputSpec.platformKey, segmentsBackward, hkey,
    Text.pieces_append_cons (forall_ne_point hparent) rfl,
    Text.pieces_of_forall (forall_ne_point hname)]
  simp

/-! ## Items as arguments -/

/-- The placeholder that reads a slot. -/
def ValueSlot.placeholder (parents : List String) (key : String) (slot : ValueSlot) : Placeholder :=
  { parents
    key
    list := slot.list
    quoted := slot.choices.isEmpty && slot.type.isTextual
    required := slot.required }

/-- The argument for a slot. -/
def ValueSlot.argument (parents : List String) (key : String) (slot : ValueSlot) : Argument :=
  .value slot.name (slot.placeholder parents key)

namespace FormItem

/-- An object is well-named if it and all its slots have names. -/
theorem wellNamed_group_iff {name : String} {required : Bool} {slots : List ValueSlot}
    {filled : slots ≠ []} : (FormItem.group name required slots filled).WellNamed ↔
      isName name ∧ ∀ slot ∈ slots, isName slot.name :=
  and_congr_right fun _ => List.forall_mem_map

/-- The argument for an item. Its slots are read from the top level when it is the only one. -/
def argument (lone : Bool) : FormItem → Argument
  | .value slot => slot.argument [] slot.name
  | .group name _ slots _ =>
    .object name (slots.map fun slot =>
      slot.argument (if lone then [] else [name]) (joinKey name slot.name))

/-- Whether the item is an object. -/
def isGroup : FormItem → Bool
  | .value _ => false
  | .group .. => true

/-- Whether there is one item and it is an object. -/
def isLone : List FormItem → Bool
  | [item] => item.isGroup
  | _ => false

end FormItem

/-- Fields become arguments one by one. -/
theorem argumentsOf_eq_map (parents : List String) (promoted : Bool) (fields : List InputField) :
    argumentsOf parents promoted fields = fields.map (Argument.ofField parents promoted) := by
  induction fields with
  | nil => rfl
  | cons field rest ih => rw [argumentsOf, ih, List.map_cons]

/-- The field of a slot at the top level becomes the argument that reads the slot by its name. -/
theorem ofField_input_none {slot : ValueSlot} (h : isName slot.name) (parents : List String)
    (promoted : Bool) :
    Argument.ofField parents promoted (slot.input .document none) =
      slot.argument parents slot.name := by
  have hkey : (slot.input .document none).platformKey = slot.name :=
    platformKey_of_notMem (point_notMem h)
  simp only [ValueSlot.input] at hkey ⊢
  rw [Argument.ofField, Placeholder.ofField, hkey]
  rfl

/-- The field of a slot in an object is read by the joined key, though the document keeps it under a dotted one.
-/
theorem ofField_input_some {slot : ValueSlot} {parent : String} (hparent : isName parent)
    (h : isName slot.name) (parents : List String) (promoted : Bool) :
    Argument.ofField parents promoted (slot.input .document (some parent)) =
      slot.argument parents (joinKey parent slot.name) := by
  have hkey : (slot.input .document (some parent)).platformKey = joinKey parent slot.name :=
    platformKey_of_child (point_notMem hparent) (point_notMem h) rfl
  simp only [ValueSlot.input] at hkey ⊢
  rw [Argument.ofField, Placeholder.ofField, hkey]
  rfl

/-- The field of an object becomes the argument for it. -/
theorem ofField_field {item : FormItem} (h : item.WellNamed) (lone : Bool) :
    Argument.ofField [] lone (item.field .document) = item.argument lone := by
  cases item with
  | value slot => exact ofField_input_none h.1 [] lone
  | group name required slots filled =>
    obtain ⟨hname, hslots⟩ := FormItem.wellNamed_group_iff.1 h
    -- A field without children would be taken for a value.
    cases slots with
    | nil => exact absurd rfl filled
    | cons slot rest =>
      have hkey : ((FormItem.group name required (slot :: rest) filled).field .document).platformKey =
          name := platformKey_of_notMem (point_notMem hname)
      -- The slots become the members, wherever they are read from.
      have hmembers : ∀ parents : List String,
          Argument.ofField parents false (slot.input .document (some name)) ::
            argumentsOf parents false (rest.map (ValueSlot.input .document (some name))) =
          (slot :: rest).map fun slot => slot.argument parents (joinKey name slot.name) := by
        intro parents
        have hall : argumentsOf parents false
            ((slot :: rest).map (ValueSlot.input .document (some name))) =
            (slot :: rest).map fun slot => slot.argument parents (joinKey name slot.name) := by
          rw [argumentsOf_eq_map, List.map_map]
          exact List.map_congr_left fun slot hslot =>
            ofField_input_some hname (hslots slot hslot) parents false
        rwa [List.map_cons, argumentsOf] at hall
      simp only [FormItem.field, List.map_cons] at hkey ⊢
      rw [Argument.ofField, hkey, hmembers]
      cases lone <;> rfl

/-- Objects alone have fields within them. -/
theorem isEmpty_children_field (target : Target) (item : FormItem) :
    (item.field target).children.isEmpty = !item.isGroup := by
  cases item with
  | value slot => rfl
  | group name required slots filled => simpa [FormItem.field, FormItem.isGroup] using filled

/-- An object is taken for all there is exactly when the form has no other item. -/
theorem isLoneWrapper_field (target : Target) (items : List FormItem) :
    isLoneWrapper (items.map (FormItem.field target)) = FormItem.isLone items := by
  match items with
  | [] => rfl
  | [item] =>
    rw [List.map_singleton, isLoneWrapper, isEmpty_children_field, Bool.not_not]
    rfl
  | _ :: _ :: _ => rfl

/-- The arguments of an operation are those of the items. -/
theorem argumentsOf_field {items : List FormItem} (h : ∀ item ∈ items, item.WellNamed) :
    argumentsOf [] (isLoneWrapper (items.map (FormItem.field .document)))
        (items.map (FormItem.field .document)) =
      items.map (FormItem.argument (FormItem.isLone items)) := by
  rw [isLoneWrapper_field, argumentsOf_eq_map, List.map_map]
  exact List.map_congr_left fun item hitem => ofField_field (h item hitem) _

/-- Well-named items become well-named arguments. -/
theorem FormItem.wellNamed_argument {item : FormItem} (h : item.WellNamed) (lone : Bool) :
    (item.argument lone).WellNamed := by
  cases item with
  | value slot =>
    refine ⟨h.1, fun parent hparent => ?_, h.1⟩
    cases hparent
  | group name required slots filled =>
    obtain ⟨hname, hslots⟩ := FormItem.wellNamed_group_iff.1 h
    refine ⟨hname, allWellNamed_iff.2 fun argument hargument => ?_⟩
    obtain ⟨slot, hslot, rfl⟩ := List.mem_map.1 hargument
    refine ⟨hslots slot hslot, fun parent hparent => ?_, isName_joinKey hname (hslots slot hslot)⟩
    cases lone with
    | true => cases hparent
    | false =>
      obtain rfl := List.mem_singleton.1 hparent
      exact hname

/-! ## Paths -/

/-- The platform shows a slot under its key, with no path above it. -/
theorem keyPathsOf_input (parent : Option String) (slots : List ValueSlot) :
    keyPathsOf (slots.map (ValueSlot.input .platform parent)) =
      slots.map fun slot => [Target.platform.key parent slot.name] := by
  induction slots with
  | nil => rfl
  | cons slot rest ih => rw [List.map_cons, keyPathsOf, ih]; rfl

/-- The slots of an object are read inside it, each under its joined key. -/
theorem argumentPaths_slots (parents : List String) (name : String) (slots : List ValueSlot) :
    argumentPaths (slots.map fun slot => slot.argument parents (joinKey name slot.name)) =
      slots.map fun slot => parents ++ [joinKey name slot.name] := by
  induction slots with
  | nil => rfl
  | cons slot rest ih => rw [List.map_cons, argumentPaths, ih]; rfl

/-- An item is read at the leaves that the platform shows for it, a lone object apart. -/
theorem paths_argument (item : FormItem) :
    (item.argument false).paths = (item.field .platform).keyPaths := by
  cases item with
  | value slot => rfl
  | group name required slots filled =>
    rw [FormItem.field, keyPaths_of_children (by simpa using filled), keyPathsOf_input, List.map_map]
    exact argumentPaths_slots [name] name slots

/-- The arguments read the leaves of the form that the platform shows, in its order. -/
theorem argumentPaths_formItems (items : List FormItem) :
    argumentPaths (items.map (FormItem.argument (FormItem.isLone items))) =
      keyPathsOf (flatten (items.map (FormItem.field .platform))) := by
  -- Items agree one by one, but for a lone object, whose slots move up on both sides.
  have hall : argumentPaths (items.map (FormItem.argument false)) =
      keyPathsOf (items.map (FormItem.field .platform)) := by
    induction items with
    | nil => rfl
    | cons item rest ih =>
      rw [List.map_cons, List.map_cons, argumentPaths, keyPathsOf, ih, paths_argument]
  match items with
  | [] => rfl
  | [.value slot] => exact hall
  | [.group name required slots filled] =>
    have hchildren : flatten [(FormItem.group name required slots filled).field .platform] =
        slots.map (ValueSlot.input .platform (some name)) := by
      rw [flatten, isEmpty_children_field]
      rfl
    rw [List.map_singleton, List.map_singleton, hchildren, keyPathsOf_input, argumentPaths,
      argumentPaths, List.append_nil]
    exact argumentPaths_slots [] name slots
  | first :: second :: rest => exact hall

end ActionForge
