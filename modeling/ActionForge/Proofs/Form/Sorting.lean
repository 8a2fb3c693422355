import Mathlib.Data.List.Forall2
import ActionForge.Proofs.Form.Order

/-!
# What sorting a form does

Sorting a form is to put siblings in the order of their local names, at every level, and to change nothing
else. `InputField.SortedBelow` and `SortedForm` say what that means without the sort: at each level the
siblings are permuted stably, with `id` first, and otherwise every field is as it was. There is just one such
form, and `sortInputs_sorts` says that sorting finds it. That a second sort changes nothing, and that it does
not matter whether children were sorted before, rests on one fact: the order of siblings depends on their keys
alone, so it does not see what was done below them.
-/

namespace ActionForge

/-! ## Names among siblings -/

/-- What a key is called below a parent: what follows the parent's key and a separator, or all of it when it
does not begin in this way. -/
def IsLocalName (parent : Option String) (key name : String) : Prop :=
  match parent with
  | none => name = key
  | some parent =>
    key = parent ++ "__" ++ name ∨ key = parent ++ "." ++ name ∨
      (name = key ∧ ∀ rest, key ≠ parent ++ "__" ++ rest ∧ key ≠ parent ++ "." ++ rest)

/-- A parent's key and a separator are dropped from the keys that begin with both. -/
theorem withoutParent?_eq_some_iff {parent key name : List Char} :
    withoutParent? parent key = some name ↔
      key = parent ++ '_' :: '_' :: name ∨ key = parent ++ '.' :: name := by
  constructor
  · intro h
    obtain ⟨rest, hrest, hname⟩ := Option.bind_eq_some_iff.1 h
    rw [dropStart?_eq_some_iff] at hrest
    rcases Option.or_eq_some_iff.1 hname with hname | ⟨-, hname⟩
    · left
      rw [hrest, dropStart?_eq_some_iff.1 hname]
      rfl
    · right
      rw [hrest, dropStart?_eq_some_iff.1 hname]
      rfl
  · rintro (rfl | rfl)
    · simp [withoutParent?, dropStart?]
    · simp [withoutParent?, dropStart?]

/-- A key that begins with its parent's key and a separator is called by what follows. -/
theorem localName_of_withoutParent? {parent key : String} {name : List Char}
    (h : withoutParent? parent.toList key.toList = some name) :
    localName (some parent) key = String.ofList name := by
  rw [localName, Option.bind_some, h]

/-- The local name that is computed is the only one that a key has below its parent. -/
theorem localName_eq_iff {parent : Option String} {key name : String} :
    localName parent key = name ↔ IsLocalName parent key name := by
  cases parent with
  | none => exact eq_comm
  | some parent =>
    constructor
    · rintro rfl
      cases h : withoutParent? parent.toList key.toList with
      -- The key begins with the parent's, and one of the two separators comes next.
      | some name =>
        rw [localName_of_withoutParent? h]
        rcases withoutParent?_eq_some_iff.1 h with hkey | hkey
        · left
          rw [← String.toList_inj, hkey]
          simp
        · right
          left
          rw [← String.toList_inj, hkey]
          simp
      | none =>
        right
        right
        refine ⟨by rw [localName, Option.bind_some, h], fun rest => ⟨?_, ?_⟩⟩
        · rintro rfl
          simp [withoutParent?, dropStart?, List.append_assoc] at h
        · rintro rfl
          simp [withoutParent?, dropStart?, List.append_assoc] at h
    · -- A separator after the parent decides the name; without one nothing can be dropped.
      rintro (rfl | rfl | ⟨rfl, hrest⟩)
      · exact localName_key .platform (some parent) name
      · exact localName_key .document (some parent) name
      · cases h : withoutParent? parent.toList name.toList with
        | none => rw [localName, Option.bind_some, h]
        | some rest =>
          obtain ⟨hplatform, hdocument⟩ := hrest (String.ofList rest)
          rcases withoutParent?_eq_some_iff.1 h with hkey | hkey
          · refine absurd ?_ hplatform
            rw [← String.toList_inj, hkey]
            simp
          · refine absurd ?_ hdocument
            rw [← String.toList_inj, hkey]
            simp

/-- A name that begins with underscores keeps its own, and a key that merely begins like the parent's is
taken whole. -/
example :
    ["where__id", "where___id", "where.id", "whereabouts"].map (localName (some "where")) =
      ["id", "_id", "id", "whereabouts"] := by decide

/-! ## Stable order -/

section Stable

variable {α : Type} {le : α → α → Bool} {name : α → String} {items sorted sorted' : List α}

/-- Items in the order of their names, with `id` before all others. Items of one name are in the order that
they came in. -/
structure StablySorted (name : α → String) (items sorted : List α) : Prop where
  perm : sorted.Perm items
  stable : ∀ shared, sorted.filter (name · = shared) = items.filter (name · = shared)
  idFirst : sorted.Pairwise fun first second => name second = idKey → name first = idKey
  ordered : sorted.Pairwise fun first second =>
    name first ≠ idKey → name second ≠ idKey → name first ≤ name second

/-- The order of names puts `id` first and compares the others. -/
theorem nameLe_iff {first second : String} :
    nameLe first second ↔
      (second = idKey → first = idKey) ∧ (first ≠ idKey → second ≠ idKey → first ≤ second) := by
  by_cases hfirst : first = idKey
  · simp [nameLe, hfirst]
  · by_cases hsecond : second = idKey
    · simp [nameLe, hfirst, hsecond]
    · simp [nameLe, hfirst, hsecond]

/-- A name comes before itself. -/
theorem nameLe_refl (name : String) : nameLe name name := by
  simpa using nameLe_total name name

/-- A list is in this order if `id` comes first and the other names are in order. -/
theorem pairwise_nameLe_iff :
    (items.Pairwise fun first second => nameLe (name first) (name second)) ↔
      (items.Pairwise fun first second => name second = idKey → name first = idKey) ∧
        items.Pairwise fun first second =>
          name first ≠ idKey → name second ≠ idKey → name first ≤ name second := by
  simp only [nameLe_iff]
  exact List.pairwise_and_iff

/-- An item is put before all those that it may come before, so it stays first among them. -/
theorem filter_insertBy {p : α → Bool} {item : α} (h : ∀ other, p item → p other → le item other)
    (items : List α) : (insertBy le item items).filter p = (item :: items).filter p := by
  induction items with
  | nil => rfl
  | cons other rest ih =>
    rw [insertBy]
    split
    · rfl
    · rename_i hle
      -- The item passes `other`, so not both of them are kept.
      have hnot : ¬ (p item ∧ p other) := fun hboth => hle (h other hboth.1 hboth.2)
      rw [List.filter_cons, ih]
      by_cases hitem : p item
      · have hother : ¬ p other := fun hother => hnot ⟨hitem, hother⟩
        simp [hitem, hother]
      · simp [hitem, List.filter_cons]

/-- Sorting keeps the order of items that may all stand before each other. -/
theorem filter_sortBy {p : α → Bool} (h : ∀ first second, p first → p second → le first second)
    (items : List α) : (sortBy le items).filter p = items.filter p := by
  induction items with
  | nil => rfl
  | cons item rest ih =>
    -- Each item is put before those that came after it, of which it stays the first.
    rw [sortBy, filter_insertBy (fun other => h item other), List.filter_cons, ih, ← List.filter_cons]

/-- Arranging is a stable sort by name. -/
theorem stablySorted_arrange (name : α → String) (items : List α) :
    StablySorted name items (arrange true name items) := by
  obtain ⟨hid, hordered⟩ := pairwise_nameLe_iff.1 (pairwise_arrange name items)
  refine ⟨arrange_perm true name items, fun shared => filter_sortBy ?_ items, hid, hordered⟩
  intro first second hfirst hsecond
  rw [of_decide_eq_true hfirst, of_decide_eq_true hsecond]
  exact nameLe_refl shared

/-- In an ordered list the first name comes before all, itself included. -/
theorem nameLe_of_mem {first other : α} {rest : List α}
    (h : (first :: rest).Pairwise fun a b => nameLe (name a) (name b)) (hother : other ∈ first :: rest) :
    nameLe (name first) (name other) := by
  rcases List.mem_cons.1 hother with rfl | hother
  · exact nameLe_refl (name other)
  · exact List.rel_of_pairwise_cons h hother

/-- Two ordered lists with the same items of each name, in the same order, are one list. -/
theorem eq_of_filter_eq (h : sorted.Pairwise fun a b => nameLe (name a) (name b))
    (h' : sorted'.Pairwise fun a b => nameLe (name a) (name b))
    (hfilter : ∀ shared, sorted.filter (name · = shared) = sorted'.filter (name · = shared)) :
    sorted = sorted' := by
  have hmem : ∀ item, item ∈ sorted ↔ item ∈ sorted' := by
    intro item
    have hitem : item ∈ sorted.filter (name · = name item) ↔ item ∈ sorted'.filter (name · = name item) := by
      rw [hfilter]
    simpa using hitem
  induction sorted generalizing sorted' with
  | nil =>
    cases sorted' with
    | nil => rfl
    | cons item rest => exact absurd ((hmem item).2 List.mem_cons_self) List.not_mem_nil
  | cons item rest ih =>
    cases sorted' with
    | nil => exact absurd ((hmem item).1 List.mem_cons_self) List.not_mem_nil
    | cons item' rest' =>
      -- Each of the first items is in the other list, so neither name comes after the other.
      have hname : name item = name item' :=
        nameLe_antisymm (nameLe_of_mem h ((hmem item').2 List.mem_cons_self))
          (nameLe_of_mem h' ((hmem item).1 List.mem_cons_self))
      have hhead := hfilter (name item)
      rw [List.filter_cons_of_pos (by simp), List.filter_cons_of_pos (by simp [hname])] at hhead
      obtain ⟨rfl, hrest⟩ := List.cons.inj hhead
      have hfilter' : ∀ shared, rest.filter (name · = shared) = rest'.filter (name · = shared) := by
        intro shared
        by_cases hshared : name item = shared
        · rwa [← hshared]
        · simpa [hshared] using hfilter shared
      have hmem' : ∀ other, other ∈ rest ↔ other ∈ rest' := by
        intro other
        have hother : other ∈ rest.filter (name · = name other) ↔
            other ∈ rest'.filter (name · = name other) := by rw [hfilter']
        simpa using hother
      rw [ih h.of_cons h'.of_cons hfilter' hmem']

/-- There is one stable order of items by their names. -/
theorem stablySorted_iff : StablySorted name items sorted ↔ sorted = arrange true name items := by
  constructor
  · intro h
    refine eq_of_filter_eq (pairwise_nameLe_iff.2 ⟨h.idFirst, h.ordered⟩) (pairwise_arrange name items)
      fun shared => ?_
    rw [h.stable, (stablySorted_arrange name items).stable]
  · rintro rfl
    exact stablySorted_arrange name items

end Stable

/-! ## Sorted forms -/

/-- A field and the same field with its children in order, and the same for all that lies below them. -/
inductive InputField.SortedBelow : InputField → InputField → Prop
  | intro {field result : InputField} {arranged : List InputField}
      (spec : result.toInputSpec = field.toInputSpec)
      (order : StablySorted (fun child => localName (some field.key) child.key) field.children arranged)
      (below : List.Forall₂ InputField.SortedBelow arranged result.children) :
      InputField.SortedBelow field result

/-- The fields of a form in order, each sorted below. -/
def SortedForm (fields result : List InputField) : Prop :=
  ∃ arranged, StablySorted (fun field => localName none field.key) fields arranged ∧
    List.Forall₂ InputField.SortedBelow arranged result

/-- Sorting below a field leaves its key. -/
@[simp]
theorem key_sortChildren (field : InputField) : field.sortChildren.key = field.key := by
  cases field
  rfl

/-- Sorting below all fields is sorting below each. -/
theorem sortAllChildren_eq_map (fields : List InputField) :
    sortAllChildren fields = fields.map InputField.sortChildren := by
  induction fields with
  | nil => rfl
  | cons field rest ih => rw [sortAllChildren, ih, List.map_cons]

/-- Siblings are put in order by their keys, which sorting below them leaves alone. -/
theorem sortInputGroup_eq_map (parent : Option String) (fields : List InputField) :
    sortInputGroup parent true fields =
      (arrange true (fun field => localName parent field.key) fields).map InputField.sortChildren := by
  rw [map_arrange true InputField.sortChildren (fun field => localName parent field.key)
    (fun field => localName parent field.key)
    (fun field => congrArg (localName parent) (key_sortChildren field)), ← sortAllChildren_eq_map]
  rfl

/-- Sorting below a field is sorting the group of its children. -/
theorem sortChildren_eq (field : InputField) :
    field.sortChildren =
      { field with children := sortInputGroup (some field.key) true field.children } := by
  cases field
  rfl

/-- A list of fields, each with the same field sorted below. -/
theorem forall₂_sortedBelow_iff {arranged result : List InputField}
    (h : ∀ field ∈ arranged, ∀ below, field.SortedBelow below ↔ below = field.sortChildren) :
    List.Forall₂ InputField.SortedBelow arranged result ↔
      result = arranged.map InputField.sortChildren := by
  induction arranged generalizing result with
  | nil => exact List.forall₂_nil_left_iff
  | cons field rest ih =>
    obtain ⟨hfield, hrest⟩ := List.forall_mem_cons.1 h
    rw [List.forall₂_cons_left_iff, List.map_cons]
    constructor
    · rintro ⟨below, others, hbelow, hothers, rfl⟩
      rw [(hfield below).1 hbelow, (ih hrest).1 hothers]
    · rintro rfl
      exact ⟨_, _, (hfield _).2 rfl, (ih hrest).2 rfl, rfl⟩

mutual

/-- Sorting below a field gives the only field that is sorted below. -/
theorem InputField.sortedBelow_iff :
    ∀ field result : InputField, field.SortedBelow result ↔ result = field.sortChildren
  | ⟨spec, children⟩, result => by
    have hchildren := sortedBelow_iff_of_mem children
    -- The children are sorted below in one way by induction, in whatever order they stand.
    have hmem : ∀ arranged, StablySorted (fun child => localName (some spec.key) child.key) children
        arranged → ∀ child ∈ arranged, ∀ below, child.SortedBelow below ↔ below = child.sortChildren :=
      fun arranged order child hchild => hchildren child (order.perm.mem_iff.1 hchild)
    rw [sortChildren_eq, sortInputGroup_eq_map]
    constructor
    · intro h
      obtain ⟨hspec, order, below⟩ := h
      obtain ⟨spec', children'⟩ := result
      obtain rfl : spec' = spec := hspec
      have hbelow := (forall₂_sortedBelow_iff (hmem _ order)).1 below
      rw [stablySorted_iff.1 order] at hbelow
      exact congrArg (InputField.mk spec') hbelow
    · rintro rfl
      have order := stablySorted_arrange (fun child : InputField => localName (some spec.key) child.key)
        children
      exact .intro rfl order ((forall₂_sortedBelow_iff (hmem _ order)).2 rfl)

/-- Sorting below each of the fields gives the only fields that are sorted below. -/
theorem sortedBelow_iff_of_mem :
    ∀ fields : List InputField, ∀ field ∈ fields, ∀ result,
      field.SortedBelow result ↔ result = field.sortChildren
  | [], _, h => absurd h List.not_mem_nil
  | first :: rest, field, h => by
    rcases List.mem_cons.1 h with h | h
    · rw [h]
      exact InputField.sortedBelow_iff first
    · exact sortedBelow_iff_of_mem rest field h

end

/-- A form has one sorted form, and sorting finds it. -/
theorem sortedForm_iff {fields result : List InputField} :
    SortedForm fields result ↔ result = sortInputs true fields := by
  have hbelow : ∀ arranged : List InputField, ∀ field ∈ arranged, ∀ below,
      field.SortedBelow below ↔ below = field.sortChildren :=
    fun _ field _ => InputField.sortedBelow_iff field
  rw [sortInputs, sortInputGroup_eq_map]
  constructor
  · rintro ⟨arranged, order, below⟩
    rw [(forall₂_sortedBelow_iff (hbelow arranged)).1 below, stablySorted_iff.1 order]
  · rintro rfl
    exact ⟨_, stablySorted_arrange _ fields, (forall₂_sortedBelow_iff (hbelow _)).2 rfl⟩

/-! ## Sorting again -/

/-- Sorting a group again only sorts again below its fields. -/
theorem sortInputGroup_again (parent : Option String) {fields : List InputField}
    (h : sortAllChildren (sortAllChildren fields) = sortAllChildren fields) :
    sortInputGroup parent true (sortInputGroup parent true fields) = sortInputGroup parent true fields := by
  have hgroup : sortInputGroup parent true fields =
      arrange true (fun field => localName parent field.key) (sortAllChildren fields) := rfl
  rw [sortInputGroup_eq_map, hgroup, arrange_arrange,
    map_arrange true InputField.sortChildren (fun field => localName parent field.key)
      (fun field => localName parent field.key)
      (fun field => congrArg (localName parent) (key_sortChildren field)), ← sortAllChildren_eq_map, h]

mutual

/-- Sorting below a field a second time changes nothing. -/
theorem sortChildren_sortChildren :
    ∀ field : InputField, field.sortChildren.sortChildren = field.sortChildren
  | ⟨spec, children⟩ =>
    congrArg (InputField.mk spec)
      (sortInputGroup_again (some spec.key) (sortAllChildren_sortAllChildren children))

/-- Sorting below many fields a second time changes nothing. -/
theorem sortAllChildren_sortAllChildren :
    ∀ fields : List InputField, sortAllChildren (sortAllChildren fields) = sortAllChildren fields
  | [] => rfl
  | field :: rest =>
    congrArg₂ List.cons (sortChildren_sortChildren field) (sortAllChildren_sortAllChildren rest)

end

/-- Sorting leaves a form alone unless it is asked for. When it is, it finds the one form in which the
siblings at each level stand in stable order of their local names, and every field is otherwise as before.
A second sort changes nothing, and neither does sorting the children of each field beforehand. -/
theorem sortInputs_sorts (fields : List InputField) :
    sortInputs false fields = fields ∧
      (∀ result, SortedForm fields result ↔ result = sortInputs true fields) ∧
      sortInputs true (sortInputs true fields) = sortInputs true fields ∧
      sortInputs true (fields.map fun field =>
          { field with children := sortInputGroup (some field.key) true field.children }) =
        sortInputs true fields ∧
      ∀ parent key name, localName parent key = name ↔ IsLocalName parent key name := by
  refine ⟨rfl, fun result => sortedForm_iff, ?_, ?_, fun parent key name => localName_eq_iff⟩
  · exact sortInputGroup_again none (sortAllChildren_sortAllChildren fields)
  · have hsorted : (fields.map fun field =>
        { field with children := sortInputGroup (some field.key) true field.children }) =
        sortAllChildren fields := by
      rw [sortAllChildren_eq_map]
      exact List.map_congr_left fun field _ => (sortChildren_eq field).symm
    have hbelow : ∀ forms : List InputField, sortInputs true forms =
        arrange true (fun field => localName none field.key) (sortAllChildren forms) := fun _ => rfl
    rw [hsorted, hbelow, hbelow, sortAllChildren_sortAllChildren]

end ActionForge
