import Mathlib.Data.List.Nodup
import Mathlib.Data.List.Perm.Basic
import ActionForge.Form.Build

/-!
# Laws of the field order

Sorting by insertion permutes, orders and leaves ordered lists alone, and it goes along with every map
that keeps the comparison. The local name of a key that `Target.key` built is the name it was built from,
for both targets and for names of any characters, so both targets sort alike.
-/

namespace ActionForge

/-! ## Sorting by insertion -/

section Sorting

variable {α β : Type} {le : α → α → Bool}

/-- Inserting an item adds it and keeps the others. -/
theorem insertBy_perm (item : α) (items : List α) : (insertBy le item items).Perm (item :: items) := by
  induction items with
  | nil => exact .refl _
  | cons other rest ih =>
    rw [insertBy]
    split
    · exact .refl _
    · exact (ih.cons other).trans (.swap item other rest)

/-- Sorting permutes. -/
theorem sortBy_perm (items : List α) : (sortBy le items).Perm items := by
  induction items with
  | nil => exact .refl _
  | cons item rest ih => exact (insertBy_perm item _).trans (ih.cons item)

/-- Sorting neither adds nor drops an item. -/
@[simp]
theorem mem_sortBy {item : α} {items : List α} : item ∈ sortBy le items ↔ item ∈ items :=
  (sortBy_perm items).mem_iff

/-- Inserting into an ordered list keeps the order, if any two items can be compared. -/
theorem pairwise_insertBy (total : ∀ a b, le a b || le b a)
    (trans : ∀ a b c, le a b → le b c → le a c) (item : α) {items : List α}
    (h : items.Pairwise fun a b => le a b) :
    (insertBy le item items).Pairwise fun a b => le a b := by
  induction items with
  | nil => simp [insertBy]
  | cons other rest ih =>
    obtain ⟨hother, hrest⟩ := List.pairwise_cons.1 h
    rw [insertBy]
    split
    · -- The item belongs here: it comes before the first, hence before all.
      rename_i hle
      refine List.pairwise_cons.2 ⟨fun found hfound => ?_, h⟩
      rcases List.mem_cons.1 hfound with rfl | hfound
      · exact hle
      · exact trans _ _ _ hle (hother found hfound)
    · rename_i hle
      -- It does not come before the first, so the first comes before it.
      have hle' : le other item := by simpa [hle] using total item other
      refine List.pairwise_cons.2 ⟨fun found hfound => ?_, ih hrest⟩
      rcases List.mem_cons.1 ((insertBy_perm item rest).mem_iff.1 hfound) with rfl | hfound
      · exact hle'
      · exact hother found hfound

/-- Hence a sorted list is in order, by induction on the list. -/
theorem pairwise_sortBy (total : ∀ a b, le a b || le b a)
    (trans : ∀ a b c, le a b → le b c → le a c) (items : List α) :
    (sortBy le items).Pairwise fun a b => le a b := by
  induction items with
  | nil => exact .nil
  | cons item rest ih => exact pairwise_insertBy total trans item ih

/-- An ordered list stays as it is. -/
theorem sortBy_of_pairwise {items : List α} (h : items.Pairwise fun a b => le a b) :
    sortBy le items = items := by
  induction items with
  | nil => rfl
  | cons item rest ih =>
    obtain ⟨hitem, hrest⟩ := List.pairwise_cons.1 h
    rw [sortBy, ih hrest]
    cases rest with
    | nil => rfl
    | cons other others => rw [insertBy, if_pos (hitem other List.mem_cons_self)]

/-- Inserting goes along with a map that keeps the comparison. -/
theorem map_insertBy {le' : β → β → Bool} (f : α → β) (hf : ∀ a b, le' (f a) (f b) = le a b)
    (item : α) (items : List α) :
    (insertBy le item items).map f = insertBy le' (f item) (items.map f) := by
  induction items with
  | nil => rfl
  | cons other rest ih =>
    rw [insertBy, List.map_cons, insertBy, hf]
    split
    · rfl
    · rw [List.map_cons, ih]

/-- Sorting goes along with a map that keeps the comparison. -/
theorem map_sortBy {le' : β → β → Bool} (f : α → β) (hf : ∀ a b, le' (f a) (f b) = le a b)
    (items : List α) : (sortBy le items).map f = sortBy le' (items.map f) := by
  induction items with
  | nil => rfl
  | cons item rest ih => rw [sortBy, List.map_cons, sortBy, map_insertBy f hf, ih]

end Sorting

/-! ## Comparing names -/

/-- Of two names one comes first; `id` comes before all. -/
theorem nameLe_total (first second : String) : nameLe first second || nameLe second first := by
  by_cases hf : first = idKey
  · simp [nameLe, hf]
  · by_cases hs : second = idKey
    · simp [nameLe, hs]
    · simpa [nameLe, hf, hs] using String.le_total first second

/-- The order of names is transitive. -/
theorem nameLe_trans {first second third : String} (h : nameLe first second)
    (h' : nameLe second third) : nameLe first third := by
  by_cases hf : first = idKey
  · simp [nameLe, hf]
  · -- If the first is not `id`, neither is any name after it, so plain comparison decides.
    have hs : second ≠ idKey ∧ first ≤ second := by simpa [nameLe, hf] using h
    have ht : third ≠ idKey ∧ second ≤ third := by simpa [nameLe, hs.1] using h'
    simpa [nameLe, hf, ht.1] using String.le_trans hs.2 ht.2

/-- Names that come before each other are equal. -/
theorem nameLe_antisymm {first second : String} (h : nameLe first second)
    (h' : nameLe second first) : first = second := by
  by_cases hf : first = idKey
  · have hs : second = idKey := by simpa [nameLe, hf] using h'
    rw [hf, hs]
  · have hs : second ≠ idKey ∧ first ≤ second := by simpa [nameLe, hf] using h
    have hle : second ≤ first := by simpa [nameLe, hf, hs.1] using h'
    exact String.le_antisymm hs.2 hle

/-! ## Local names -/

/-- What was put before a text can be dropped from it. -/
@[simp]
theorem dropStart?_append (start text : List Char) : dropStart? start (start ++ text) = some text := by
  induction start with
  | nil => cases text <;> rfl
  | cons c rest ih => simp [dropStart?, ih]

/-- A start is dropped from the texts that begin with it, and the rest is left. -/
theorem dropStart?_eq_some_iff {start text rest : List Char} :
    dropStart? start text = some rest ↔ text = start ++ rest := by
  constructor
  · intro h
    induction start generalizing text with
    | nil => cases text <;> simpa [dropStart?] using h
    | cons c start ih =>
      cases text with
      | nil => cases h
      | cons d text =>
        rw [dropStart?] at h
        split at h
        · rename_i hc
          rw [hc, ih h]
          rfl
        · cases h
  · rintro rfl
    exact dropStart?_append start rest

/-- Without a parent the local name is the key. -/
@[simp]
theorem localName_none (key : String) : localName none key = key := rfl

/-- A key built for a target has the name it was built from as its local name. -/
@[simp]
theorem localName_key (target : Target) (parent : Option String) (name : String) :
    localName parent (target.key parent name) = name := by
  cases parent with
  | none => cases target <;> rfl
  | some parent =>
    cases target <;>
      simp [localName, Target.key, joinKey, withoutParent?, List.append_assoc, dropStart?]

/-! ## Arranging by name -/

section Arranging

variable {α β : Type}

/-- Puts items in the order of their names, when that is asked for. -/
def arrange (sort : Bool) (name : α → String) (items : List α) : List α :=
  if sort then sortBy (fun first second => nameLe (name first) (name second)) items else items

/-- Arranging permutes, whether it sorts or not. -/
theorem arrange_perm (sort : Bool) (name : α → String) (items : List α) :
    (arrange sort name items).Perm items := by
  cases sort
  · exact .refl _
  · exact sortBy_perm items

/-- Arranging neither adds nor drops an item. -/
@[simp]
theorem mem_arrange {sort : Bool} {name : α → String} {items : List α} {item : α} :
    item ∈ arrange sort name items ↔ item ∈ items :=
  (arrange_perm sort name items).mem_iff

/-- Only no items are arranged to none. -/
@[simp]
theorem arrange_eq_nil {sort : Bool} {name : α → String} {items : List α} :
    arrange sort name items = [] ↔ items = [] := by
  rw [← List.length_eq_zero_iff, (arrange_perm sort name items).length_eq, List.length_eq_zero_iff]

/-- Arranging goes along with a map that keeps the names. -/
theorem map_arrange (sort : Bool) (f : α → β) (name : α → String) (name' : β → String)
    (hf : ∀ a, name' (f a) = name a) (items : List α) :
    (arrange sort name items).map f = arrange sort name' (items.map f) := by
  cases sort
  · rfl
  · exact map_sortBy f (fun a b => by rw [hf, hf]) items

/-- When sorting is asked for, items are arranged in the order of their names. -/
theorem pairwise_arrange (name : α → String) (items : List α) :
    (arrange true name items).Pairwise fun a b => nameLe (name a) (name b) :=
  pairwise_sortBy (fun a b => nameLe_total (name a) (name b)) (fun _ _ _ => nameLe_trans) items

/-- Arranging twice is arranging once. -/
theorem arrange_arrange (sort : Bool) (name : α → String) (items : List α) :
    arrange sort name (arrange sort name items) = arrange sort name items := by
  cases sort
  · rfl
  · exact sortBy_of_pairwise (pairwise_arrange name items)

/-- Where names are distinct, items have one arrangement whatever order they come in. -/
theorem arrange_eq_of_perm {name : α → String} {items items' : List α} (hperm : items.Perm items')
    (hnames : (items.map name).Nodup) : arrange true name items = arrange true name items' := by
  have harranged : (arrange true name items).Perm (arrange true name items') :=
    (arrange_perm true name items).trans (hperm.trans (arrange_perm true name items').symm)
  refine harranged.eq_of_pairwise (fun a b ha hb hab hba => ?_) (pairwise_arrange name items)
    (pairwise_arrange name items')
  have ha' : a ∈ items := mem_arrange.1 ha
  have hb' : b ∈ items := hperm.mem_iff.2 (mem_arrange.1 hb)
  exact List.inj_on_of_nodup_map hnames ha' hb' (nameLe_antisymm hab hba)

/-- An identifier that is added at the end comes first once the items are sorted. -/
theorem arrange_append_id {name : α → String} {items : List α} {added : α} (hid : name added = idKey)
    (h : ∀ item ∈ items, name item ≠ idKey) :
    arrange true name (items ++ [added]) = added :: arrange true name items := by
  simp only [arrange, if_true]
  induction items with
  | nil => rfl
  | cons item rest ih =>
    have hitem : ¬ nameLe (name item) (name added) := by
      simp [nameLe, hid, h item List.mem_cons_self]
    rw [List.cons_append, sortBy, ih fun other hother => h other (List.mem_cons_of_mem item hother),
      insertBy, if_neg hitem, sortBy]

end Arranging

end ActionForge
