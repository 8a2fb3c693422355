import Mathlib.Data.List.Perm.Basic
import ActionForge.Sdl.Definition

/-!
# Laws of type tables

A table is known by what it holds under each name (`TypeTable.ext_get?`), and insertion and extension are
known by what they change under each name. A schema made from definitions keeps the built-in scalar types
under their names, unless a definition takes the place of one.
-/

namespace ActionForge

namespace TypeTable

/-! ## Looking up -/

/-- A type is found under its own name. -/
theorem name_of_get? {table : TypeTable} {name : String} {type : NamedType}
    (h : table.get? name = some type) : type.name = name := by
  simpa using List.find?_some h

/-- What is found in a table is one of its types. -/
theorem mem_of_get? {table : TypeTable} {name : String} {type : NamedType}
    (h : table.get? name = some type) : type ∈ table.types := List.mem_of_find?_eq_some h

/-- Every type of a table is held under its name. -/
theorem get?_of_mem {table : TypeTable} {type : NamedType} (h : type ∈ table.types) :
    table.get? type.name = some type := by
  obtain ⟨types, sorted⟩ := table
  show types.find? (fun other => other.name = type.name) = some type
  change type ∈ types at h
  induction types with
  | nil => cases h
  | cons other rest ih =>
    obtain ⟨hother, hrest⟩ := List.pairwise_cons.1 sorted
    rcases List.mem_cons.1 h with rfl | h
    · exact List.find?_cons_of_pos (by simp)
    · have hne : other.name ≠ type.name := (String.ne_of_lt (hother type h))
      rw [List.find?_cons_of_neg (by simpa using hne)]
      exact ih hrest h

/-- The types that are found under a name are those of the table with the name. -/
theorem get?_eq_some_iff {table : TypeTable} {name : String} {type : NamedType} :
    table.get? name = some type ↔ type ∈ table.types ∧ type.name = name := by
  constructor
  · intro h
    exact ⟨mem_of_get? h, name_of_get? h⟩
  · rintro ⟨hmem, rfl⟩
    exact get?_of_mem hmem

/-- A table is known by what it holds under each name. -/
theorem ext_get? {table other : TypeTable} (h : ∀ name, table.get? name = other.get? name) :
    table = other := by
  have hnodup : ∀ t : TypeTable, t.types.Nodup := by
    intro t
    refine t.sorted.imp fun {a b} hlt hab => ?_
    rw [hab] at hlt
    exact String.lt_irrefl _ hlt
  have hmem : ∀ type, type ∈ table.types ↔ type ∈ other.types := by
    intro type
    have hboth : table.get? type.name = some type ↔ other.get? type.name = some type := by
      rw [h]
    simpa [get?_eq_some_iff] using hboth
  -- Tables with the same types are permutations of each other, and both are sorted.
  have hperm := (List.perm_ext_iff_of_nodup (hnodup table) (hnodup other)).2 hmem
  have htypes : table.types = other.types :=
    hperm.eq_of_pairwise
      (fun a b _ _ hab hba => absurd (String.lt_trans hab hba) (String.lt_irrefl _))
      table.sorted other.sorted
  obtain ⟨types, sorted⟩ := table
  obtain ⟨types', sorted'⟩ := other
  cases htypes
  rfl

/-! ## Changing -/

/-- A type that is put in is found under its name; under other names nothing changes. -/
theorem get?_insert (table : TypeTable) (type : NamedType) (name : String) :
    (table.insert type).get? name = if type.name = name then some type else table.get? name := by
  obtain ⟨types, sorted⟩ := table
  show (place type types).find? (fun other => other.name = name) =
    if type.name = name then some type else types.find? fun other => other.name = name
  clear sorted
  -- The cases are those of `place`, which goes on as long as the new type comes later.
  induction types with
  | nil =>
    rw [place]
    by_cases hname : type.name = name <;> simp [hname]
  | cons other rest ih =>
    rw [place]
    split
    · by_cases hname : type.name = name <;> simp [hname]
    · split
      · rename_i hlt
        rw [List.find?_cons, List.find?_cons, ih]
        by_cases hname : type.name = name
        · have hother : other.name ≠ name := fun h => by
            rw [hname, h] at hlt
            exact String.lt_irrefl _ hlt
          simp [hname, hother]
        · simp [hname]
      · rename_i hnot hnot'
        -- Neither name stands before the other, so the type takes the place of `other`.
        have hsame : type.name = other.name :=
          String.le_antisymm (String.not_lt.1 hnot') (String.not_lt.1 hnot)
        by_cases hname : type.name = name
        · simp [hname]
        · have hother : other.name ≠ name := hsame ▸ hname
          simp [hname, hother]

/-- Extending a type changes what is found under the name of the type. -/
theorem get?_extend (table : TypeTable) (owner : String) (more : TypeKind) (name : String) :
    (table.extend owner more).get? name =
      (table.get? name).map fun type =>
        if type.name = owner then { type with kind := type.kind.extend more } else type := by
  have hname : ((fun type : NamedType => decide (type.name = name)) ∘ fun type : NamedType =>
      if type.name = owner then { type with kind := type.kind.extend more } else type) =
      fun type => decide (type.name = name) := by
    funext type
    simp only [Function.comp_apply]
    split <;> rfl
  rw [get?, extend, List.find?_map, hname]
  rfl

/-- Types of a common schema, inserted in any order and any number of times, hold their names. -/
theorem get?_foldl_insert {found : String → Option NamedType} {types : List NamedType}
    (h : ∀ type ∈ types, found type.name = some type) (table : TypeTable) (name : String) :
    (types.foldl insert table).get? name =
      if name ∈ types.map NamedType.name then found name else table.get? name := by
  induction types generalizing table with
  | nil => rfl
  | cons type rest ih =>
    obtain ⟨htype, hrest⟩ := List.forall_mem_cons.1 h
    rw [List.foldl_cons, ih hrest, get?_insert, List.map_cons]
    by_cases hmem : name ∈ rest.map NamedType.name
    · rw [if_pos hmem, if_pos (List.mem_cons_of_mem _ hmem)]
    · rw [if_neg hmem]
      by_cases hname : type.name = name
      · rw [if_pos hname, if_pos (hname ▸ List.mem_cons_self), ← hname, htype]
      · have hnot : name ∉ type.name :: rest.map NamedType.name := by
          simpa [Ne.symm hname] using hmem
        rw [if_neg hname, if_neg hnot]

end TypeTable

namespace Schema

open Sdl (Definition)

/-- No definition takes a name out of the table. -/
theorem isSome_get?_declare {table : TypeTable} {name : String} (h : (table.get? name).isSome)
    (definition : Definition) : ((declare table definition).get? name).isSome := by
  cases definition with
  | type type =>
    rw [declare, TypeTable.get?_insert]
    split
    · rfl
    · exact h
  | _ => exact h

/-- No extension takes a name out of the table. -/
theorem isSome_get?_enlarge {table : TypeTable} {name : String} (h : (table.get? name).isSome)
    (definition : Definition) : ((enlarge table definition).get? name).isSome := by
  cases definition with
  | extension owner more =>
    rw [enlarge, TypeTable.get?_extend, Option.isSome_map]
    exact h
  | _ => exact h

/-- A schema has a type under the name of every built-in scalar. -/
theorem isSome_get?_ofDefinitions (definitions : List Definition) {name : String}
    (h : (TypeTable.builtin.get? name).isSome) :
    ((ofDefinitions definitions).types.get? name).isSome := by
  have hdeclared : ((definitions.foldl declare TypeTable.builtin).get? name).isSome := by
    -- Definitions are read before extensions, and neither of them loses a name.
    refine List.foldlRecOn (motive := fun table : TypeTable => (table.get? name).isSome)
      definitions declare h ?_
    intro table htable definition _
    exact isSome_get?_declare htable definition
  refine List.foldlRecOn (motive := fun table : TypeTable => (table.get? name).isSome)
    definitions enlarge hdeclared ?_
  intro table htable definition _
  exact isSome_get?_enlarge htable definition

end Schema

end ActionForge
