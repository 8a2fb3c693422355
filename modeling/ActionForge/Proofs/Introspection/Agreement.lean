import ActionForge.Proofs.Introspection.Loading
import ActionForge.Proofs.Schema.Table
import ActionForge.Sdl.Grammar

/-!
# Agreement of replies and schema texts

A reply for the schema of a text is loaded as that schema, in whatever order it lists the types, whether
it lists the built-in types or not, and whatever it is wrapped in. When the query cuts a reference off,
the reply is refused, so no type is ever taken for another one (`ofIntrospection_replyJson`).
-/

namespace ActionForge

namespace Introspection

/-- The types are those of the schema, in any order. Built-in types that the schema leaves as they are
may be missing. -/
structure Covers (schema : Schema) (types : List NamedType) : Prop where
  sound : ∀ type ∈ types, type ∈ schema.types.types
  complete : ∀ type ∈ schema.types.types, type ∈ types ∨ type ∈ TypeTable.builtin.types

/-- The schema has a type under the name of every built-in type. -/
def KeepsBuiltin (schema : Schema) : Prop :=
  ∀ name, (TypeTable.builtin.get? name).isSome → (schema.types.get? name).isSome

/-- Adding the types of a schema to the built-in ones gives its table. -/
theorem Covers.foldl_insert {schema : Schema} {types : List NamedType} (h : Covers schema types)
    (hbuiltin : KeepsBuiltin schema) : types.foldl TypeTable.insert .builtin = schema.types := by
  apply TypeTable.ext_get?
  intro name
  have hfound : ∀ type ∈ types, schema.types.get? type.name = some type := fun type htype =>
    TypeTable.get?_of_mem (h.sound type htype)
  rw [TypeTable.get?_foldl_insert hfound]
  by_cases hname : name ∈ types.map NamedType.name
  · rw [if_pos hname]
  · rw [if_neg hname]
    cases hget : schema.types.get? name with
    | none =>
      -- The name is not built in either, or the schema would have a type for it.
      by_contra hbuiltin'
      have hsome := hbuiltin name (Option.isSome_iff_ne_none.2 hbuiltin')
      rw [hget] at hsome
      cases hsome
    | some type =>
      obtain ⟨hmem, rfl⟩ := TypeTable.get?_eq_some_iff.1 hget
      rcases h.complete type hmem with hlisted | hlisted
      · exact absurd (List.mem_map_of_mem hlisted) hname
      · exact TypeTable.get?_of_mem hlisted

/-- Built-in types refer to nothing. -/
theorem references_of_mem_builtin : ∀ type ∈ TypeTable.builtin.types, type.references = [] := by
  decide

/-- The references of a schema are those of the types that cover it. -/
theorem Covers.mem_references_iff {schema : Schema} {types : List NamedType} (h : Covers schema types)
    {ref : TypeRef} : ref ∈ schema.references ↔ ref ∈ types.flatMap NamedType.references := by
  rw [Schema.references, List.mem_flatMap, List.mem_flatMap]
  constructor
  · rintro ⟨type, htype, href⟩
    rcases h.complete type htype with hlisted | hlisted
    · exact ⟨type, hlisted, href⟩
    · rw [references_of_mem_builtin type hlisted] at href
      cases href
  · rintro ⟨type, htype, href⟩
    exact ⟨type, h.sound type htype, href⟩

/-- Nothing is wrong with a schema when none of its references is cut off. -/
theorem Covers.findSome?_eq_none_iff {schema : Schema} {types : List NamedType}
    (h : Covers schema types) :
    types.findSome? typeFault? = none ↔ ∀ ref ∈ schema.references, ref.wrappers ≤ refDepth := by
  simp only [List.findSome?_eq_none_iff, typeFault?_eq_none_iff, h.mem_references_iff,
    List.mem_flatMap]
  constructor
  · rintro hall ref ⟨type, htype, href⟩
    exact hall type htype ref href
  · intro hall type htype ref href
    exact hall ref ⟨type, htype, href⟩

/-- A reply is loaded as the types that it lists, unless a reference of one of them is cut off. -/
theorem ofIntrospection_wrap (schema : Schema) {service : Service} {types : List NamedType}
    {items : List Json} (hitems : Lists service types items)
    (hplain : ∀ type ∈ types, isReserved type.name = false) (envelope : Envelope) :
    Schema.ofIntrospection (envelope.wrap (replyJson schema items)) =
      checked (types.findSome? typeFault?)
        { schema with types := types.foldl TypeTable.insert .builtin } := by
  obtain ⟨shapes, hread, hadd⟩ := hitems.addTypes_eq hplain
  have hshape : (readSchema (replyJson schema items)).mapError ReplyFault.shape =
      .ok ⟨some schema.queryRoot, schema.mutationRoot, shapes⟩ := by
    rw [readSchema_replyJson schema hread]
    rfl
  rw [Schema.ofIntrospection, schemaRecord_wrap, hshape]
  show (do
    let types ← addTypes .builtin shapes
    return (⟨schema.queryRoot, schema.mutationRoot, types⟩ : Schema)) = _
  rw [hadd]
  exact checked_bind_pure _ _ _

/-- A reply for the schema of a text is loaded as that schema when no reference has more wrappers than
the query follows, and is refused for such a reference otherwise. -/
theorem ofIntrospection_replyJson {text : String} {schema : Schema}
    (htext : (Sdl.definitions text).map Schema.ofDefinitions = .ok schema)
    (hplain : ∀ type ∈ schema.types.types, isReserved type.name = false)
    {service : Service} {types : List NamedType} {items : List Json}
    (hcovers : Covers schema types) (hitems : Lists service types items) (envelope : Envelope) :
    ((∀ ref ∈ schema.references, ref.wrappers ≤ refDepth) →
      Schema.ofIntrospection (envelope.wrap (replyJson schema items)) = .ok schema) ∧
    ((∃ ref ∈ schema.references, refDepth < ref.wrappers) →
      ∃ owner, Schema.ofIntrospection (envelope.wrap (replyJson schema items)) =
        .error (.reference owner .noInner)) := by
  have hbuiltin : KeepsBuiltin schema := by
    obtain ⟨definitions, -, rfl⟩ := exists_of_map_eq_ok htext
    intro name hname
    exact Schema.isSome_get?_ofDefinitions definitions hname
  have hplain' : ∀ type ∈ types, isReserved type.name = false := fun type htype =>
    hplain type (hcovers.sound type htype)
  -- What is loaded is a checked value, so only the faults are left to tell apart.
  rw [ofIntrospection_wrap schema hitems hplain', hcovers.foldl_insert hbuiltin]
  constructor
  · intro hdepth
    rw [hcovers.findSome?_eq_none_iff.2 hdepth]
    rfl
  · rintro ⟨ref, href, hdeep⟩
    cases hfault : types.findSome? typeFault? with
    | none =>
      have hdepth := hcovers.findSome?_eq_none_iff.1 hfault ref href
      exact absurd hdeep (Nat.not_lt.2 hdepth)
    | some fault =>
      obtain ⟨type, -, htype⟩ := List.exists_of_findSome?_eq_some hfault
      obtain ⟨owner, rfl⟩ := exists_owner_of_typeFault? htype
      exact ⟨owner, rfl⟩

/-! ## At the depth of the query -/

/-- A schema text with a field whose type has so many wrappers. -/
def shelfText (depth : Nat) : String :=
  "type Query \x7b shelf(at: Place): " ++ String.ofList (List.replicate depth '[') ++ "ID" ++
    String.ofList (List.replicate depth ']') ++ " \x7d input Place \x7b row: Int! \x7d"

/-- The type of the field. -/
def shelfRef : Nat → TypeRef
  | 0 => .named "ID"
  | depth + 1 => .list (shelfRef depth)

/-- The root type of the text. -/
def shelfType (depth : Nat) : NamedType :=
  ⟨"Query", none, .object [⟨"shelf", none, shelfRef depth, [⟨"at", none, .named "Place"⟩]⟩]⟩

/-- The input type of the text. -/
def placeType : NamedType := ⟨"Place", none, .input [⟨"row", none, .nonNull (.named "Int")⟩]⟩

/-- The schema of the text. -/
def shelfSchema (depth : Nat) : Schema :=
  { queryRoot := "Query"
    mutationRoot := none
    types := (TypeTable.builtin.insert (shelfType depth)).insert placeType }

/-- A service with the schema. -/
def shelfService : Service :=
  { tagOf := fun name => if name = "Place" then .inputObject else .scalar
    plain := fun name => by split <;> decide
    implementations := fun _ => [] }

/-- A type of introspection itself. -/
def metaType : NamedType := ⟨"__Field", none, .object [⟨"name", none, .nonNull (.named "String"), []⟩]⟩

/-- What the service lists. No built-in type is among it. -/
def shelfItems (depth : Nat) : List Json :=
  [shelfType depth, metaType, placeType].map shelfService.typeJson

/-- The service lists the two types of the schema, with a type of introspection between them. -/
theorem lists_shelfItems (depth : Nat) :
    Lists shelfService [shelfType depth, placeType] (shelfItems depth) :=
  .type _ (.reserved (shelfService.readType_typeJson metaType) (by decide) (.type _ .nil))

/-- Seven wrappers are followed to their end and eight are not. -/
theorem ofIntrospection_replyJson_shelf :
    Schema.ofIntrospection (Envelope.response.wrap (replyJson (shelfSchema 7) (shelfItems 7))) =
        .ok (shelfSchema 7) ∧
      ∃ owner, Schema.ofIntrospection (Envelope.bare.wrap (replyJson (shelfSchema 8) (shelfItems 8))) =
        .error (.reference owner .noInner) := by
  have htextSeven : (Sdl.definitions (shelfText 7)).map Schema.ofDefinitions = .ok (shelfSchema 7) := by
    decide +kernel
  have htextEight : (Sdl.definitions (shelfText 8)).map Schema.ofDefinitions = .ok (shelfSchema 8) := by
    decide +kernel
  have hcovers : ∀ depth ∈ [7, 8], Covers (shelfSchema depth) [shelfType depth, placeType] := by
    intro depth hdepth
    rcases List.mem_pair.1 hdepth with rfl | rfl
    · exact ⟨by decide +kernel, by decide +kernel⟩
    · exact ⟨by decide +kernel, by decide +kernel⟩
  refine ⟨(ofIntrospection_replyJson htextSeven (by decide +kernel) (hcovers 7 (by decide))
      (lists_shelfItems 7) .response).1 (by decide +kernel),
    (ofIntrospection_replyJson htextEight (by decide +kernel) (hcovers 8 (by decide))
      (lists_shelfItems 8) .bare).2 (by decide +kernel)⟩

end Introspection

end ActionForge
