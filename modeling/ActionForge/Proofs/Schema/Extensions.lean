import ActionForge.Proofs.DeclarationOrder
import ActionForge.Proofs.Schema.Table
import ActionForge.Sdl.Grammar

/-!
# Extensions in a schema text

A schema text may extend a type at several places, also before it defines the type. `declared?` is what the
text says of a name by definitions alone: the last one, or else the built-in scalar. `extensionsOf` is what
its extensions add under the name, in the order of the text. By `ofDefinitions_extensions` the schema holds
under every name the first with the second appended, as far as it is of the same kind. So definitions and
extensions may be moved about, an extension that does not apply may be struck out, and one that does may be
written into the definition.
-/

namespace ActionForge

/-! ## Kinds with more members -/

namespace TypeKind

/-- Whether the members of `more` belong to a kind: the two are alike and have members. -/
def takes : TypeKind → TypeKind → Bool
  | .object _, .object _ | .interface _, .interface _ | .union _, .union _ | .enum _, .enum _
  | .input _, .input _ => true
  | _, _ => false

/-- A kind with the members of all others that are alike after its own. -/
def gather (kind : TypeKind) (others : List TypeKind) : TypeKind :=
  match kind with
  | .scalar => .scalar
  | .object fields => .object (fields ++ others.flatMap fun | .object more => more | _ => [])
  | .interface fields => .interface (fields ++ others.flatMap fun | .interface more => more | _ => [])
  | .union types => .union (types ++ others.flatMap fun | .union more => more | _ => [])
  | .enum values => .enum (values ++ others.flatMap fun | .enum more => more | _ => [])
  | .input fields => .input (fields ++ others.flatMap fun | .input more => more | _ => [])

/-- Without others a kind stays what it is. -/
@[simp]
theorem gather_nil (kind : TypeKind) : kind.gather [] = kind := by
  cases kind <;> simp [gather]

/-- Gathering begins with the first of the others. -/
theorem gather_cons (kind more : TypeKind) (rest : List TypeKind) :
    kind.gather (more :: rest) = (kind.extend more).gather rest := by
  cases kind <;> cases more <;> simp [extend, gather]

/-- Extending a kind by one after the other appends what they have, in their order. -/
theorem foldl_extend (kind : TypeKind) (others : List TypeKind) :
    others.foldl extend kind = kind.gather others := by
  induction others generalizing kind with
  | nil => exact (gather_nil kind).symm
  | cons more rest ih => rw [List.foldl_cons, ih, gather_cons]

/-- A kind with more members takes what it took before. -/
@[simp]
theorem takes_gather (kind : TypeKind) (others : List TypeKind) :
    (kind.gather others).takes = kind.takes := by
  funext more
  cases kind <;> cases more <;> rfl

/-- Members of another kind are left out. -/
theorem extend_of_not_takes {kind more : TypeKind} (h : ¬ kind.takes more) :
    kind.extend more = kind := by
  cases kind <;> cases more <;> first | rfl | exact absurd rfl h

/-- What is of another kind adds nothing. -/
theorem gather_filter (kind : TypeKind) (others : List TypeKind) :
    kind.gather (others.filter kind.takes) = kind.gather others := by
  induction others generalizing kind with
  | nil => rfl
  | cons more rest ih =>
    have htakes : (kind.extend more).takes = kind.takes := by
      rw [← gather_nil (kind.extend more), ← gather_cons, takes_gather]
    by_cases h : kind.takes more
    · rw [List.filter_cons_of_pos h, gather_cons, gather_cons, ← htakes, ih]
    · rw [List.filter_cons_of_neg h, ih, gather_cons, extend_of_not_takes h]

end TypeKind

/-! ## Definitions and extensions of a name -/

namespace Sdl.Definition

/-- The type that is defined. -/
def type? : Definition → Option NamedType
  | .type defined => some defined
  | _ => none

/-- What is added to the type of a name. -/
def added? (name : String) : Definition → Option TypeKind
  | .extension owner more => if owner = name then some more else none
  | _ => none

/-- Whether it is a schema block. -/
def isRoots : Definition → Bool
  | .roots _ _ => true
  | _ => false

end Sdl.Definition

namespace Schema

open Sdl (Definition)

/-- The names of the built-in scalars. -/
def builtinNames : List String := ["String", "Int", "Float", "Boolean", "ID"]

/-- A scalar of which nothing but the name is known. -/
def plainScalar (name : String) : NamedType := ⟨name, none, .scalar⟩

/-- The types that a text defines, in its order. -/
def typesIn (definitions : List Definition) : List NamedType := definitions.filterMap Definition.type?

/-- The last definition of a name. -/
def lastDefinition? (definitions : List Definition) (name : String) : Option NamedType :=
  (typesIn definitions).reverse.find? fun type => type.name = name

/-- The type of a name before extensions: its last definition, or the built-in scalar. -/
def declared? (definitions : List Definition) (name : String) : Option NamedType :=
  (lastDefinition? definitions name).or
    (if name ∈ builtinNames then some (plainScalar name) else none)

/-- What the extensions of a name add, in the order of the text. -/
def extensionsOf (definitions : List Definition) (name : String) : List TypeKind :=
  definitions.filterMap (Definition.added? name)

/-- Whether an extension finds a type of its kind under the name. -/
def applies (definitions : List Definition) (owner : String) (more : TypeKind) : Bool :=
  (declared? definitions owner).any fun type => type.kind.takes more

end Schema

open Schema in
/-- A type with the members that the extensions of its name add. -/
def NamedType.extendedBy (type : NamedType) (definitions : List Sdl.Definition) : NamedType :=
  { type with kind := type.kind.gather (extensionsOf definitions type.name) }

namespace Schema

open Sdl (Definition)

/-- A definition of a text in which extensions of the chosen names are written into the definitions. -/
def mergedDefinition? (definitions : List Definition) (chosen : String → Bool) :
    Definition → Option Definition
  | .type type => some (.type (if chosen type.name then type.extendedBy definitions else type))
  | .extension owner more =>
    if chosen owner && applies definitions owner more then none else some (.extension owner more)
  | other => some other

/-- A text with the extensions of the chosen names written into the definitions, as far as they apply. -/
def merged (definitions : List Definition) (chosen : String → Bool) : List Definition :=
  definitions.filterMap (mergedDefinition? definitions chosen)

/-! ## What a schema holds under a name -/

/-- Before a text is read, the table holds the built-in scalars and nothing else. -/
theorem get?_builtin (name : String) :
    TypeTable.builtin.get? name = if name ∈ builtinNames then some (plainScalar name) else none := by
  have hbuiltin : TypeTable.builtin = (builtinNames.map plainScalar).foldl TypeTable.insert .empty :=
    List.foldl_map.symm
  have hnames : (builtinNames.map plainScalar).map NamedType.name = builtinNames := rfl
  let found : String → Option NamedType := fun name => some (plainScalar name)
  have hfound : ∀ type ∈ builtinNames.map plainScalar, found type.name = some type := by
    intro type htype
    obtain ⟨other, -, rfl⟩ := List.mem_map.1 htype
    rfl
  have hinserted := TypeTable.get?_foldl_insert hfound TypeTable.empty name
  rw [hbuiltin, hinserted, hnames]
  rfl

/-- A definition counts if no later one has its name. -/
theorem lastDefinition?_cons (definition : Definition) (rest : List Definition) (name : String) :
    lastDefinition? (definition :: rest) name =
      (lastDefinition? rest name).or (definition.type?.filter fun type => type.name = name) := by
  cases definition with
  | type type =>
    have htypes : typesIn (.type type :: rest) = type :: typesIn rest := rfl
    rw [lastDefinition?, htypes, List.reverse_cons, List.find?_append, ← lastDefinition?,
      Definition.type?, Option.filter_some]
    by_cases hname : type.name = name <;> simp [hname]
  | _ => exact Option.or_none.symm

/-- After all definitions, a name stands for the last of them, or for what it stood for before. -/
theorem get?_foldl_declare (definitions : List Definition) (table : TypeTable) (name : String) :
    (definitions.foldl declare table).get? name =
      (lastDefinition? definitions name).or (table.get? name) := by
  induction definitions generalizing table with
  | nil => rfl
  | cons definition rest ih =>
    rw [List.foldl_cons, ih, lastDefinition?_cons, Option.or_assoc]
    cases definition with
    | type type =>
      rw [declare, TypeTable.get?_insert, Definition.type?, Option.filter_some]
      by_cases hname : type.name = name <;> simp [hname]
    | _ => rfl

/-- After all extensions, a type has the members that those of its name add, in the order of the text. -/
theorem get?_foldl_enlarge (definitions : List Definition) (table : TypeTable) (name : String) :
    (definitions.foldl enlarge table).get? name =
      (table.get? name).map fun type =>
        { type with kind := type.kind.gather (extensionsOf definitions name) } := by
  simp only [← TypeKind.foldl_extend]
  induction definitions generalizing table with
  | nil => simp [extensionsOf]
  | cons definition rest ih =>
    rw [List.foldl_cons, ih]
    cases definition with
    | extension owner more =>
      rw [enlarge, TypeTable.get?_extend, Option.map_map]
      refine Option.map_congr fun type htype => ?_
      have hname : type.name = name := TypeTable.name_of_get? htype
      by_cases howner : owner = name
      · simp [extensionsOf, Definition.added?, howner, hname]
      · have howner' : type.name ≠ owner := fun h => howner (h.symm.trans hname)
        simp [extensionsOf, Definition.added?, howner, howner']
    | _ => rfl

/-- What is defined under a name has the name. -/
theorem name_of_lastDefinition? {definitions : List Definition} {name : String} {type : NamedType}
    (h : lastDefinition? definitions name = some type) : type.name = name := by
  simpa using List.find?_some h

/-- What a text says of a name is a type of that name, also when it is built in. -/
theorem name_of_declared? {definitions : List Definition} {name : String} {type : NamedType}
    (h : declared? definitions name = some type) : type.name = name := by
  rcases Option.or_eq_some_iff.1 h with h | ⟨-, h⟩
  · exact name_of_lastDefinition? h
  · obtain ⟨-, h⟩ := Option.ite_none_right_eq_some.1 h
    cases h
    rfl

/-- Under every name stands its declaration, with the members that extensions add. -/
theorem get?_ofDefinitions (definitions : List Definition) (name : String) :
    (ofDefinitions definitions).get? name =
      (declared? definitions name).map fun type => type.extendedBy definitions := by
  show (definitions.foldl enlarge (definitions.foldl declare .builtin)).get? name = _
  rw [get?_foldl_enlarge, get?_foldl_declare, get?_builtin, ← declared?]
  refine Option.map_congr fun type htype => ?_
  rw [NamedType.extendedBy, name_of_declared? htype]

/-! ## Texts that mean the same -/

/-- Only the schema blocks of a text matter to the names of the root types. -/
theorem rootsOf_filter (definitions : List Definition) :
    queryRootOf (definitions.filter Definition.isRoots) = queryRootOf definitions ∧
      mutationRootOf (definitions.filter Definition.isRoots) = mutationRootOf definitions := by
  unfold queryRootOf mutationRootOf
  rw [List.foldl_filter, List.foldl_filter]
  constructor
  · congr 1
    funext root definition
    cases definition <;> rfl
  · congr 1
    funext root definition
    cases definition <;> rfl

/-- Texts with the same schema blocks give equal schemas when these hold the same under every name. -/
theorem ofDefinitions_eq_of_get? {definitions others : List Definition}
    (hroots : definitions.filter Definition.isRoots = others.filter Definition.isRoots)
    (h : ∀ name, (ofDefinitions definitions).get? name = (ofDefinitions others).get? name) :
    ofDefinitions definitions = ofDefinitions others := by
  have htypes : (ofDefinitions definitions).types = (ofDefinitions others).types :=
    TypeTable.ext_get? h
  have hquery : queryRootOf definitions = queryRootOf others := by
    rw [← (rootsOf_filter definitions).1, hroots, (rootsOf_filter others).1]
  have hmutation : mutationRootOf definitions = mutationRootOf others := by
    rw [← (rootsOf_filter definitions).2, hroots, (rootsOf_filter others).2]
  show Schema.mk _ _ _ = Schema.mk _ _ _
  change List.foldl enlarge _ _ = List.foldl enlarge _ _ at htypes
  rw [hquery, hmutation, htypes]

/-! ## Moving -/

/-- Where names are defined once, the order of definitions does not matter. -/
theorem lastDefinition?_perm {definitions others : List Definition} (h : definitions.Perm others)
    (hnames : ((typesIn definitions).map NamedType.name).Nodup) (name : String) :
    lastDefinition? definitions name = lastDefinition? others name := by
  have hperm : (typesIn definitions).reverse.Perm (typesIn others).reverse :=
    (List.reverse_perm _).trans ((h.filterMap _).trans (List.reverse_perm _).symm)
  refine find?_perm hperm ?_ name
  rw [List.map_reverse]
  exact List.nodup_reverse.2 hnames

/-- A single schema block may stand anywhere. -/
theorem filter_isRoots_perm {definitions others : List Definition} (h : definitions.Perm others)
    (hroots : definitions.countP Definition.isRoots ≤ 1) :
    definitions.filter Definition.isRoots = others.filter Definition.isRoots := by
  have hperm := h.filter Definition.isRoots
  rw [List.countP_eq_length_filter] at hroots
  match hfiltered : definitions.filter Definition.isRoots, hroots with
  | [], _ =>
    rw [hfiltered] at hperm
    exact hperm.nil_eq
  | [roots], _ =>
    rw [hfiltered] at hperm
    exact List.singleton_perm.1 hperm

/-- Where names are defined once, definitions may stand in any order among each other and among the
extensions, as long as the extensions of each name keep theirs. -/
theorem ofDefinitions_perm {definitions others : List Definition} (h : definitions.Perm others)
    (hnames : ((typesIn definitions).map NamedType.name).Nodup)
    (hroots : definitions.countP Definition.isRoots ≤ 1)
    (hextensions : ∀ name, extensionsOf definitions name = extensionsOf others name) :
    ofDefinitions definitions = ofDefinitions others := by
  refine ofDefinitions_eq_of_get? (filter_isRoots_perm h hroots) fun name => ?_
  have hdeclared : declared? definitions name = declared? others name := by
    rw [declared?, lastDefinition?_perm h hnames, ← declared?]
  rw [get?_ofDefinitions, get?_ofDefinitions, hdeclared]
  refine Option.map_congr fun type _ => ?_
  rw [NamedType.extendedBy, hextensions, ← NamedType.extendedBy]

/-! ## Striking out -/

/-- A type is extended alike by texts with the same extensions of its name and kind. -/
theorem extendedBy_congr {definitions others : List Definition} {type : NamedType}
    (h : (extensionsOf definitions type.name).filter type.kind.takes =
      (extensionsOf others type.name).filter type.kind.takes) :
    type.extendedBy definitions = type.extendedBy others := by
  rw [NamedType.extendedBy, ← TypeKind.gather_filter, h, TypeKind.gather_filter, ← NamedType.extendedBy]

/-- An extension that does not apply may be struck out. -/
theorem ofDefinitions_strike {before after : List Definition} {owner : String} {more : TypeKind}
    (h : ¬ applies (before ++ .extension owner more :: after) owner more) :
    ofDefinitions (before ++ .extension owner more :: after) = ofDefinitions (before ++ after) := by
  have htypes : typesIn (before ++ .extension owner more :: after) = typesIn (before ++ after) := by
    rw [typesIn, typesIn, List.filterMap_append, List.filterMap_append]
    rfl
  have hdeclared : ∀ name, declared? (before ++ .extension owner more :: after) name =
      declared? (before ++ after) name := by
    intro name
    rw [declared?, lastDefinition?, htypes, ← lastDefinition?, ← declared?]
  refine ofDefinitions_eq_of_get? (by simp [Definition.isRoots]) fun name => ?_
  rw [get?_ofDefinitions, get?_ofDefinitions, ← hdeclared]
  refine Option.map_congr fun type htype => extendedBy_congr ?_
  have hname := name_of_declared? htype
  simp only [extensionsOf, List.filterMap_append, List.filter_append]
  by_cases howner : owner = name
  · have htakes : type.kind.takes more = false := by
      subst howner
      simpa [applies, htype] using h
    simp [Definition.added?, howner, hname, htakes]
  · simp [Definition.added?, howner, hname]

/-! ## Merging -/

/-- Merging leaves definitions where they are, with members added to the chosen ones. -/
theorem typesIn_merged (definitions : List Definition) (chosen : String → Bool) :
    typesIn (merged definitions chosen) = (typesIn definitions).map fun type =>
      if chosen type.name then type.extendedBy definitions else type := by
  rw [typesIn, merged, List.filterMap_filterMap, typesIn, List.map_filterMap]
  refine List.filterMap_congr fun definition _ => ?_
  cases definition with
  | extension owner more =>
    rw [mergedDefinition?]
    split <;> rfl
  | _ => rfl

/-- The extensions that are left are those that do not apply or that were not chosen. -/
theorem extensionsOf_merged (definitions : List Definition) (chosen : String → Bool) (name : String) :
    extensionsOf (merged definitions chosen) name =
      (extensionsOf definitions name).filter fun more =>
        !(chosen name && applies definitions name more) := by
  rw [extensionsOf, merged, List.filterMap_filterMap, extensionsOf, List.filter_filterMap]
  refine List.filterMap_congr fun definition _ => ?_
  cases definition with
  | extension owner more =>
    rw [mergedDefinition?, Definition.added?]
    by_cases howner : owner = name
    · subst howner
      rw [if_pos rfl, Option.filter_some]
      cases chosen owner && applies definitions owner more with
      | true => rfl
      | false => simp [Definition.added?]
    · rw [if_neg howner]
      split
      · rfl
      · simp [Definition.added?, howner]
  | _ => rfl

/-- Merging leaves schema blocks alone. -/
theorem filter_isRoots_merged (definitions : List Definition) (chosen : String → Bool) :
    (merged definitions chosen).filter Definition.isRoots = definitions.filter Definition.isRoots := by
  rw [merged, List.filter_filterMap, ← List.filterMap_eq_filter]
  refine List.filterMap_congr fun definition _ => ?_
  cases definition with
  | extension owner more =>
    rw [mergedDefinition?]
    split <;> rfl
  | _ => rfl

/-- After merging, a text says of a chosen name what it said with extensions before. -/
theorem declared?_merged (definitions : List Definition) (chosen : String → Bool) (name : String) :
    declared? (merged definitions chosen) name = (declared? definitions name).map fun type =>
      if chosen type.name then type.extendedBy definitions else type := by
  have hlast : lastDefinition? (merged definitions chosen) name =
      (lastDefinition? definitions name).map fun type =>
        if chosen type.name then type.extendedBy definitions else type := by
    rw [lastDefinition?, typesIn_merged, ← List.map_reverse, List.find?_map, lastDefinition?]
    congr 2
    funext type
    simp only [Function.comp_apply]
    split <;> rfl
  rw [declared?, hlast, declared?, Option.map_or]
  congr 1
  -- A built-in scalar takes nothing from extensions.
  split
  · rw [Option.map_some]
    split <;> rfl
  · rfl

/-- A text with extensions written into the definitions gives the schema that the text gives. -/
theorem ofDefinitions_merged (definitions : List Definition) (chosen : String → Bool) :
    ofDefinitions (merged definitions chosen) = ofDefinitions definitions := by
  refine ofDefinitions_eq_of_get? (filter_isRoots_merged definitions chosen) fun name => ?_
  rw [get?_ofDefinitions, get?_ofDefinitions, declared?_merged, Option.map_map]
  refine Option.map_congr fun type htype => ?_
  have hname := name_of_declared? htype
  have htakes : applies definitions name = type.kind.takes := by
    funext more
    simp [applies, htype]
  simp only [Function.comp_apply, hname]
  -- A name that is not chosen keeps all of its extensions, so only chosen names need an argument.
  by_cases hchosen : chosen name
  · -- No extension that is left applies to the definition, which holds the others already.
    have hleft : (extensionsOf (merged definitions chosen) name).filter type.kind.takes = [] := by
      simp [extensionsOf_merged, hchosen, htakes, List.filter_filter]
    have hkind : (type.extendedBy definitions).kind.takes = type.kind.takes := by
      rw [NamedType.extendedBy, TypeKind.takes_gather]
    have hrest : (type.extendedBy definitions).extendedBy (merged definitions chosen) =
        (type.extendedBy definitions).extendedBy [] := by
      refine extendedBy_congr ?_
      rw [hkind, NamedType.extendedBy, hname, hleft]
      rfl
    rw [if_pos hchosen, hrest, NamedType.extendedBy, extensionsOf, List.filterMap_nil,
      TypeKind.gather_nil]
  · rw [if_neg hchosen]
    refine extendedBy_congr ?_
    simp [extensionsOf_merged, hname, hchosen]

/-! ## What a text means -/

/-- A schema holds under every name the last definition of the name, or else the built-in scalar, with the
members appended that the extensions of this name and kind add, in the order of the text. So an extension
that finds no type of its kind changes nothing. Where names are defined once, definitions and extensions may
stand in any order that keeps the order of the extensions of each name, and extensions may be written into
the definitions. -/
theorem ofDefinitions_extensions (definitions : List Definition) :
    (∀ name, (ofDefinitions definitions).get? name =
      (declared? definitions name).map fun type => type.extendedBy definitions) ∧
    (∀ name ∈ builtinNames, lastDefinition? definitions name = none →
      (ofDefinitions definitions).get? name = some (plainScalar name)) ∧
    (∀ before owner more after, definitions = before ++ .extension owner more :: after →
      ¬ applies definitions owner more →
        ofDefinitions definitions = ofDefinitions (before ++ after)) ∧
    (((typesIn definitions).map NamedType.name).Nodup → definitions.countP Definition.isRoots ≤ 1 →
      ∀ others, definitions.Perm others →
        (∀ name, extensionsOf definitions name = extensionsOf others name) →
          ofDefinitions definitions = ofDefinitions others) ∧
    ∀ chosen, ofDefinitions (merged definitions chosen) = ofDefinitions definitions := by
  refine ⟨get?_ofDefinitions definitions, ?_, ?_, ?_, ofDefinitions_merged definitions⟩
  · intro name hname hlast
    rw [get?_ofDefinitions, declared?, hlast, Option.none_or, if_pos hname]
    rfl
  · rintro before owner more after rfl happlies
    exact ofDefinitions_strike happlies
  · intro hnames hroots others hperm hextensions
    exact ofDefinitions_perm hperm hnames hroots hextensions

/-- A text that extends a type before it defines it, and another type as if it were of two kinds. -/
def paletteText : String :=
  "extend type Query \x7b paint(shade: Color): Int \x7d type Query \x7b name: String \x7d " ++
    "extend enum Color \x7b BLUE \x7d extend type Missing \x7b name: Int \x7d " ++
    "enum Color \x7b RED \x7d extend input Color \x7b name: Int \x7d extend enum Color \x7b GREEN \x7d"

/-- The field by which the text extends its root type. -/
def paintField : FieldDef := ⟨"paint", none, .named "Int", [⟨"shade", none, .named "Color"⟩]⟩

/-- The field with which the text defines its root type. -/
def nameField : FieldDef := ⟨"name", none, .named "String", []⟩

/-- The definitions of the text. -/
def palette : List Definition :=
  [.extension "Query" (.object [paintField]),
    .type ⟨"Query", none, .object [nameField]⟩,
    .extension "Color" (.enum ["BLUE"]),
    .extension "Missing" (.object [⟨"name", none, .named "Int", []⟩]),
    .type ⟨"Color", none, .enum ["RED"]⟩,
    .extension "Color" (.input [⟨"name", none, .named "Int"⟩]),
    .extension "Color" (.enum ["GREEN"])]

/-- The definitions with the types before the extensions. -/
def sortedPalette : List Definition :=
  [.type ⟨"Color", none, .enum ["RED"]⟩,
    .type ⟨"Query", none, .object [nameField]⟩,
    .extension "Color" (.enum ["BLUE"]),
    .extension "Color" (.input [⟨"name", none, .named "Int"⟩]),
    .extension "Color" (.enum ["GREEN"]),
    .extension "Missing" (.object [⟨"name", none, .named "Int", []⟩]),
    .extension "Query" (.object [paintField])]

/-- The definitions with the extensions written into them. Two extensions do not apply. -/
def mergedPalette : List Definition :=
  [.type ⟨"Query", none, .object [nameField, paintField]⟩,
    .extension "Missing" (.object [⟨"name", none, .named "Int", []⟩]),
    .type ⟨"Color", none, .enum ["RED", "BLUE", "GREEN"]⟩,
    .extension "Color" (.input [⟨"name", none, .named "Int"⟩])]

/-- The text may be read with the types first or with its extensions written into them, and the colours
stand in the order of its extensions. -/
theorem ofDefinitions_extensions_palette :
    Sdl.definitions paletteText = .ok palette ∧
      ofDefinitions palette = ofDefinitions sortedPalette ∧
      ofDefinitions mergedPalette = ofDefinitions palette ∧
      (ofDefinitions palette).get? "Color" =
        some ⟨"Color", none, .enum ["RED", "BLUE", "GREEN"]⟩ := by
  obtain ⟨hget, -, -, hperm, hmerged⟩ := ofDefinitions_extensions palette
  have htext : Sdl.definitions paletteText = .ok palette := by decide +kernel
  have hsorted : palette.Perm sortedPalette := by decide +kernel
  have hextensions : ∀ name, extensionsOf palette name = extensionsOf sortedPalette name := by
    intro name
    -- Only the extensions of different names have changed places.
    by_cases hquery : "Query" = name
    · subst hquery
      decide
    by_cases hmissing : "Missing" = name
    · subst hmissing
      decide
    · simp [extensionsOf, palette, sortedPalette, Definition.added?, List.filterMap_cons, hquery, hmissing]
  have hchosen : merged palette (fun _ => true) = mergedPalette := by decide +kernel
  refine ⟨htext, hperm (by decide +kernel) (by decide +kernel) sortedPalette hsorted hextensions, ?_, ?_⟩
  · rw [← hchosen]
    exact hmerged fun _ => true
  · rw [hget]
    decide +kernel

end Schema

end ActionForge
