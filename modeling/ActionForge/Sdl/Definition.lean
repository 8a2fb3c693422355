import ActionForge.Schema.Basic

/-!
# Definitions of a schema text

A schema text is a list of definitions. `Schema.ofDefinitions` builds the schema: a later definition of a
name replaces an earlier one, and extensions add their members after all definitions are in, so that it
does not matter where they stand.
-/

namespace ActionForge

namespace Sdl

/-- A definition of a schema text. Directives add nothing to a schema. -/
inductive Definition where
  | roots (query mutation : Option String)
  | type (type : NamedType)
  | extension (name : String) (kind : TypeKind)
  | directive
  deriving DecidableEq, Repr

end Sdl

namespace Schema

open Sdl (Definition)

/-- Adds a type definition to a table; other definitions leave it alone. -/
def declare (table : TypeTable) : Definition → TypeTable
  | .type type => table.insert type
  | _ => table

/-- Adds the members of an extension to a table; other definitions leave it alone. -/
def enlarge (table : TypeTable) : Definition → TypeTable
  | .extension name kind => table.extend name kind
  | _ => table

/-- The last name that the schema blocks give to the root of queries. -/
def queryRootOf (definitions : List Definition) : String :=
  definitions.foldl (fun root definition =>
    match definition with
    | .roots (some query) _ => query
    | _ => root) "Query"

/-- The last name that the schema blocks give to the root of mutations. -/
def mutationRootOf (definitions : List Definition) : String :=
  definitions.foldl (fun root definition =>
    match definition with
    | .roots _ (some mutation) => mutation
    | _ => root) "Mutation"

/-- The schema that definitions describe. There is a root for mutations only when its type exists. -/
def ofDefinitions (definitions : List Definition) : Schema :=
  let types := definitions.foldl enlarge (definitions.foldl declare TypeTable.builtin)
  let mutationRoot := mutationRootOf definitions
  { queryRoot := queryRootOf definitions
    mutationRoot := if (types.get? mutationRoot).isSome then some mutationRoot else none
    types }

end Schema

end ActionForge
