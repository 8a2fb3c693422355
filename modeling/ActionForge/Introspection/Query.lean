/-!
# The introspection query

The operation that asks a service for its schema. Type references are followed through seven levels of
wrappers.
-/

namespace ActionForge.Introspection

/-- The name of the operation. -/
def operationName : String := "IntrospectionQuery"

/-- The lines of the query document. -/
def queryLines : List String :=
  [
    "query IntrospectionQuery \x7b",
    "  __schema \x7b",
    "    queryType \x7b",
    "      name",
    "    \x7d",
    "    mutationType \x7b",
    "      name",
    "    \x7d",
    "    types \x7b",
    "      ...FullType",
    "    \x7d",
    "  \x7d",
    "\x7d",
    "",
    "fragment FullType on __Type \x7b",
    "  kind",
    "  name",
    "  description",
    "  fields(includeDeprecated: true) \x7b",
    "    name",
    "    description",
    "    args \x7b",
    "      ...InputValue",
    "    \x7d",
    "    type \x7b",
    "      ...TypeRef",
    "    \x7d",
    "  \x7d",
    "  inputFields \x7b",
    "    ...InputValue",
    "  \x7d",
    "  enumValues(includeDeprecated: true) \x7b",
    "    name",
    "  \x7d",
    "  possibleTypes \x7b",
    "    ...TypeRef",
    "  \x7d",
    "\x7d",
    "",
    "fragment InputValue on __InputValue \x7b",
    "  name",
    "  description",
    "  type \x7b",
    "    ...TypeRef",
    "  \x7d",
    "\x7d",
    "",
    "fragment TypeRef on __Type \x7b",
    "  kind",
    "  name",
    "  ofType \x7b",
    "    kind",
    "    name",
    "    ofType \x7b",
    "      kind",
    "      name",
    "      ofType \x7b",
    "        kind",
    "        name",
    "        ofType \x7b",
    "          kind",
    "          name",
    "          ofType \x7b",
    "            kind",
    "            name",
    "            ofType \x7b",
    "              kind",
    "              name",
    "              ofType \x7b",
    "                kind",
    "                name",
    "              \x7d",
    "            \x7d",
    "          \x7d",
    "        \x7d",
    "      \x7d",
    "    \x7d",
    "  \x7d",
    "\x7d"]

/-- The query document. -/
def queryText : String := String.join (queryLines.map (· ++ "\n"))

end ActionForge.Introspection
