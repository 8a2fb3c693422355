import ActionForge.Sdl.Token

/-!
# Selections of the query language

The trees of the executable grammar, as far as an operation's selections go: values, arguments,
directives, fields, fragments. `Node.tokens` is what a tree derives. Where the grammar has an optional
list of arguments or selections that may not be empty, the tree has a list, and an empty one derives
nothing.
-/

namespace ActionForge.Query

open Sdl (Token)

/-! ## Values -/

/-- A value of an argument. A reference is to a variable; texts are held without their quotes and not
yet unescaped. -/
inductive Value where
  | reference (name : String)
  | integer (text : List Char)
  | float (text : List Char)
  | text (content : List Char)
  | block (content : List Char)
  | boolean (b : Bool)
  | null
  | enum (name : String)
  | list (items : List Value)
  | object (members : List (String × Value))
  deriving Repr

/-- Arguments, or members of an object value. -/
abbrev Arguments := List (String × Value)

mutual

/-- The tokens of a value. -/
def Value.tokens : Value → List Token
  | .reference name => [.punctuation '$', .name name]
  | .integer text => [.integer text]
  | .float text => [.float text]
  | .text content => [.quoted content]
  | .block content => [.block content]
  | .boolean b => [.name (if b then "true" else "false")]
  | .null => [.name "null"]
  | .enum name => [.name name]
  | .list items => .punctuation '[' :: valuesTokens items ++ [.punctuation ']']
  | .object members => .punctuation '\x7b' :: membersTokens members ++ [.punctuation '\x7d']

/-- The tokens of values that follow each other. -/
def valuesTokens : List Value → List Token
  | [] => []
  | value :: rest => value.tokens ++ valuesTokens rest

/-- The tokens of named values that follow each other. -/
def membersTokens : Arguments → List Token
  | [] => []
  | (name, value) :: rest => .name name :: .punctuation ':' :: value.tokens ++ membersTokens rest

end

/-- The value that a bare name stands for. -/
def Value.ofName (name : String) : Value :=
  if name = "true" then .boolean true
  else if name = "false" then .boolean false
  else if name = "null" then .null
  else .enum name

mutual

/-- No enum value has the name of another value. -/
def Value.WellFormed : Value → Prop
  | .enum name => name ∉ ["true", "false", "null"]
  | .list items => ValuesWellFormed items
  | .object members => MembersWellFormed members
  | _ => True

/-- All values are well-formed. -/
def ValuesWellFormed : List Value → Prop
  | [] => True
  | value :: rest => value.WellFormed ∧ ValuesWellFormed rest

/-- All named values are well-formed. -/
def MembersWellFormed : Arguments → Prop
  | [] => True
  | (_, value) :: rest => value.WellFormed ∧ MembersWellFormed rest

end

/-! ## Selections -/

/-- A directive that is applied. -/
structure Directive where
  name : String
  arguments : Arguments
  deriving Repr

/-- What stands before the selections of a node: a field, the spread of a fragment, or a fragment in
place. -/
inductive Head where
  | field (label? : Option String) (name : String) (arguments : Arguments)
  | spread (fragment : String)
  | inline (type? : Option String)
  deriving Repr

/-- A selection and what is selected below it. -/
structure Node where
  head : Head
  directives : List Directive
  selections : List Node
  deriving Repr

/-- The tokens of arguments in parentheses. -/
def argumentsTokens (arguments : Arguments) : List Token :=
  if arguments.isEmpty then []
  else .punctuation '(' :: membersTokens arguments ++ [.punctuation ')']

/-- The tokens of directives. -/
def directivesTokens : List Directive → List Token
  | [] => []
  | directive :: rest =>
    .punctuation '@' :: .name directive.name :: argumentsTokens directive.arguments ++
      directivesTokens rest

/-- The tokens before directives and selections. -/
def Head.tokens : Head → List Token
  | .field (some label) name arguments =>
    .name label :: .punctuation ':' :: .name name :: argumentsTokens arguments
  | .field none name arguments => .name name :: argumentsTokens arguments
  | .spread fragment => [.spread, .name fragment]
  | .inline (some type) => [.spread, .name "on", .name type]
  | .inline none => [.spread]

mutual

/-- The tokens of a selection. -/
def Node.tokens : Node → List Token
  | ⟨head, directives, []⟩ => head.tokens ++ directivesTokens directives
  | ⟨head, directives, node :: rest⟩ =>
    head.tokens ++ directivesTokens directives ++
      (.punctuation '\x7b' :: (node.tokens ++ nodesTokens rest) ++ [.punctuation '\x7d'])

/-- The tokens of selections that follow each other. -/
def nodesTokens : List Node → List Token
  | [] => []
  | node :: rest => node.tokens ++ nodesTokens rest

end

/-- Whether a head may stand before selections: a spread has none, a fragment in place has some. -/
def Head.admits (head : Head) (selections : List Node) : Bool :=
  match head with
  | .field .. => true
  | .spread fragment => fragment ≠ "on" && selections.isEmpty
  | .inline _ => !selections.isEmpty

/-- The arguments of a head. -/
def Head.arguments : Head → Arguments
  | .field _ _ arguments => arguments
  | .spread _ | .inline _ => []

mutual

/-- Heads go with the selections after them, and values are well-formed. -/
def Node.WellFormed : Node → Prop
  | ⟨head, directives, selections⟩ =>
    head.admits selections ∧ MembersWellFormed head.arguments ∧
      (∀ directive ∈ directives, MembersWellFormed directive.arguments) ∧ NodesWellFormed selections

/-- All selections are well-formed. -/
def NodesWellFormed : List Node → Prop
  | [] => True
  | node :: rest => node.WellFormed ∧ NodesWellFormed rest

end

/-- The tokens of selections in braces. -/
def setTokens : List Node → List Token
  | [] => []
  | node :: rest => .punctuation '\x7b' :: (node.tokens ++ nodesTokens rest) ++ [.punctuation '\x7d']

/-- The tokens of a selection are those of its parts, where a set without selections has none. -/
theorem Node.tokens_eq (node : Node) :
    node.tokens = node.head.tokens ++ directivesTokens node.directives ++ setTokens node.selections := by
  obtain ⟨head, directives, selections⟩ := node
  cases selections with
  | nil => rw [Node.tokens, setTokens, List.append_nil]
  | cons node rest => rw [Node.tokens, setTokens]

/-! ## Lengths -/

/-- Every value has tokens, so reading one makes progress. -/
theorem length_tokens_pos (value : Value) : 0 < value.tokens.length := by
  cases value <;> simp [Value.tokens]

/-- Every head has tokens. -/
theorem Head.length_tokens_pos (head : Head) : 0 < head.tokens.length := by
  cases head with
  | field label? name arguments => cases label? <;> simp [Head.tokens]
  | spread fragment => simp [Head.tokens]
  | inline type? => cases type? <;> simp [Head.tokens]

/-- Every selection has tokens. -/
theorem Node.length_tokens_pos (node : Node) : 0 < node.tokens.length := by
  have hhead := node.head.length_tokens_pos
  rw [Node.tokens_eq, List.length_append, List.length_append]
  omega

end ActionForge.Query
