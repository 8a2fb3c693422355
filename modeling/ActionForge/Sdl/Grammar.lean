import ActionForge.Sdl.Definition
import ActionForge.Sdl.Description
import ActionForge.Sdl.Token

/-!
# Grammar of the schema language

A recursive descent over tokens that decides by the next token alone. `definitions` gives the definitions
of a text or the position of the first token that does not fit. Three rules are checked after the tokens
that they concern: an extension must add something, a schema block names each root at most once, and a
number or quoted text must have a value.
-/

namespace ActionForge.Sdl

/-- Reads part of a token list: what was read and the tokens left, or the position of the token that does
not fit. -/
abbrev Parse (α : Type) := StateT (List Lexeme) (Except Position) α

namespace Parse

/-- The next token; past the end, the end itself. -/
def peek : Parse Lexeme := do
  return (← get).headD ⟨.done, ⟨1, 1⟩⟩

/-- Passes over the next token. -/
def advance : Parse Unit := modify List.tail

/-- Fails at a position. -/
def failAt {α : Type} (p : Position) : Parse α := throw p

/-- Fails at the next token. -/
def fail {α : Type} : Parse α := do failAt (← peek).position

/-- Whether the next token is the given mark. -/
def seesMark (mark : Char) : Parse Bool := do
  return (← peek).token == .punctuation mark

/-- Whether the next token is the given word. -/
def seesWord (word : String) : Parse Bool := do
  return (← peek).token == .name word

/-- Reads a mark. -/
def mark (mark : Char) : Parse Unit := do
  if ← seesMark mark then advance else fail

/-- Reads a mark if it comes next, and says whether it did. -/
def mark? (mark : Char) : Parse Bool := do
  if ← seesMark mark then
    advance
    return true
  else return false

/-- Reads a word if it comes next, and says whether it did. -/
def word? (word : String) : Parse Bool := do
  if ← seesWord word then
    advance
    return true
  else return false

/-- Reads a name. -/
def name : Parse String := do
  match (← peek).token with
  | .name name =>
    advance
    return name
  | _ => fail

/-- Reads items as long as the next token starts one; `fuel` bounds their number. -/
def manyFrom {α : Type} (starts : Token → Bool) (item : Parse α) : Nat → Parse (List α)
  | 0 => return []
  | fuel + 1 => do
    if starts (← peek).token then
      let first ← item
      let rest ← manyFrom starts item fuel
      return first :: rest
    else return []

/-- Reads items as long as the next token starts one. Each item takes a token at least. -/
def many {α : Type} (starts : Token → Bool) (item : Parse α) : Parse (List α) := do
  manyFrom starts item (← get).length

/-- Reads one item and those that follow it. -/
def many1 {α : Type} (starts : Token → Bool) (item : Parse α) : Parse (List α) := do
  let first ← item
  let rest ← many starts item
  return first :: rest

/-- Reads items with a mark between them. -/
def separated {α : Type} (between : Char) (item : Parse α) : Parse (List α) := do
  let first ← item
  let rest ← many (· == .punctuation between) (do advance; item)
  return first :: rest

end Parse

open Parse

/-! ## Values and types -/

/-- Whether a token is a quoted text. -/
def isText : Token → Bool
  | .quoted _ | .block _ => true
  | _ => false

/-- Reads a description, if one comes next. -/
def description? : Parse (Option String) := do
  let next ← peek
  match next.token with
  | .quoted text =>
    match unescape text with
    | some value =>
      advance
      return some (String.ofList value)
    | none => fail
  | .block text =>
    advance
    return some (String.ofList (unindent text))
  | _ => return none

/-- The integer that digits after an optional minus sign stand for. -/
def integerOf (text : List Char) : Int :=
  let digits := text.filter Char.isDigit
  let magnitude : Nat := digits.foldl (fun value c => value * 10 + Text.digitValue c) 0
  if text.head? = some '-' then -(magnitude : Int) else magnitude

/-- Whether an integer fits in 64 bits with a sign. -/
def fits64 (n : Int) : Bool := -(Nat.pow 2 63 : Int) ≤ n && n < (Nat.pow 2 63 : Int)

/-- Whether a number with a fraction or an exponent ends in a digit. -/
def endsInDigit (text : List Char) : Bool := text.getLast?.any Char.isDigit

/-- Passes over a value. Variables may stand in the arguments of directives only; `fuel` bounds the
nesting. -/
def value (withVariables : Bool) : Nat → Parse Unit
  | 0 => fail
  | fuel + 1 => do
    let next ← peek
    match next.token with
    | .name _ => advance
    | .integer text => if fits64 (integerOf text) then advance else fail
    | .float text => if endsInDigit text then advance else fail
    | .quoted text => if (unescape text).isSome then advance else fail
    | .block _ => advance
    | .punctuation '$' =>
      if withVariables then
        advance
        let _ ← name
      else fail
    | .punctuation '[' =>
      advance
      let _ ← many (· != .punctuation ']') (value withVariables fuel)
      mark ']'
    | .punctuation '\x7b' =>
      advance
      let _ ← many (· != .punctuation '\x7d') (do
        let _ ← name
        mark ':'
        value withVariables fuel)
      mark '\x7d'
    | _ => fail

/-- Reads a type reference; `fuel` bounds the nesting. -/
def typeRefFrom : Nat → Parse TypeRef
  | 0 => fail
  | fuel + 1 => do
    let inner ← if ← mark? '[' then do
        let inner ← typeRefFrom fuel
        mark ']'
        pure (TypeRef.list inner)
      else TypeRef.named <$> name
    return if ← mark? '!' then .nonNull inner else inner

/-- Reads a type reference. -/
def typeRef : Parse TypeRef := do typeRefFrom (← get).length

/-! ## Members -/

/-- Passes over one directive. -/
def directive : Parse Unit := do
  mark '@'
  let _ ← name
  if ← mark? '(' then
    let _ ← many1 (· != .punctuation ')') (do
      let _ ← name
      mark ':'
      value true (← get).length)
    mark ')'

/-- Passes over directives and says whether there were any. -/
def directives : Parse Bool := do
  let all ← many (· == .punctuation '@') directive
  return !all.isEmpty

/-- Whether a token starts a described name. -/
def startsDescribed : Token → Bool
  | .name _ => true
  | token => isText token

/-- Reads an argument, or a field of an input type. -/
def member : Parse Member := do
  let description ← description?
  let name ← name
  mark ':'
  let type ← typeRef
  if ← mark? '=' then value false (← get).length
  let _ ← directives
  return { name, description, type }

/-- Reads the arguments of a field or directive, if it has any. -/
def arguments : Parse (List Member) := do
  if ← mark? '(' then
    let all ← many1 startsDescribed member
    mark ')'
    return all
  else return []

/-- Reads a field of an object or interface type. -/
def field : Parse FieldDef := do
  let description ← description?
  let name ← name
  let arguments ← arguments
  mark ':'
  let type ← typeRef
  let _ ← directives
  return { name, description, type, arguments }

/-- Reads a value of an enum type. -/
def enumValue : Parse String := do
  let _ ← description?
  let name ← name
  let _ ← directives
  return name

/-- Reads members in braces, if there are braces. -/
def braced {α : Type} (item : Parse α) : Parse (List α) := do
  if ← mark? '\x7b' then
    let all ← many1 startsDescribed item
    mark '\x7d'
    return all
  else return []

/-- Reads the interfaces that a type implements. -/
def interfaces : Parse (List String) := do
  if ← word? "implements" then
    let _ ← mark? '&'
    separated '&' name
  else return []

/-- Reads the types of a union, if they are given. -/
def unionTypes : Parse (List String) := do
  if ← mark? '=' then
    let _ ← mark? '|'
    separated '|' name
  else return []

/-! ## Definitions -/

/-- The body of a type definition or extension, and whether it adds anything when it extends a type. -/
structure Body where
  name : String
  kind : TypeKind
  adds : Bool

/-- Reads a type definition from its keyword on. -/
def body : Parse Body := do
  let keyword ← name
  match keyword with
  | "scalar" => do
    let name ← name
    let directed ← directives
    return { name, kind := .scalar, adds := directed }
  | "type" => do
    let name ← name
    let implemented ← interfaces
    let directed ← directives
    let fields ← braced field
    return { name, kind := .object fields, adds := directed || !implemented.isEmpty || !fields.isEmpty }
  | "interface" => do
    let name ← name
    let _ ← interfaces
    let directed ← directives
    let fields ← braced field
    return { name, kind := .interface fields, adds := directed || !fields.isEmpty }
  | "union" => do
    let name ← name
    let directed ← directives
    let types ← unionTypes
    return { name, kind := .union types, adds := directed || !types.isEmpty }
  | "enum" => do
    let name ← name
    let directed ← directives
    let values ← braced enumValue
    return { name, kind := .enum values, adds := directed || !values.isEmpty }
  | _ => do
    let name ← name
    let directed ← directives
    let fields ← braced member
    return { name, kind := .input fields, adds := directed || !fields.isEmpty }

/-- The keywords of type definitions. -/
def typeKeywords : List String := ["scalar", "type", "interface", "union", "enum", "input"]

/-- Whether a token is a keyword of a type definition. -/
def startsType : Token → Bool
  | .name word => typeKeywords.contains word
  | _ => false

/-- The places at which a directive may be used. -/
def directiveLocations : List String :=
  ["QUERY", "MUTATION", "SUBSCRIPTION", "FIELD", "FRAGMENT_DEFINITION", "FRAGMENT_SPREAD",
    "INLINE_FRAGMENT", "VARIABLE_DEFINITION", "SCHEMA", "SCALAR", "OBJECT", "FIELD_DEFINITION",
    "ARGUMENT_DEFINITION", "INTERFACE", "UNION", "ENUM", "ENUM_VALUE", "INPUT_OBJECT",
    "INPUT_FIELD_DEFINITION"]

/-- Reads a place at which a directive may be used. -/
def directiveLocation : Parse Unit := do
  match (← peek).token with
  | .name word => if directiveLocations.contains word then advance else fail
  | _ => fail

/-- Reads a directive definition. -/
def directiveDefinition : Parse Definition := do
  advance
  mark '@'
  let _ ← name
  let _ ← arguments
  let _ ← word? "repeatable"
  if ← word? "on" then
    let _ ← mark? '|'
    match (← peek).token with
    | .name _ =>
      let _ ← separated '|' directiveLocation
      return .directive
    | _ => return .directive
  else fail

/-- The root types that a schema block names, or `none` when it names one twice or an unknown one. -/
def rootsOf (given : List (String × String)) : Option Definition :=
  let kinds := given.map Prod.fst
  if kinds.all (["query", "mutation", "subscription"].contains ·) && decide kinds.Nodup then
    some (.roots (given.lookup "query") (given.lookup "mutation"))
  else none

/-- Reads a schema block. -/
def schemaBlock : Parse Definition := do
  let start := (← peek).position
  advance
  let _ ← directives
  mark '\x7b'
  let given ← many (· != .punctuation '\x7d') (do
    let kind ← name
    mark ':'
    let type ← name
    return (kind, type))
  mark '\x7d'
  match rootsOf given with
  | some definition => return definition
  | none => failAt start

/-- Reads an extension. -/
def extension : Parse Definition := do
  advance
  let start ← peek
  if startsType start.token then
    let body ← body
    if body.adds then return .extension body.name body.kind else failAt start.position
  else fail

/-- Reads one definition. -/
def definition : Parse Definition := do
  if ← seesWord "schema" then schemaBlock
  else if ← seesWord "extend" then extension
  else
    let description ← description?
    if startsType (← peek).token then
      let body ← body
      return .type { name := body.name, description, kind := body.kind }
    else if ← seesWord "directive" then directiveDefinition
    else fail

/-- Reads all definitions up to the end of the text. -/
def document : Parse (List Definition) := many1 (· != .done) definition

/-- The definitions of a text, or the position of the first token that does not fit. -/
def definitions (text : String) : Except Position (List Definition) :=
  (document.run (tokens text)).map Prod.fst

end ActionForge.Sdl
