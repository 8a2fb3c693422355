import ActionForge.Proofs.Identifier

/-!
# Expressions of a script

The part of JavaScript's expressions that results are written in: variables, members, arrays, objects with
spreads, conditionals, and `map` over an arrow function. `read` goes from a text to its tree by tokens and a
recursive descent. It takes nothing that means something else in the full language: a text with other
constructs in it, or with none of the grammar's, has no tree.
-/

namespace ActionForge.Script

/-! ## Tokens -/

/-- A token. A name may be a reserved word. -/
inductive Token where
  | name (text : String)
  | mark (c : Char)
  | spread
  | arrow
  deriving DecidableEq, Repr

/-- Characters of names, as far as names are in ASCII. -/
def continuesWord (c : Char) : Bool := c.isAlphanum || c = '_' || c = '$'

/-- Marks that are tokens of their own. -/
def marks : List Char := ['.', ',', ':', '?', '(', ')', '[', ']', '\x7b', '\x7d']

/-- Puts a word, whose characters are held last one first, in front of tokens. A number is no word. -/
def endWord (word : List Char) (tokens : List Token) : Option (List Token) :=
  match word.getLast? with
  | none => some tokens
  | some first => if first.isDigit then none else some (.name (String.ofList word.reverse) :: tokens)

/-- Puts a character that continues no word in front of tokens. A question mark would be a part of another
token with a point or another question mark after it. -/
def addMark (c : Char) (next? : Option Char) (tokens : List Token) : Option (List Token) :=
  if c = ' ' then some tokens
  else if c = '?' ∧ (next? = some '.' ∨ next? = some '?') then none
  else if c ∈ marks then some (.mark c :: tokens)
  else none

/-- Cuts a text into tokens, in or after a word. -/
def scan (word : List Char) : List Char → Option (List Token)
  | [] => endWord word []
  | '.' :: '.' :: '.' :: rest => (scan [] rest).bind fun tokens => endWord word (.spread :: tokens)
  | '=' :: '>' :: rest => (scan [] rest).bind fun tokens => endWord word (.arrow :: tokens)
  | c :: rest =>
    if continuesWord c then scan (c :: word) rest
    else ((scan [] rest).bind (addMark c rest.head?)).bind (endWord word)

/-! ## Trees -/

mutual

/-- An expression. `mapped` is a call of `map` with an arrow function of one parameter. -/
inductive Expression where
  | variable (name : String)
  | member (target : Expression) (name : String)
  | array (items : List Expression)
  | object (parts : List Part)
  | conditional (test yes no : Expression)
  | mapped (target : Expression) (parameter : String) (body : Expression)

/-- A part of an object. -/
inductive Part where
  | spread (source : Expression)
  | named (name : String) (value : Expression)

end

/-- Whether a part sets the prototype of its object and not a member. -/
def Part.setsPrototype : Part → Bool
  | .named name _ => name = "__proto__"
  | .spread _ => false

mutual

/-- What the grammar asks of trees: no variable has a reserved name, and no object sets its prototype
twice. -/
def Expression.isWellFormed : Expression → Bool
  | .variable name => name ∉ reservedWords
  | .member target _ => target.isWellFormed
  | .array items => itemsWellFormed items
  | .object parts => parts.countP Part.setsPrototype ≤ 1 && partsWellFormed parts
  | .conditional test yes no => test.isWellFormed && yes.isWellFormed && no.isWellFormed
  | .mapped target parameter body =>
    target.isWellFormed && parameter ∉ reservedWords && body.isWellFormed

/-- Whether all items are well-formed. -/
def itemsWellFormed : List Expression → Bool
  | [] => true
  | item :: rest => item.isWellFormed && itemsWellFormed rest

/-- Whether all parts are well-formed. -/
def partsWellFormed : List Part → Bool
  | [] => true
  | .spread value :: rest | .named _ value :: rest => value.isWellFormed && partsWellFormed rest

end

/-! ## Reading -/

mutual

/-- Reads an expression. -/
def readExpression : Nat → List Token → Option (Expression × List Token)
  | 0, _ => none
  | fuel + 1, tokens => do
    let (target, rest) ← readPrimary fuel tokens
    let (test, rest) ← readChain fuel target rest
    match rest with
    | .mark '?' :: rest =>
      let (yes, rest) ← readExpression fuel rest
      match rest with
      | .mark ':' :: rest =>
        let (no, rest) ← readExpression fuel rest
        return (.conditional test yes no, rest)
      | _ => none
    | rest => return (test, rest)

/-- Reads an expression that is a variable or stands in brackets. -/
def readPrimary : Nat → List Token → Option (Expression × List Token)
  | 0, _ => none
  | fuel + 1, tokens =>
    match tokens with
    | .name name :: rest => some (.variable name, rest)
    | .mark '(' :: rest => do
      let (inner, rest) ← readExpression fuel rest
      match rest with
      | .mark ')' :: rest => return (inner, rest)
      | _ => none
    -- Brackets with nothing in them come first, as items are never none.
    | .mark '[' :: .mark ']' :: rest => some (.array [], rest)
    | .mark '[' :: rest => (readItems fuel rest).map fun (items, rest) => (.array items, rest)
    | .mark '\x7b' :: .mark '\x7d' :: rest => some (.object [], rest)
    | .mark '\x7b' :: rest => (readParts fuel rest).map fun (parts, rest) => (.object parts, rest)
    | _ => none

/-- Reads the members and calls that follow an expression. An arrow function with a brace after its arrow
would have a block for its body. -/
def readChain : Nat → Expression → List Token → Option (Expression × List Token)
  | 0, _, _ => none
  | fuel + 1, target, tokens =>
    match tokens with
    | .mark '.' :: .name name :: .mark '(' :: .mark '(' :: .name parameter :: .mark ')' :: .arrow :: rest =>
      -- Other calls have no tree: nothing is known of what they do.
      if name = "map" ∧ rest.head? ≠ some (.mark '\x7b') then do
        let (body, rest) ← readExpression fuel rest
        match rest with
        | .mark ')' :: rest => readChain fuel (.mapped target parameter body) rest
        | _ => none
      else none
    | .mark '.' :: .name name :: rest => readChain fuel (.member target name) rest
    | .mark '.' :: _ | .mark '(' :: _ | .mark '[' :: _ => none
    | rest => some (target, rest)

/-- Reads items up to a closing bracket. -/
def readItems : Nat → List Token → Option (List Expression × List Token)
  | 0, _ => none
  | fuel + 1, tokens => do
    let (item, rest) ← readExpression fuel tokens
    match rest with
    | .mark ']' :: rest => return ([item], rest)
    | .mark ',' :: rest => (readItems fuel rest).map fun (items, rest) => (item :: items, rest)
    | _ => none

/-- Reads a part of an object. -/
def readPart : Nat → List Token → Option (Part × List Token)
  | 0, _ => none
  | fuel + 1, tokens =>
    match tokens with
    | .spread :: rest => (readExpression fuel rest).map fun (source, rest) => (.spread source, rest)
    | .name name :: .mark ':' :: rest =>
      (readExpression fuel rest).map fun (value, rest) => (.named name value, rest)
    | _ => none

/-- Reads parts of an object up to the closing brace. -/
def readParts : Nat → List Token → Option (List Part × List Token)
  | 0, _ => none
  | fuel + 1, tokens => do
    let (part, rest) ← readPart fuel tokens
    match rest with
    | .mark '\x7d' :: rest => return ([part], rest)
    | .mark ',' :: rest => (readParts fuel rest).map fun (parts, rest) => (part :: parts, rest)
    | _ => none

end

/-- The expression that tokens are, with nothing left over. Calls nest no deeper than three for a token. -/
def readTokens (tokens : List Token) : Option Expression :=
  match readExpression (3 * tokens.length) tokens with
  | some (expression, []) => if expression.isWellFormed then some expression else none
  | _ => none

/-- The expression that a text is. -/
def read (text : String) : Option Expression := (scan [] text.toList).bind readTokens

end ActionForge.Script
