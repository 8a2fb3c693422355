import ActionForge.Text.Blank

/-!
# Tokens of the schema language

`tokens` cuts a schema text into tokens with their positions. Blanks, commas and comments between tokens
are passed over. A text that cannot be cut further, or that nests brackets too deep, ends in
`Token.bad` at the place where that shows; a complete one ends in `Token.done`.
-/

namespace ActionForge.Sdl

/-- A place in a text. -/
structure Position where
  line : Nat
  column : Nat
  deriving DecidableEq, Repr

/-- A token. Quoted texts are held without their quotes and not yet unescaped. -/
inductive Token where
  | name (name : String)
  | punctuation (mark : Char)
  | spread
  | integer (text : List Char)
  | float (text : List Char)
  | quoted (text : List Char)
  | block (text : List Char)
  | bad
  | done
  deriving DecidableEq, Repr

/-- A token and where it starts. -/
structure Lexeme where
  token : Token
  position : Position
  deriving DecidableEq, Repr

/-- The position some columns further on. -/
def Position.right (p : Position) (columns : Nat) : Position := { p with column := p.column + columns }

/-- The start of the next line. -/
def Position.down (p : Position) : Position := { line := p.line + 1, column := 1 }

/-- The position after text that may hold line feeds. -/
def Position.past (p : Position) (text : List Char) : Position :=
  text.foldl (fun p c => if c = '\n' then p.down else p.right 1) p

/-- Passes over blanks, commas and comments. A tabulator counts eight columns, carriage returns and byte
order marks none. A comment counts no columns; the character that ends it starts a new line. -/
def skipIgnored (inComment : Bool) (p : Position) : List Char → List Char × Position
  | [] => ([], p)
  | c :: rest =>
    if inComment then
      if c = '\n' || c = '\r' then skipIgnored false p.down rest else skipIgnored true p rest
    else if c = '#' then skipIgnored true p rest
    else if c = '\n' then skipIgnored false p.down rest
    else if c = '\t' then skipIgnored false (p.right 8) rest
    else if c = ' ' || c = ',' then skipIgnored false (p.right 1) rest
    else if c = '\r' || c.toNat = 0xFEFF then skipIgnored false p rest
    else (c :: rest, p)

/-- Characters that start a name. -/
def startsName (c : Char) : Bool := c = '_' || c.isAlpha

/-- Characters that continue a name. -/
def continuesName (c : Char) : Bool := c = '_' || c.isAlphanum

/-- Marks that are tokens of their own. -/
def marks : List Char := ['!', '$', ':', '=', '@', '|', '&', '(', ')', '[', ']', '\x7b', '\x7d']

/-- Characters that end a number. -/
def endsNumber (c : Char) : Bool :=
  marks.contains c || [' ', '\n', '\r', '\t', ',', '#'].contains c

/-- Whether the characters are an integer without needless zeros. -/
def isInteger : List Char → Bool
  | ['0'] | ['-', '0'] => true
  | '0' :: _ | '-' :: '0' :: _ | ['-'] | [] => false
  | first :: rest => (first = '-' || first.isDigit) && rest.all Char.isDigit

/-- Whether the characters are digits, at least one. -/
def isDigits (cs : List Char) : Bool := !cs.isEmpty && cs.all Char.isDigit

/-- Whether the characters are an exponent: digits after a sign or after a first digit from 1 to 8. A
sign alone passes here and fails as a value. -/
def isExponent : List Char → Bool
  | [] => false
  | first :: rest =>
    (first = '-' || first = '+' || '0' < first && first < '9') && rest.all Char.isDigit

/-- The characters before the last one with the property, and those after it. -/
def splitLast (p : Char → Bool) (cs : List Char) : Option (List Char × List Char) :=
  match cs.reverse.dropWhile fun c => !p c with
  | [] => none
  | _ :: before => some (before.reverse, (cs.reverse.takeWhile fun c => !p c).reverse)

/-- The token of a run of characters that starts like a number. -/
def numberToken (cs : List Char) : Token :=
  match splitLast (fun c => c = 'e' || c = 'E') cs with
  | some (mantissa, exponent) =>
    if exponent.contains '.' then .bad
    else
      match splitLast (· = '.') mantissa with
      | some (whole, fraction) =>
        if isInteger whole && isDigits fraction && isExponent exponent then .float cs else .bad
      | none => if isInteger mantissa && isExponent exponent then .float cs else .bad
  | none =>
    match splitLast (· = '.') cs with
    | some (whole, fraction) => if isInteger whole && isDigits fraction then .float cs else .bad
    | none => if isInteger cs then .integer cs else .bad

/-- The content of a quoted text up to its closing quote, and what follows. `escaped` says that a
backslash stands before. -/
def takeQuoted (read : List Char) (escaped : Bool) : List Char → Option (List Char × List Char)
  | [] => none
  | c :: rest =>
    if c = '"' && !escaped then some (read.reverse, rest)
    else if c = '\n' then none
    else takeQuoted (c :: read) (!escaped && c = '\\') rest

/-- The content of a block text up to three quotes without a backslash before them, and what follows.
Three quotes after a backslash are passed over together. -/
def takeBlock (read : List Char) : List Char → Option (List Char × List Char)
  | '"' :: '"' :: '"' :: rest =>
    if read.head? = some '\\' then takeBlock ('"' :: '"' :: '"' :: read) rest
    else some (read.reverse, rest)
  | c :: rest => takeBlock (c :: read) rest
  | [] => none

/-- How deep brackets may nest. -/
def nestingLimit : Nat := 50

/-- The first token of a text that starts with one, what follows it, and the position there. `none` says
that no token starts here. -/
def nextToken (p : Position) : List Char → Option (Token × List Char × Position)
  | [] => none
  | c :: rest =>
    if startsName c then
      let name := c :: rest.takeWhile continuesName
      some (.name (String.ofList name), rest.dropWhile continuesName, p.right name.length)
    else if marks.contains c then some (.punctuation c, rest, p.right 1)
    else if c = '.' then
      match rest with
      | '.' :: '.' :: rest => some (.spread, rest, p.right 3)
      | _ => none
    else if c = '-' || c.isDigit then
      let number := c :: rest.takeWhile fun c => !endsNumber c
      match numberToken number with
      | .bad => none
      | token => some (token, rest.dropWhile fun c => !endsNumber c, p.right number.length)
    else if c = '"' then
      match rest with
      | '"' :: '"' :: rest =>
        (takeBlock [] rest).map fun (text, rest) =>
          (.block text, rest, ((p.right 3).past text).right 3)
      | _ =>
        (takeQuoted [] false rest).map fun (text, rest) =>
          (.quoted text, rest, p.right (text.length + 2))
    else none

/-- Brackets that may still be opened after a token; `none` when it opens one too many. -/
def roomAfter (room : Nat) : Token → Option Nat
  | .punctuation mark =>
    if mark = '(' || mark = '[' || mark = '\x7b' then if room = 0 then none else some (room - 1)
    else if mark = ')' || mark = ']' || mark = '\x7d' then some (room + 1)
    else some room
  | _ => some room

/-- The tokens of a text, read with enough `fuel` for one token a step. -/
def tokensFrom : Nat → Nat → Position → List Char → List Lexeme
  | 0, _, p, _ => [⟨.done, p⟩]
  | fuel + 1, room, p, text =>
    let (text, p) := skipIgnored false p text
    if text.isEmpty then [⟨.done, p⟩]
    else
      match nextToken p text with
      | none => [⟨.bad, p⟩]
      | some (token, rest, next) =>
        match roomAfter room token with
        | none => [⟨.bad, p⟩]
        | some room => ⟨token, p⟩ :: tokensFrom fuel room next rest

/-- The tokens of a text. -/
def tokens (text : String) : List Lexeme :=
  tokensFrom (text.toList.length + 1) nestingLimit ⟨1, 1⟩ text.toList

end ActionForge.Sdl
