import ActionForge.Json.Basic
import ActionForge.Text.Bytes
import ActionForge.Text.Hex

/-!
# Tokens of JSON text

`scan` reads a text character by character and never fails: where the text stops being JSON it ends the
tokens with `Token.broken` or `Token.brokenText`. Two faults are noticed only by a reader that wants the value, so they stay
inside their token: a number beyond the range of `Number`, and a text with half of a surrogate pair.
-/

namespace ActionForge.Json

open Text (digitValue hexValue?)

/-- How a text fails to be JSON: it ends too early, or something else stands where it should go on. -/
inductive Break where
  | truncated
  | malformed
  deriving DecidableEq, Repr

/-- The two kinds of containers. -/
inductive Bracket where
  | square
  | curly
  deriving DecidableEq, Repr

/-- A token. `number none` is a number out of range and `text none` a text with half of a surrogate pair.
`brokenText` and `broken` end what can be understood, in a text and elsewhere; they tell a reader `read`
and a reader that only passes over the value `skip`. -/
inductive Token where
  | opening (bracket : Bracket)
  | closing (bracket : Bracket)
  | comma
  | colon
  | null
  | bool (b : Bool)
  | number (n : Option Number)
  | text (s : Option String)
  | brokenText (read skip : Break)
  | broken (read skip : Break)
  deriving DecidableEq, Repr

/-- The blanks between tokens. -/
def isSpace (c : Char) : Bool := c = ' ' || c = '\t' || c = '\n' || c = '\r'

/-! ## Numbers -/

/-- The part of a number that was read last. -/
inductive NumberPart where
  | sign
  | zero
  | whole
  | point
  | fraction
  | mark
  | markSign
  | exponent
  deriving DecidableEq, Repr

/-- A number while it is being read; digits are held last first. -/
structure NumberText where
  part : NumberPart
  negative : Bool := false
  whole : List Nat := []
  fraction : List Nat := []
  exponentNegative : Bool := false
  exponent : List Nat := []
  deriving DecidableEq, Repr

/-- The number that starts with a digit. -/
def NumberText.ofDigit (negative : Bool) (c : Char) : NumberText :=
  { part := if c = '0' then .zero else .whole, negative, whole := [digitValue c] }

/-- What one more character does to a number: it continues it, it stands after it, or it may not follow. -/
inductive NumberStep where
  | more (number : NumberText)
  | finished
  | refused
  deriving DecidableEq, Repr

/-- Reads one more character of a number. -/
def NumberText.step (n : NumberText) (c : Char) : NumberStep :=
  match n.part with
  | .sign => if c.isDigit then .more (ofDigit n.negative c) else .refused
  | .zero =>
    if c.isDigit then .refused
    else if c = '.' then .more { n with part := .point }
    else if c = 'e' || c = 'E' then .more { n with part := .mark }
    else .finished
  | .whole =>
    if c.isDigit then .more { n with whole := digitValue c :: n.whole }
    else if c = '.' then .more { n with part := .point }
    else if c = 'e' || c = 'E' then .more { n with part := .mark }
    else .finished
  | .point =>
    if c.isDigit then .more { n with part := .fraction, fraction := [digitValue c] } else .refused
  | .fraction =>
    if c.isDigit then .more { n with fraction := digitValue c :: n.fraction }
    else if c = 'e' || c = 'E' then .more { n with part := .mark }
    else .finished
  | .mark =>
    if c.isDigit then .more { n with part := .exponent, exponent := [digitValue c] }
    else if c = '+' || c = '-' then .more { n with part := .markSign, exponentNegative := c = '-' }
    else .refused
  | .markSign =>
    if c.isDigit then .more { n with part := .exponent, exponent := [digitValue c] } else .refused
  | .exponent =>
    if c.isDigit then .more { n with exponent := digitValue c :: n.exponent } else .finished

/-- Whether a number may end after the part that was read last. -/
def NumberText.isComplete (n : NumberText) : Bool :=
  match n.part with
  | .zero | .whole | .fraction | .exponent => true
  | .sign | .point | .mark | .markSign => false

/-- Takes digits into a significand as long as it stays below `limit`; gives the digits left over. -/
def takeFitting (limit : Nat) (significand : Nat) : List Nat → Nat × List Nat
  | [] => (significand, [])
  | d :: rest =>
    if significand * 10 + d < limit then takeFitting limit (significand * 10 + d) rest
    else (significand, d :: rest)

/-- The value of a complete number, or `none` when it is out of range. A number without point and
exponent is an integer if one of 64 bits can hold it. Otherwise the significand keeps the leading digits
that 64 bits can hold; further digits before the point count as powers of ten, those after it not at
all. -/
def NumberText.value? (n : NumberText) : Option Number :=
  let (whole, wholeLeft) := takeFitting (Nat.pow 2 64) 0 n.whole.reverse
  if n.fraction.isEmpty && n.exponent.isEmpty && wholeLeft.isEmpty &&
      (!n.negative || (whole != 0 && whole ≤ Nat.pow 2 63)) then
    some (.integer (if n.negative then -(whole : Int) else whole))
  else
    let (significand, fractionLeft) := takeFitting (Nat.pow 2 64) whole n.fraction.reverse
    let power : Int := (wholeLeft.length : Int) - (n.fraction.length - fractionLeft.length : Nat)
    let (shift, shiftLeft) := takeFitting (Nat.pow 2 31) 0 n.exponent.reverse
    if !shiftLeft.isEmpty then
      if significand != 0 && !n.exponentNegative then none else some (.float (.zero n.negative))
    else
      let power := if n.exponentNegative then power - shift else power + shift
      (Binary64.ofScientific significand power).map fun x => .float (x.withSign n.negative)

/-! ## The scanner -/

/-- Where the scanner stands: between tokens, in a word of which some letters are left, in a number, in a
text, after a backslash in a text, in four hexadecimal digits of which some are left, or after the first
half of a surrogate pair. In a text, `sound` says that no half pair was met; `lead` is a first half that
waits for its second. -/
inductive Mode where
  | between
  | word (left : List Char) (token : Token)
  | number (n : NumberText)
  | text (read : List Char) (sound : Bool)
  | escape (read : List Char) (sound : Bool) (lead : Option Nat)
  | hex (read : List Char) (sound : Bool) (lead : Option Nat) (value left : Nat)
  | pair (read : List Char) (sound : Bool) (lead : Nat)

/-- What a reader learns where a text breaks off: a half pair met before counts first. -/
def textBreak (sound : Bool) (how : Break) : Token :=
  .brokenText (if sound then how else .malformed) how

/-- The character that a one-letter escape stands for. -/
def escaped? (c : Char) : Option Char :=
  match c with
  | '"' => some '"'
  | '\\' => some '\\'
  | '/' => some '/'
  | 'b' => some (Char.ofNat 8)
  | 'f' => some (Char.ofNat 12)
  | 'n' => some '\n'
  | 'r' => some '\r'
  | 't' => some '\t'
  | _ => none

/-- Whether at least four bytes are left for hexadecimal digits. -/
def hasFourBytes (cs : List Char) : Bool := 4 ≤ Text.byteLength (cs.take 4)

/-- The mode after a complete hexadecimal escape. -/
def afterHex (read : List Char) (sound : Bool) (lead : Option Nat) (value : Nat) : Mode :=
  match lead with
  | some first =>
    if 0xDC00 ≤ value ∧ value ≤ 0xDFFF then
      .text (Char.ofNat ((first - 0xD800) * 0x400 + (value - 0xDC00) + 0x10000) :: read) sound
    else .text read false
  | none =>
    if 0xD800 ≤ value ∧ value ≤ 0xDBFF then .pair read sound value
    else if 0xDC00 ≤ value ∧ value ≤ 0xDFFF then .text read false
    else .text (Char.ofNat value :: read) sound

/-- Reads a character in a text; `go` reads on in the mode it gets. -/
def inText (read : List Char) (sound : Bool) (c : Char) (go : Mode → List Token) : List Token :=
  if c = '"' then .text (if sound then some (String.ofList read.reverse) else none) :: go .between
  else if c = '\\' then go (.escape read sound none)
  else if c.toNat < 0x20 then [textBreak sound .malformed]
  else go (.text (c :: read) sound)

/-- Reads a character between tokens; `go` reads on in the mode it gets. -/
def enter (c : Char) (go : Mode → List Token) : List Token :=
  if isSpace c then go .between
  else if c = '[' then .opening .square :: go .between
  else if c = ']' then .closing .square :: go .between
  else if c = '\x7b' then .opening .curly :: go .between
  else if c = '\x7d' then .closing .curly :: go .between
  else if c = ',' then .comma :: go .between
  else if c = ':' then .colon :: go .between
  else if c = '"' then go (.text [] true)
  else if c = 'n' then go (.word ['u', 'l', 'l'] .null)
  else if c = 't' then go (.word ['r', 'u', 'e'] (.bool true))
  else if c = 'f' then go (.word ['a', 'l', 's', 'e'] (.bool false))
  else if c = '-' then go (.number { part := .sign, negative := true })
  else if c.isDigit then go (.number (.ofDigit false c))
  else [.broken .malformed .malformed]

/-- The tokens of the characters that are left. -/
def scan : Mode → List Char → List Token
  | .between, [] => []
  | .between, c :: rest => enter c fun mode => scan mode rest
  | .word [] token, [] => [token]
  | .word [] token, c :: rest => token :: enter c fun mode => scan mode rest
  | .word (_ :: _) _, [] => [.broken .truncated .truncated]
  | .word (expected :: left) token, c :: rest =>
    if c = expected then scan (.word left token) rest else [.broken .malformed .malformed]
  | .number n, [] => if n.isComplete then [.number n.value?] else [.broken .truncated .malformed]
  | .number n, c :: rest =>
    match n.step c with
    | .more n => scan (.number n) rest
    | .finished => .number n.value? :: enter c fun mode => scan mode rest
    | .refused => [.broken .malformed .malformed]
  | .text _ sound, [] => [textBreak sound .truncated]
  | .text read sound, c :: rest => inText read sound c fun mode => scan mode rest
  | .escape _ sound _, [] => [textBreak sound .truncated]
  | .escape read sound lead, c :: rest =>
    if c = 'u' then
      if hasFourBytes rest then scan (.hex read sound lead 0 4) rest else [textBreak sound .truncated]
    else
      match escaped? c with
      | some image => scan (.text (image :: read) (sound && lead.isNone)) rest
      | none => [textBreak (sound && lead.isNone) .malformed]
  | .hex _ sound _ _ _, [] => [textBreak sound .truncated]
  | .hex read sound lead value left, c :: rest =>
    match hexValue? c with
    | none => [textBreak sound .malformed]
    | some digit =>
      if left ≤ 1 then scan (afterHex read sound lead (value * 16 + digit)) rest
      else scan (.hex read sound lead (value * 16 + digit) (left - 1)) rest
  | .pair _ sound _, [] => [textBreak sound .truncated]
  | .pair read sound lead, c :: rest =>
    if c = '\\' then scan (.escape read sound (some lead)) rest
    else inText read false c fun mode => scan mode rest

/-- The tokens of a text. -/
def tokens (text : List Char) : List Token := scan .between text

end ActionForge.Json
