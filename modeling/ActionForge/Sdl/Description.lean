import ActionForge.Text.Blank
import ActionForge.Text.Bytes
import ActionForge.Text.Hex

/-!
# Quoted texts of the schema language

`unescape` replaces the escapes of a quoted text. `unindent` gives the value of a block text: the common
indent of its lines and the blank lines at its ends are dropped.
-/

namespace ActionForge.Sdl

/-- The number of hexadecimal digits after an optional plus sign. -/
def codePoint? (digits : List Char) : Option Nat :=
  let digits := if digits.head? = some '+' then digits.tail else digits
  if digits.isEmpty then none
  else digits.foldlM (fun value c => (Text.hexValue? c).map (value * 16 + ·)) 0

/-- The character that a one-letter escape stands for. -/
def escaped? (c : Char) : Option Char :=
  match c with
  | '"' | '\\' | '/' => some c
  | 'b' => some (Char.ofNat 0x10)
  | 'f' => some (Char.ofNat 0xC)
  | 'n' => some '\n'
  | 'r' => some '\r'
  | 't' => some '\t'
  | _ => none

/-- Replaces the escapes of a quoted text; `none` when one of them is no escape or stands for half of a
surrogate pair. -/
def unescape : List Char → Option (List Char)
  | [] => some []
  | '\\' :: 'u' :: a :: b :: c :: d :: rest => do
    let code ← codePoint? [a, b, c, d]
    if 0xD800 ≤ code ∧ code ≤ 0xDFFF then none
    else (Char.ofNat code :: ·) <$> unescape rest
  | '\\' :: c :: rest => do
    let image ← escaped? c
    (image :: ·) <$> unescape rest
  | ['\\'] => none
  | c :: rest => (c :: ·) <$> unescape rest

/-- The bytes of blanks at the front of a line. -/
def indentOf (line : List Char) : Nat := Text.byteLength (line.takeWhile Text.isBlank)

/-- Whether a line holds blanks only. -/
def isBlankLine (line : List Char) : Bool := line.all Text.isBlank

/-- Drops blank lines from the front. -/
def dropBlankLines (lines : List (List Char)) : List (List Char) := lines.dropWhile isBlankLine

/-- Writes three quotes for three quotes after a backslash. -/
def plainQuotes : List Char → List Char
  | '\\' :: '"' :: '"' :: '"' :: rest => '"' :: '"' :: '"' :: plainQuotes rest
  | c :: rest => c :: plainQuotes rest
  | [] => []

/-- The value of a block text. The indent that all lines but the first have in common, blank lines left
aside, is taken off those lines; then blank lines at both ends go. -/
def unindent (text : List Char) : List Char :=
  match Text.lines text with
  | [] => []
  | first :: others =>
    let indents := (others.filter fun line => !isBlankLine line).map indentOf
    let common := indents.min?.getD 0
    let shifted := others.map fun line =>
      if Text.byteLength line < common then line else Text.dropBytes common line
    let kept := dropBlankLines (dropBlankLines (first :: shifted)).reverse
    List.intercalate ['\n'] (kept.reverse.map plainQuotes)

end ActionForge.Sdl
