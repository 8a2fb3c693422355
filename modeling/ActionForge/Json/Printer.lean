import ActionForge.Decimal.Shortest
import ActionForge.Json.Basic
import ActionForge.Text.Blank
import ActionForge.Text.Hex

/-!
# JSON text

`Json.compact` writes a value without blanks and `Json.pretty` with one member or item a line, two
blanks a level. `Json.embedded` is the pretty text with its continuation lines moved in, as it stands
after a property name in a larger text. Only `"`, `\` and control characters are escaped.
-/

namespace ActionForge

/-- A character as it stands in a quoted text. -/
def quotedChar (c : Char) : List Char :=
  if c = '"' then ['\\', '"']
  else if c = '\\' then ['\\', '\\']
  else if c = '\n' then ['\\', 'n']
  else if c = '\r' then ['\\', 'r']
  else if c = '\t' then ['\\', 't']
  else if c.toNat = 8 then ['\\', 'b']
  else if c.toNat = 12 then ['\\', 'f']
  else if c.toNat < 0x20 then ['\\', 'u', '0', '0', Text.hexDigit (c.toNat / 16), Text.hexDigit c.toNat]
  else [c]

/-- A text in quotes. -/
def quotedChars (cs : List Char) : List Char := '"' :: (cs.flatMap quotedChar ++ ['"'])

/-- A text as a JSON string. -/
def quoted (s : String) : String := String.ofList (quotedChars s.toList)

/-- The digits of an integer, after its sign. -/
def integerChars : Int → List Char
  | .ofNat n => Nat.toDigits 10 n
  | .negSucc n => '-' :: Nat.toDigits 10 (n + 1)

/-- A number's text. -/
def Number.chars : Number → List Char
  | .integer n => integerChars n
  | .float x => x.text

namespace Json

mutual

/-- Characters of the compact text. -/
def compactChars : Json → List Char
  | .null => ['n', 'u', 'l', 'l']
  | .bool true => ['t', 'r', 'u', 'e']
  | .bool false => ['f', 'a', 'l', 's', 'e']
  | .number n => n.chars
  | .text s => quotedChars s.toList
  | .array items => '[' :: (compactItems items ++ [']'])
  | .object members => '\x7b' :: (compactMembers members ++ ['\x7d'])

/-- The items with commas between them. -/
def compactItems : List Json → List Char
  | [] => []
  | [item] => item.compactChars
  | item :: rest => item.compactChars ++ ',' :: compactItems rest

/-- The members with commas between them. -/
def compactMembers : List (String × Json) → List Char
  | [] => []
  | [(name, value)] => quotedChars name.toList ++ ':' :: value.compactChars
  | (name, value) :: rest =>
    quotedChars name.toList ++ ':' :: (value.compactChars ++ ',' :: compactMembers rest)

end

/-- A new line at the given nesting level. -/
def newLine (level : Nat) : List Char := '\n' :: List.replicate (2 * level) ' '

mutual

/-- Characters of the pretty text of a value that stands at a nesting level. -/
def prettyChars (level : Nat) : Json → List Char
  | .null => ['n', 'u', 'l', 'l']
  | .bool true => ['t', 'r', 'u', 'e']
  | .bool false => ['f', 'a', 'l', 's', 'e']
  | .number n => n.chars
  | .text s => quotedChars s.toList
  | .array [] => ['[', ']']
  | .array (item :: rest) =>
    '[' :: (newLine (level + 1) ++ item.prettyChars (level + 1) ++ prettyItems (level + 1) rest ++
      newLine level ++ [']'])
  | .object [] => ['\x7b', '\x7d']
  | .object ((name, value) :: rest) =>
    '\x7b' :: (newLine (level + 1) ++ quotedChars name.toList ++ [':', ' '] ++
      value.prettyChars (level + 1) ++ prettyMembers (level + 1) rest ++ newLine level ++ ['\x7d'])

/-- The items after the first, each after a comma. -/
def prettyItems (level : Nat) : List Json → List Char
  | [] => []
  | item :: rest => ',' :: (newLine level ++ item.prettyChars level ++ prettyItems level rest)

/-- The members after the first, each after a comma. -/
def prettyMembers (level : Nat) : List (String × Json) → List Char
  | [] => []
  | (name, value) :: rest =>
    ',' :: (newLine level ++ quotedChars name.toList ++ [':', ' '] ++ value.prettyChars level ++
      prettyMembers level rest)

end

/-- The text without blanks. -/
def compact (value : Json) : String := String.ofList value.compactChars

/-- The text with one member or item a line. -/
def pretty (value : Json) : String := String.ofList (value.prettyChars 0)

/-- The pretty text, its lines after the first moved in by `indent` blanks. -/
def embedded (value : Json) (indent : Nat) : String :=
  String.ofList (List.intercalate ('\n' :: List.replicate indent ' ') (Text.lines (value.prettyChars 0)))

end Json

end ActionForge
