import ActionForge.Text.HiddenTable

/-!
# Texts inside messages

`shown` puts a text in quotes for a message: quotes, backslashes, line ends, tabs and NUL are escaped by
a letter, and characters that would not show are written by their code point.
-/

namespace ActionForge.Text

/-- Whether a character would not show in a message. -/
def isHidden (c : Char) : Bool :=
  if c.toNat < 0x80 then c.toNat < 0x20 || c.toNat == 0x7F else hiddenTable.has c.toNat

/-- A character as a quoted text of a message has it. -/
def shownChar (c : Char) : List Char :=
  if c.toNat = 0 then ['\\', '0']
  else if c = '\t' then ['\\', 't']
  else if c = '\r' then ['\\', 'r']
  else if c = '\n' then ['\\', 'n']
  else if c = '"' then ['\\', '"']
  else if c = '\\' then ['\\', '\\']
  else if isHidden c then ['\\', 'u', '\x7b'] ++ Nat.toDigits 16 c.toNat ++ ['\x7d']
  else [c]

/-- A text in quotes, as a message has it. -/
def shown (s : String) : String :=
  String.ofList ('"' :: (s.toList.flatMap shownChar ++ ['"']))

end ActionForge.Text
