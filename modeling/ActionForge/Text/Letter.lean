import ActionForge.Text.LetterTable

/-!
# Letter properties

Which characters are letters or numbers, and which have a case. Each property is decided at once for
ASCII and looked up in `LetterTable` otherwise.
-/

namespace ActionForge.Text

/-- Letters and numbers of every script. -/
def isAlphanumeric (c : Char) : Bool :=
  if c.toNat < 0x80 then c.isAlphanum else LetterTable.alphanumeric.has c.toNat

/-- Upper-case letters of every script. -/
def isUpper (c : Char) : Bool :=
  if c.toNat < 0x80 then c.isUpper else Runs.has LetterTable.uppercase c.toNat

/-- Lower-case letters of every script. -/
def isLower (c : Char) : Bool :=
  if c.toNat < 0x80 then c.isLower else Runs.has LetterTable.lowercase c.toNat

/-- Letters that have case, title-case letters included. -/
def isCased (c : Char) : Bool :=
  if c.toNat < 0x80 then c.isAlpha else LetterTable.cased.has c.toNat

/-- ASCII characters that case detection looks through. -/
def asciiCaseIgnorable : List Char := ['\'', '.', ':', '^', '`']

/-- Characters that case detection looks through, such as apostrophes and combining marks. -/
def isCaseIgnorable (c : Char) : Bool :=
  if c.toNat < 0x80 then asciiCaseIgnorable.contains c else LetterTable.caseIgnorable.has c.toNat

end ActionForge.Text
