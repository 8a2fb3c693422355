import ActionForge.Text.CaseTable
import ActionForge.Text.Letter

/-!
# Case mappings

Full upper-case and lower-case mappings: a letter may become several. `lowercase` maps a whole text
and writes the small sigma that Greek puts at the end of a word.
-/

namespace ActionForge.Text

/-- The character with the given code point, for code points taken from a table. -/
def charAt (code : Int) : Char := Char.ofNat code.toNat

/-- The images of a code point in a case table; `none` where the table leaves it alone. -/
def mappedBy (shifts : List CaseTable.Shift) (many : List (Nat × List Nat)) (code : Nat) :
    Option (List Char) :=
  match many.lookup code with
  | some codes => some (codes.map fun image => Char.ofNat image)
  | none => (shifts.find? fun shift => shift.run.has code).map fun shift =>
      [charAt (code + shift.distance)]

/-- The lower case of one character. -/
def lowerChar (c : Char) : List Char :=
  if c.toNat < 0x80 then [c.toLower]
  else (mappedBy CaseTable.toLower CaseTable.toLowerMany c.toNat).getD [c]

/-- The upper case of one character. -/
def upperChar (c : Char) : List Char :=
  if c.toNat < 0x80 then [c.toUpper]
  else (mappedBy CaseTable.toUpper CaseTable.toUpperMany c.toNat).getD [c]

/-- Whether the first character that case detection does not look through is a cased letter. -/
def meetsCased (cs : List Char) : Bool :=
  match cs.dropWhile isCaseIgnorable with
  | [] => false
  | c :: _ => isCased c

/-- Lower case of a text whose part `before` (reversed) has been passed already. -/
def lowercaseAfter (before : List Char) : List Char → List Char
  | [] => []
  | c :: rest =>
    let image :=
      if c = 'Σ' then
        if meetsCased before && !meetsCased rest then ['ς'] else ['σ']
      else lowerChar c
    image ++ lowercaseAfter (c :: before) rest

/-- Lower case of a text. A capital sigma that ends a word becomes `ς`. -/
def lowercase (text : String) : String :=
  String.ofList (lowercaseAfter [] text.toList)

end ActionForge.Text
