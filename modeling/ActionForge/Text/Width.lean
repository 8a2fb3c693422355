import ActionForge.Text.Blank
import ActionForge.Text.ClusterTable
import ActionForge.Text.Ligature

/-!
# Width of texts on a display

A character takes one column, or two when it is wide, or none when it adds to another; a control has no
width of its own, but takes a column inside a text. Ligatures and selectors make it more or less, so a text is
measured from its end, where each character meets what it is put before. `clip` cuts a text to a number of
columns, which a `Ruler` measures.
-/

namespace ActionForge.Text

/-- Characters with columns that the tables do not give: the Tifinagh link, two Khmer signs that are as wide as
the letters that they stand for, and skin tones. -/
def ownWidths : List (Ranges × Nat) := [
  ([(0x2D7F, 0x2D7F)], 1), ([(0x17A4, 0x17A4)], 2), ([(0x17D8, 0x17D8)], 3), (skinToneTable, 2)]

/-- The columns that a character beyond ASCII and its controls takes. -/
def tableWidth (code : Nat) : Nat :=
  (Ranges.value? ownWidths code).getD <|
    if extendingTable.has code || widthlessTable.has code then 0
    else if wideTable.has code then 2
    else 1

/-- The columns that a character takes; `none` for a control. -/
def charWidth? (c : Char) : Option Nat :=
  let code := c.toNat
  if code < 0x20 then none
  else if code < 0x7F then some 1
  else if code < 0xA0 then none
  else some (tableWidth code)

/-- The columns of a character inside a text, where a control counts as one. -/
def ownColumns (c : Char) : Int := (charWidth? c).getD 1

/-- Whether a selector may follow a character: a digit, a number sign, an asterisk or a pictograph. -/
def isSelectable (c : Char) : Bool :=
  if c.toNat < 0x80 then c.isDigit || c = '#' || c = '*' else selectableTable.has c.toNat

/-- Whether a character is a pictograph that can be drawn as a plain sign. Enclosed ideographs stay wide. -/
def isNarrowable (c : Char) : Bool :=
  selectableTable.has c.toNat && pictureTable.has c.toNat && !Ranges.has [(0x1F200, 0x1F2FF)] c.toNat

/-- Whether a character is a quotation mark that can be as wide as an ideograph. -/
def isQuotation (c : Char) : Bool := c = '‘' || c = '’' || c = '“' || c = '”'

/-- Whether a mark without a width may stand between the letters of an Arabic ligature. -/
def isTransparent (c : Char) : Bool := ownColumns c = 0 && !separatingTable.has c.toNat

/-! ## Texts -/

/-- What a text begins with. A selector is a character by itself, but matters with what is after it. -/
structure Lead where
  opening : Opening
  selector : Option Selector

namespace Lead

/-- What a character takes before a text that begins with a selector for it, and what the text then begins with. -/
def selected? (lead : Lead) (c : Char) : Option (Int × Opening) :=
  match lead.selector with
  | some .picture =>
    if isSelectable c then
      some (if lead.opening = .joined || lead.opening = .joinedKeycap then 0 else 2, .picture)
    else none
  | some .plain => if isNarrowable c then some (1, .plain) else none
  | some .full => if isQuotation c then some (2, .plain) else none
  | none => none

/-- What a text begins with to a character that its selector is not for. -/
def unselected (lead : Lead) : Opening :=
  if lead.selector.isNone || lead.opening.isLigating || lead.opening = .alef then lead.opening else .plain

end Lead

/-- What a character takes before a text without a selector, and what the text then begins with. -/
def Opening.put (opening : Opening) (c : Char) : Int × Opening :=
  if isJoiner c then (0, opening.behindJoiner?.getD .plain)
  else if opening.isLigating && isInvisible c then (0, opening)
  else if opening = .alef && isTransparent c then (0, opening)
  else
    match opening.ligature? c with
    | some ligature => ((ligature.change.map (ownColumns c + ·)).getD 0, ligature.result)
    | none => (ownColumns c, .of c)

/-- What a character takes before a text, and what the text then begins with. -/
def Lead.put (lead : Lead) (c : Char) : Int × Lead :=
  match lead.selected? c with
  | some (columns, opening) => (columns, { opening, selector := none })
  | none =>
    match Selector.of? c with
    | some selector =>
      (0, { opening := lead.unselected.behindSelector selector, selector := some selector })
    | none =>
      let (columns, opening) := lead.unselected.put c
      (columns, { opening, selector := none })

/-- The columns of a text, and what it begins with. -/
def measure : List Char → Int × Lead
  | [] => (0, { opening := .plain, selector := none })
  | c :: rest =>
    let (columns, lead) := measure rest
    let (added, lead) := lead.put c
    (columns + added, lead)

/-- The columns that a text takes. -/
def width (cs : List Char) : Nat := (measure cs).1.toNat

/-! ## Clipping -/

/-- How many columns a character takes, `none` for a control, and how many a text takes. -/
structure Ruler where
  char? : Char → Option Nat
  text : List Char → Nat

/-- The columns on a display. -/
def display : Ruler := { char? := charWidth?, text := width }

/-- The columns of a character by itself; a control has none. -/
def Ruler.columns (ruler : Ruler) (c : Char) : Nat := (ruler.char? c).getD 0

/-- The characters from the start of a text that leave one of `room` columns free. -/
def takeColumns (ruler : Ruler) (room : Nat) : List Char → List Char
  | [] => []
  | c :: rest =>
    if ruler.columns c + 1 ≤ room then c :: takeColumns ruler (room - ruler.columns c) rest else []

/-- The text without blanks at its ends, cut to `limit` columns. An ellipsis stands for what is cut. -/
def clip (ruler : Ruler) (limit : Nat) (cs : List Char) : List Char :=
  let text := trim cs
  if ruler.text text ≤ limit then text else takeColumns ruler limit text ++ ['…']

end ActionForge.Text
