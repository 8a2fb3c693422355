import ActionForge.Table.Columns

/-!
# Tables

A table has a header and rows with as many cells. It is drawn in a frame with round corners, one blank on
both sides of each cell.
-/

namespace ActionForge

/-- A table: its header, and rows of as many cells. -/
structure Table where
  header : List String
  rows : List (List String)
  deriving DecidableEq, Repr

namespace Table

/-- A line across the table: its ends, what it is made of, and what stands between columns. -/
structure Rule where
  first : Char
  body : Char
  between : Char
  last : Char

def topRule : Rule := ⟨'╭', '─', '┬', '╮'⟩

def headerRule : Rule := ⟨'╞', '═', '╪', '╡'⟩

def rowRule : Rule := ⟨'├', '╌', '┼', '┤'⟩

def bottomRule : Rule := ⟨'╰', '─', '┴', '╯'⟩

/-- A line across columns of the given widths. -/
def Rule.draw (rule : Rule) (widths : List Nat) : List Char :=
  rule.first :: (List.intercalate [rule.between]
    (widths.map fun width => List.replicate (width + 2) rule.body) ++ [rule.last])

/-- A line of a cell with its padding. -/
def padded (width : Nat) (line : List Char) : List Char :=
  ' ' :: (line ++ List.replicate (width - Text.width line) ' ' ++ [' '])

/-- A line of a row, from one line of each cell. -/
def frame (lines : List (List Char)) : List Char :=
  '│' :: (List.intercalate ['┆'] lines ++ ['│'])

/-- The lines of a row. Cells with fewer lines than others end in blank ones. -/
def rowLines (widths : List Nat) (cells : List String) : List (List Char) :=
  let wrapped := List.zipWith (fun width cell => cellLines width cell.toList) widths cells
  let height := (wrapped.map List.length).foldl max 0
  (List.range height).map fun place =>
    frame (List.zipWith (fun width lines => padded width (lines[place]?.getD [])) widths wrapped)

/-- The cells of each column from the header down, the header naming the columns. -/
def columns (table : Table) : List (List (List Char)) :=
  (List.range table.header.length).map fun place =>
    (table.header :: table.rows).map fun row => (row[place]?.getD "").toList

/-- The lines of rows, with rules between them. -/
def bodyLines (widths : List Nat) : List (List String) → List (List Char)
  | [] => []
  | [row] => rowLines widths row
  | row :: rest => rowLines widths row ++ rowRule.draw widths :: bodyLines widths rest

/-- The table as text on a display of the given width, if it has one. -/
def text (table : Table) (display : Option Nat) : String :=
  let widths := columnWidths display table.columns
  let lines := topRule.draw widths :: (rowLines widths table.header ++
    headerRule.draw widths :: (bodyLines widths table.rows ++ [bottomRule.draw widths]))
  String.ofList (List.intercalate ['\n'] lines)

end Table

end ActionForge
