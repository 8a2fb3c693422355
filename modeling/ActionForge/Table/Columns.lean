import ActionForge.Table.Wrap

/-!
# Widths of columns

The columns of a table share the width of the display. Narrow columns take what they need; then columns
that lose little by being wrapped take what they need wrapped; the others share the rest. When every
column has what it needs, what is left over is shared among all.
-/

namespace ActionForge.Table

/-- A column: its cells from the header down, and its width once it is decided. -/
structure Column where
  cells : List (List Char)
  decided : Option Nat

namespace Column

/-- The greatest width that a column may need. -/
def widthLimit : Nat := 65535

/-- The width at which no line of the column is wrapped. -/
def need (column : Column) : Nat :=
  min widthLimit
    (((column.cells.flatMap (Text.pieces (· = '\n'))).map Text.width).foldl max 1)

/-- The bytes of the longest line of the column when it is wrapped at a width. -/
def longest (column : Column) (width : Nat) : Nat :=
  ((column.cells.flatMap (cellLines width)).map Text.byteLength).foldl max 0

/-- What a column needs, if that is no more than its share. -/
def narrow? (column : Column) (share : Nat) : Option Nat :=
  if column.need ≤ share then some column.need else none

/-- What a column needs wrapped at its share, if that leaves some room. -/
def wrapped? (column : Column) (share : Nat) : Option Nat :=
  if column.longest share + 3 ≤ share then some (column.longest share) else none

end Column

/-- Columns that are being decided, and the room that is left for the undecided ones. -/
structure Plan where
  columns : List Column
  room : Nat

/-- The number of columns without a width. -/
def undecided (columns : List Column) : Nat := columns.countP fun column => column.decided.isNone

/-- Asks each undecided column whether it takes a width when it is offered its share of the room, `count`
being the number of columns that are undecided. -/
def offer (choose : Column → Nat → Option Nat) (room count : Nat) : List Column → Plan
  | [] => ⟨[], room⟩
  | column :: rest =>
    match column.decided, choose column (room / count) with
    | none, some width =>
      let plan := offer choose (room - width) (count - 1) rest
      { plan with columns := { column with decided := some width } :: plan.columns }
    | _, _ =>
      let plan := offer choose room count rest
      { plan with columns := column :: plan.columns }

/-- Makes offers as long as a column may take one: each round in which none does is the last that
changes anything, so as many rounds as there are columns are enough. -/
def offerAll (choose : Column → Nat → Option Nat) : Nat → Plan → Plan
  | 0, plan => plan
  | rounds + 1, plan =>
    offerAll choose rounds (offer choose plan.room (undecided plan.columns) plan.columns)

/-- `total` in `count` parts that differ by one at most, the greater ones first. -/
def shares (total count : Nat) : List Nat :=
  (List.range count).map fun place => total / count + (if place < total % count then 1 else 0)

/-- Gives the undecided columns the widths in turn. -/
def fill : List Column → List Nat → List Nat
  | [], _ => []
  | column :: rest, widths =>
    match column.decided, widths with
    | some width, _ => width :: fill rest widths
    | none, width :: widths => max 1 width :: fill rest widths
    | none, [] => 1 :: fill rest []

/-- The widths that share a room among columns. -/
def shareRoom (room : Nat) (cells : List (List (List Char))) : List Nat :=
  let count := cells.length
  let columns := cells.map fun cells => { cells, decided := none }
  let plan := offerAll Column.wrapped? count (offerAll Column.narrow? count ⟨columns, room⟩)
  let left := undecided plan.columns
  if left = 0 then List.zipWith (· + ·) (fill plan.columns []) (shares plan.room count)
  else fill plan.columns (shares (max plan.room left) left)

/-- The widths of columns without their padding, on a display of the given width if it has one. -/
def columnWidths (display : Option Nat) (cells : List (List (List Char))) : List Nat :=
  match display with
  | none => cells.map fun cells => Column.need { cells, decided := none }
  | some width => shareRoom (width - (cells.length + 1) - 2 * cells.length) cells

end ActionForge.Table
