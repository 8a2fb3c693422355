import ActionForge.Text.Bytes
import ActionForge.Text.Cluster
import ActionForge.Text.Pieces
import ActionForge.Text.Width

/-!
# Wrapping lines

A line that is wider than its column is broken between words. Words that are wider than the column are
cut, and a line that has hardly any room left is not filled up. Lines are lists of characters.
-/

namespace ActionForge.Table

/-- Room that is too small to begin a word in. -/
def slack : Nat := 2

/-- The number of characters in the clusters from the start of a word that fit into a room. -/
def fittingLength (room : Nat) : List (List Char) → Nat
  | [] => 0
  | cluster :: rest =>
    let columns := Text.width cluster
    if columns ≤ room then cluster.length + fittingLength (room - columns) rest else 0

/-- The number of characters from the start of a word that fit into a room. -/
def fitting (room : Nat) (word : List Char) : Nat := fittingLength room (Text.clusters word)

/-- Cuts a word into lines of the given width, each with one character at least. Gives the full lines and
what is left for the line after them. -/
def cut (width : Nat) : List Char → List (List Char) × List Char
  | [] => ([], [])
  | c :: rest =>
    if Text.width (c :: rest) ≤ width then ([], c :: rest)
    else
      let count := max 1 (fitting width (c :: rest))
      let (lines, last) := cut width ((c :: rest).drop count)
      ((c :: rest).take count :: lines, last)
termination_by word => word.length
decreasing_by simp only [List.length_drop, List.length_cons]; omega

/-- Full lines and the line that words are still added to. -/
structure Wrapping where
  full : List (List Char)
  line : List Char

/-- Ends the line when hardly any room is left in it. -/
def Wrapping.endFull (width : Nat) (wrapping : Wrapping) : Wrapping :=
  if width - slack < Text.width wrapping.line then
    { full := wrapping.full ++ [wrapping.line], line := [] }
  else wrapping

/-- Adds a word on lines of its own. -/
def Wrapping.addBelow (width : Nat) (full : List (List Char)) (word : List Char) : Wrapping :=
  let (lines, last) := cut width word
  Wrapping.endFull width { full := full ++ lines, line := last }

/-- Adds a word after the words of a line that is not empty. -/
def Wrapping.addAfter (width : Nat) (wrapping : Wrapping) (word : List Char) : Wrapping :=
  let room := width - Text.width wrapping.line - 1
  if Text.width wrapping.line + 1 + Text.width word ≤ width then
    Wrapping.endFull width { wrapping with line := wrapping.line ++ ' ' :: word }
  else if room ≤ slack || Text.width word ≤ width then
    addBelow width (wrapping.full ++ [wrapping.line]) word
  else
    let count := fitting room word
    addBelow width (wrapping.full ++ [wrapping.line ++ ' ' :: word.take count]) (word.drop count)

/-- Adds a word. -/
def Wrapping.add (width : Nat) (wrapping : Wrapping) (word : List Char) : Wrapping :=
  if wrapping.line.isEmpty then addBelow width wrapping.full word else wrapping.addAfter width word

/-- The lines that a line becomes in a column of the given width. -/
def wrap (width : Nat) (line : List Char) : List (List Char) :=
  if Text.width line ≤ width then [line]
  else
    let wrapping := (Text.pieces (· = ' ') line).foldl (Wrapping.add (max 1 width)) ⟨[], []⟩
    wrapping.full ++ (if wrapping.line.isEmpty then [] else [wrapping.line])

/-- The lines of a cell in a column of the given width. -/
def cellLines (width : Nat) (cell : List Char) : List (List Char) :=
  (Text.pieces (· = '\n') cell).flatMap (wrap width)

end ActionForge.Table
