/-!
# Pieces of texts

A text falls into pieces between the characters that divide it. There is always one more piece than there
are dividers, so pieces may be empty.
-/

namespace ActionForge.Text

/-- The pieces between dividers. `piece` is the current piece, reversed. -/
def piecesFrom (divides : Char → Bool) (piece : List Char) : List Char → List (List Char)
  | [] => [piece.reverse]
  | c :: rest =>
    if divides c then piece.reverse :: piecesFrom divides [] rest
    else piecesFrom divides (c :: piece) rest

/-- The pieces between dividers. -/
def pieces (divides : Char → Bool) (text : List Char) : List (List Char) := piecesFrom divides [] text

/-- The pieces between dividers that hold something. -/
def filledPieces (divides : Char → Bool) (text : List Char) : List (List Char) :=
  (pieces divides text).filter fun piece => !piece.isEmpty

end ActionForge.Text
