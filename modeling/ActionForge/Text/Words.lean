import ActionForge.Text.Case
import ActionForge.Text.Pieces

/-!
# Words of an identifier

`words` splits an identifier such as `user_fullName` or `HTTPServer` into its words, and `titleCase`,
`upperCamelCase` and `lowerCamelCase` write the words again. Everything that is neither a letter nor a
number separates words. Within a piece a word ends before a capital that follows a small letter, and
before the last capital of a run of capitals that a small letter follows.
-/

namespace ActionForge.Text

/-- What the letters since the last boundary were: none with case, small or capital ones. -/
inductive Casing where
  | neutral
  | lower
  | upper
  deriving DecidableEq, Repr

/-- The casing after one more character; characters without case leave it as it was. -/
def Casing.after (casing : Casing) (c : Char) : Casing :=
  if isLower c then .lower else if isUpper c then .upper else casing

/-- Splits one piece into words. `word` is the word so far, reversed. -/
def splitPiece (casing : Casing) (word : List Char) : List Char → List (List Char)
  | [] => []
  | [c] => [(c :: word).reverse]
  | c :: next :: rest =>
    if casing.after c = .lower && isUpper next then
      (c :: word).reverse :: splitPiece .neutral [] (next :: rest)
    else if casing = .upper && isUpper c && isLower next then
      word.reverse :: splitPiece .neutral [c] (next :: rest)
    else splitPiece (casing.after c) (c :: word) (next :: rest)

/-- The words of an identifier. -/
def words (name : List Char) : List (List Char) :=
  (filledPieces (!isAlphanumeric ·) name).flatMap (splitPiece .neutral [])

/-- A word in small letters, with a sigma at its end written `ς`. -/
def lowerWord : List Char → List Char
  | [] => []
  | [c] => if c = 'Σ' then ['ς'] else lowerChar c
  | c :: rest => lowerChar c ++ lowerWord rest

/-- A word with a capital first letter and small letters after it. -/
def capitalWord : List Char → List Char
  | [] => []
  | c :: rest => upperChar c ++ lowerWord rest

/-- Capitalised words with blanks between them: `user_fullName` gives `User Full Name`. -/
def titleCase (name : String) : String :=
  String.ofList (List.intercalate [' '] ((words name.toList).map capitalWord))

/-- Capitalised words written together: `user_name` gives `UserName`. -/
def upperCamelCase (name : String) : String :=
  String.ofList ((words name.toList).flatMap capitalWord)

/-- Words written together, the first in small letters and the others capitalised. -/
def lowerCamel : List (List Char) → List Char
  | [] => []
  | first :: rest => lowerWord first ++ rest.flatMap capitalWord

/-- An identifier in lower camel case: `user_name` gives `userName`. -/
def lowerCamelCase (name : String) : String :=
  String.ofList (lowerCamel (words name.toList))

end ActionForge.Text
