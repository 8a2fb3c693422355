import ActionForge.Document
import ActionForge.Form.Order
import ActionForge.Proofs.Name

/-!
# Template texts

A template text is made of characters and of expressions between `${` and `}`. `Template.pieces` takes
it apart, and `Scans text pieces` says that a beginning is taken apart in the same way whatever follows,
so texts can be taken apart part by part. The paths that a template reads are those of its expressions
into the object that holds what the user filled in.
-/

namespace ActionForge

/-- A piece of a template text. -/
inductive TemplatePiece where
  | char (c : Char)
  | expression (code : List Char)
  deriving DecidableEq, Repr

namespace Template

/-! ## Taking templates apart -/

/-- The pieces of a template text. Inside an expression, `code` is what has been read of it, reversed. -/
def piecesFrom : Option (List Char) → List Char → List TemplatePiece
  | _, [] => []
  | none, '$' :: '\x7b' :: rest => piecesFrom (some []) rest
  | none, c :: rest => .char c :: piecesFrom none rest
  | some code, c :: rest =>
    if c = '\x7d' then .expression code.reverse :: piecesFrom none rest
    else piecesFrom (some (c :: code)) rest

/-- The pieces of a template text. -/
def pieces (text : List Char) : List TemplatePiece := piecesFrom none text

/-- The characters of a text as pieces. -/
def plain (text : String) : List TemplatePiece := text.toList.map .char

/-- The characters of two texts are those of one after those of the other. -/
@[simp]
theorem plain_append (first second : String) :
    plain (first ++ second) = plain first ++ plain second := by
  rw [plain, String.toList_append, List.map_append, plain, plain]

/-- A beginning that falls into the given pieces whatever follows it. -/
def Scans (text : List Char) (pieces : List TemplatePiece) : Prop :=
  ∀ rest, piecesFrom none (text ++ rest) = pieces ++ piecesFrom none rest

/-- An empty beginning has no pieces. -/
theorem Scans.nil : Scans [] [] := fun _ => rfl

/-- Beginnings that are taken apart by themselves are taken apart one after the other. -/
theorem Scans.append {text text' : List Char} {pieces pieces' : List TemplatePiece}
    (h : Scans text pieces) (h' : Scans text' pieces') : Scans (text ++ text') (pieces ++ pieces') := by
  intro rest
  rw [List.append_assoc, h, h', List.append_assoc]

/-- A beginning is taken apart in the same way when nothing follows it. -/
theorem Scans.pieces_eq {text : List Char} {pieces : List TemplatePiece} (h : Scans text pieces) :
    Template.pieces text = pieces := by
  have hend := h []
  rwa [List.append_nil, piecesFrom, List.append_nil] at hend

/-- Text without a dollar sign is no more than its characters. -/
theorem scans_chars {text : List Char} (h : '$' ∉ text) : Scans text (text.map .char) := by
  intro rest
  induction text with
  | nil => rfl
  | cons c text ih =>
    have hc : c ≠ '$' := fun hc => h (hc ▸ List.mem_cons_self)
    rw [List.cons_append, piecesFrom, ih fun hmem => h (List.mem_cons_of_mem c hmem)]
    · rfl
    · intro rest' hdollar
      exact absurd hdollar hc

/-- A text without a dollar sign is no more than its characters. -/
theorem scans_plain {text : String} (h : '$' ∉ text.toList) : Scans text.toList (plain text) :=
  scans_chars h

/-- Inside an expression, all up to the next closing brace is code. -/
theorem piecesFrom_code {code : List Char} (h : '\x7d' ∉ code) (read rest : List Char) :
    piecesFrom (some read) (code ++ '\x7d' :: rest) =
      .expression (read.reverse ++ code) :: piecesFrom none rest := by
  induction code generalizing read with
  | nil => rw [List.nil_append, piecesFrom, if_pos rfl, List.append_nil]
  | cons c code ih =>
    have hc : c ≠ '\x7d' := fun hc => h (hc ▸ List.mem_cons_self)
    rw [List.cons_append, piecesFrom, if_neg hc, ih fun hmem => h (List.mem_cons_of_mem c hmem),
      List.reverse_cons, List.append_assoc, List.singleton_append]

/-- An expression ends at the first closing brace. -/
theorem scans_expression {code : List Char} (h : '\x7d' ∉ code) :
    Scans ('$' :: '\x7b' :: code ++ ['\x7d']) [.expression code] := by
  intro rest
  rw [List.append_assoc, List.cons_append, List.cons_append, piecesFrom, List.singleton_append,
    piecesFrom_code h]
  rfl

/-! ## Paths that are read -/

/-- Characters of paths into objects that may be missing. -/
def pathChar (c : Char) : Bool := Sdl.continuesName c || c = '.' || c = '?'

/-- The path below the object that holds what the user filled in, if the word is one. -/
def inputPath? (word : List Char) : Option (List String) :=
  (dropStart? (inputData ++ ".").toList (word.filter (· ≠ '?'))).map fun path =>
    (Text.pieces (· = '.') path).map String.ofList

/-- The paths that an expression reads. -/
def pathsOfCode (code : List Char) : List (List String) :=
  (Text.pieces (fun c => !pathChar c) code).filterMap inputPath?

/-- The paths that a piece reads. -/
def pathsOfPiece : TemplatePiece → List (List String)
  | .char _ => []
  | .expression code => pathsOfCode code

/-- The paths that a template text reads from what the user filled in, in order. -/
def inputPaths (text : String) : List (List String) := (pieces text.toList).flatMap pathsOfPiece

/-- Characters read nothing. -/
@[simp]
theorem flatMap_plain (text : String) : (plain text).flatMap pathsOfPiece = [] := by
  simp [plain, pathsOfPiece]

end Template

/-! ## Pieces of texts -/

namespace Text

/-- What no divider stands in goes to the piece that is being read. -/
theorem piecesFrom_append {divides : Char → Bool} {text : List Char}
    (h : ∀ c ∈ text, divides c = false) (read rest : List Char) :
    piecesFrom divides read (text ++ rest) = piecesFrom divides (text.reverse ++ read) rest := by
  induction text generalizing read with
  | nil => rfl
  | cons c text ih =>
    have hc : ¬ divides c := by simp [h c List.mem_cons_self]
    rw [List.cons_append, piecesFrom, if_neg hc, ih fun d hd => h d (List.mem_cons_of_mem c hd),
      List.reverse_cons, List.append_assoc, List.singleton_append]

/-- A text without dividers is one piece. -/
theorem pieces_of_forall {divides : Char → Bool} {text : List Char}
    (h : ∀ c ∈ text, divides c = false) : pieces divides text = [text] := by
  have hpieces := piecesFrom_append h [] []
  rw [List.append_nil, List.append_nil] at hpieces
  rw [pieces, hpieces, piecesFrom, List.reverse_reverse]

/-- A piece ends at the first divider. -/
theorem pieces_append_cons {divides : Char → Bool} {text : List Char}
    (h : ∀ c ∈ text, divides c = false) {c : Char} (hc : divides c) (rest : List Char) :
    pieces divides (text ++ c :: rest) = text :: pieces divides rest := by
  rw [pieces, piecesFrom_append h, piecesFrom, if_pos hc, List.append_nil, List.reverse_reverse]
  rfl

end Text

end ActionForge
