import ActionForge.Proofs.Document.Pieces
import ActionForge.Proofs.Query.Reading
import ActionForge.Proofs.Sdl.Lexing

/-!
# Documents as selections

With a digit in place of every placeholder, the text of an operation after its first line is a field of
the query language and a closing brace. `Operation.node` is that field, and `parses_body` says that
the text is read as it: quotes and brackets balance, and names stay apart.
-/

namespace ActionForge

open Sdl (Lexes nestingLimit)
open Template (plain)

/-! ## Filling in digits -/

/-- A piece as a character, with a digit for an expression. -/
def TemplatePiece.fill (digit : Char) : TemplatePiece → Char
  | .char c => c
  | .expression _ => digit

/-- A template text with a digit in place of every expression. -/
def Template.fill (digit : Char) (text : List Char) : List Char :=
  (pieces text).map (TemplatePiece.fill digit)

/-- Filling in digits does not change plain text. -/
@[simp]
theorem map_fill_plain (digit : Char) (text : String) :
    (plain text).map (TemplatePiece.fill digit) = text.toList := by
  rw [plain, List.map_map]
  exact List.map_id _

/-- What follows the first line of a text. -/
def afterFirstLine (text : String) : List Char := (text.toList.dropWhile (· ≠ '\n')).drop 1

/-! ## Operations as trees -/

/-- The value that a placeholder becomes. -/
def Placeholder.asValue (digit : Char) (p : Placeholder) : Query.Value :=
  if p.inQuotes then .text [digit] else .integer [digit]

/-- The name of an argument. -/
def Argument.name : Argument → String
  | .value name _ | .object name _ => name

mutual

/-- The value of an argument. -/
def Argument.asValue (digit : Char) : Argument → Query.Value
  | .value _ placeholder => placeholder.asValue digit
  | .object _ members => .object (argumentMembers digit members)

/-- Arguments as named values. -/
def argumentMembers (digit : Char) : List Argument → Query.Arguments
  | [] => []
  | argument :: rest => (argument.name, argument.asValue digit) :: argumentMembers digit rest

end

mutual

/-- How many objects an argument nests. -/
def Argument.depth : Argument → Nat
  | .value _ _ => 0
  | .object _ members => argumentsDepth members + 1

/-- How many objects arguments nest. -/
def argumentsDepth : List Argument → Nat
  | [] => 0
  | argument :: rest => max argument.depth (argumentsDepth rest)

end

/-- The selection of a field without arguments and members. -/
def Query.Node.leaf (name : String) : Query.Node := ⟨.field none name [], [], []⟩

/-- The selections below the root field. -/
def Selection.nodes : Selection → List Query.Node
  | .scalar => []
  | .fields [] => [.leaf "__typename"]
  | .fields names => names.map .leaf

/-- The operation as a selection of its root field. -/
def Operation.node (digit : Char) (operation : Operation) : Query.Node :=
  ⟨.field none operation.name (argumentMembers digit operation.arguments), [],
    operation.selection.nodes⟩

/-! ## Trees are well-formed -/

mutual

/-- The value of an argument can be written down. -/
theorem Argument.wellFormed_asValue (digit : Char) : ∀ argument : Argument,
    (argument.asValue digit).WellFormed
  | .value _ placeholder => by
    rw [Argument.asValue, Placeholder.asValue]
    split <;> trivial
  | .object _ members => wellFormed_argumentMembers digit members

/-- The values of arguments can be written down, however many there are. -/
theorem wellFormed_argumentMembers (digit : Char) : ∀ arguments : List Argument,
    Query.MembersWellFormed (argumentMembers digit arguments)
  | [] => trivial
  | argument :: rest => ⟨argument.wellFormed_asValue digit, wellFormed_argumentMembers digit rest⟩

end

/-- Leaves have no arguments or directives that could be at fault. -/
theorem wellFormed_leaves (names : List String) :
    Query.NodesWellFormed (names.map Query.Node.leaf) := by
  induction names with
  | nil => trivial
  | cons name rest ih => exact ⟨⟨rfl, trivial, by simp, trivial⟩, ih⟩

/-- A selection is well-formed, with or without fields. -/
theorem Selection.wellFormed_nodes (selection : Selection) :
    Query.NodesWellFormed selection.nodes := by
  match selection with
  | .scalar => trivial
  | .fields [] => exact wellFormed_leaves ["__typename"]
  | .fields (name :: rest) => exact wellFormed_leaves (name :: rest)

/-- The field of an operation is well-formed. -/
theorem Operation.wellFormed_node (digit : Char) (operation : Operation) :
    (operation.node digit).WellFormed :=
  ⟨rfl, wellFormed_argumentMembers digit operation.arguments, by simp,
    operation.selection.wellFormed_nodes⟩

/-! ## Tokens of arguments -/

section Lexing

variable {room : Nat} {text : List Char} {tokens : List Sdl.Token} {digit : Char}

/-- Indentation is made of blanks, two for each level. -/
theorem toList_indentation (level : Nat) :
    (indentation level).toList = List.replicate (2 * level) ' ' := String.toList_ofList

/-- A placeholder stands at the end of its line. -/
theorem Placeholder.lexes (hdigit : digit.isDigit) (p : Placeholder) (h : Lexes room text tokens) :
    Lexes room (p.pieces.map (TemplatePiece.fill digit) ++ '\n' :: text)
      ((p.asValue digit).tokens ++ tokens) := by
  have hline : Lexes room ('\n' :: text) tokens := h.blank (.inr rfl)
  rw [Placeholder.pieces, Placeholder.asValue]
  split
  · exact hline.quotedDigit hdigit
  · exact hline.digit (by decide) hdigit

/-- An indented name with a colon after it. -/
theorem lexes_label {name : String} (hname : isName name) (level : Nat) {rest : List Char}
    (h : Lexes room rest tokens) :
    Lexes room ((indentation level ++ name).toList ++ ':' :: ' ' :: rest)
      (.name name :: .punctuation ':' :: tokens) := by
  have hcolon : Lexes room (':' :: ' ' :: rest) (.punctuation ':' :: tokens) :=
    (h.blank (.inl rfl)).mark (by decide) rfl
  rw [String.toList_append, toList_indentation, List.append_assoc]
  exact (hcolon.name (by decide) hname).blanks (2 * level)

mutual

/-- The lines of an argument fall into its name, a colon and the tokens of its value, in a room that holds its
objects. -/
theorem Argument.lexes (hdigit : digit.isDigit) : ∀ {argument : Argument} (level room : Nat)
    {text : List Char} {tokens : List Sdl.Token}, argument.WellNamed → argument.depth ≤ room →
    Lexes room text tokens →
      Lexes room ((argument.pieces level).map (TemplatePiece.fill digit) ++ text)
        (.name argument.name :: .punctuation ':' :: ((argument.asValue digit).tokens ++ tokens))
  | .value name placeholder, level, room, text, tokens, ⟨hname, _⟩, _, h => by
    have hlabel := lexes_label hname level (placeholder.lexes hdigit h)
    simpa [Argument.pieces, Argument.name, Argument.asValue] using hlabel
  | .object name members, level, room, text, tokens, ⟨hname, hmembers⟩, hdepth, h => by
    rw [Argument.depth] at hdepth
    -- Tokens are put in front of each other, from the closing brace back to the name.
    have hclose : Lexes (room - 1) ('\x7d' :: '\n' :: text) (.punctuation '\x7d' :: tokens) := by
      refine (h.blank (.inr rfl)).mark (by decide) ?_
      simp [Sdl.roomAfter]
      omega
    have hmembers := lexes_argumentPieces hdigit (level + 1) (room - 1) hmembers (by omega)
      (hclose.blanks (2 * level))
    have hroom : Sdl.roomAfter room (.punctuation '\x7b') = some (room - 1) := by
      simp [Sdl.roomAfter]
      omega
    have hopen := (hmembers.blank (.inr rfl)).mark (by decide) hroom
    have hlabel := lexes_label hname level hopen
    simpa [Argument.pieces, Argument.name, Argument.asValue, Query.Value.tokens,
      toList_indentation] using hlabel

/-- The lines of arguments fall into the tokens of the arguments. -/
theorem lexes_argumentPieces (hdigit : digit.isDigit) : ∀ {arguments : List Argument}
    (level room : Nat) {text : List Char} {tokens : List Sdl.Token}, AllWellNamed arguments →
    argumentsDepth arguments ≤ room → Lexes room text tokens →
      Lexes room ((argumentPieces level arguments).map (TemplatePiece.fill digit) ++ text)
        (Query.membersTokens (argumentMembers digit arguments) ++ tokens)
  | [], _, _, _, _, _, _, h => h
  | argument :: rest, level, room, text, tokens, ⟨hargument, hrest⟩, hdepth, h => by
    rw [argumentsDepth] at hdepth
    have hrest := lexes_argumentPieces hdigit level room hrest (by omega) h
    have hargument := Argument.lexes hdigit level room hargument (by omega) hrest
    simpa [argumentPieces, argumentMembers, Query.membersTokens] using hargument

end

/-! ## Tokens of operations -/

/-- Names on lines of their own fall into the tokens of leaves. -/
theorem lexes_nameLines (level : Nat) {names : List String} (hnames : ∀ name ∈ names, isName name)
    (h : Lexes room text tokens) :
    Lexes room ((nameLines level names).toList ++ text)
      (Query.nodesTokens (names.map Query.Node.leaf) ++ tokens) := by
  induction names with
  | nil => exact h
  | cons name rest ih =>
    obtain ⟨hname, hrest⟩ := List.forall_mem_cons.1 hnames
    have hline := ((ih hrest).blank (.inr rfl)).name (by decide) hname
    simpa [nameLines, Query.nodesTokens, Query.Node.tokens_eq, Query.Node.leaf, Query.Head.tokens,
      Query.argumentsTokens, Query.directivesTokens, Query.setTokens, toList_indentation]
      using hline.blanks (2 * level)

/-- Names in braces on lines of their own. -/
theorem lexes_braced {name : String} {names : List String}
    (hnames : ∀ other ∈ name :: names, isName other) (h : Lexes room text tokens) (hroom : 0 < room) :
    Lexes room ((" \x7b\n" ++ nameLines 2 (name :: names) ++ indentation 1 ++ "\x7d\n").toList ++ text)
      (Query.setTokens ((name :: names).map Query.Node.leaf) ++ tokens) := by
  -- Within the braces there is room for one object less.
  have hcloses : Sdl.roomAfter (room - 1) (.punctuation '\x7d') = some room := by
    simp [Sdl.roomAfter]
    omega
  have hopens : Sdl.roomAfter room (.punctuation '\x7b') = some (room - 1) := by
    simp [Sdl.roomAfter]
    omega
  have hclose := (h.blank (.inr rfl)).mark (by decide) hcloses
  have hlines := lexes_nameLines 2 hnames (hclose.blanks (2 * 1))
  have hopen := ((hlines.blank (.inr rfl)).mark (by decide) hopens).blank (.inl rfl)
  simpa [Query.setTokens, Query.nodesTokens, toList_indentation] using hopen

/-- A selection falls into the tokens of its nodes. -/
theorem Selection.lexes {selection : Selection} (hnames : ∀ name ∈ selection.names, isName name)
    (h : Lexes room text tokens) (hroom : 0 < room) :
    Lexes room (selection.text.toList ++ text) (Query.setTokens selection.nodes ++ tokens) := by
  match selection with
  | .scalar => exact h.blank (.inr rfl)
  | .fields [] =>
    have htypename : ∀ name ∈ ["__typename"], isName name := by decide
    exact lexes_braced htypename h hroom
  | .fields (name :: names) => exact lexes_braced hnames h hroom

/-- The argument list falls into its tokens in round brackets, or into none. -/
theorem Operation.lexes_argumentList (hdigit : digit.isDigit) {operation : Operation}
    (hnames : operation.WellNamed) (hdepth : argumentsDepth operation.arguments < room)
    (h : Lexes room text tokens) :
    Lexes room (operation.argumentListPieces.map (TemplatePiece.fill digit) ++ text)
      (Query.argumentsTokens (argumentMembers digit operation.arguments) ++ tokens) := by
  unfold Operation.argumentListPieces Query.argumentsTokens
  cases harguments : operation.arguments with
  | nil => exact h
  | cons argument rest =>
    have hcloses : Sdl.roomAfter (room - 1) (.punctuation ')') = some room := by
      simp [Sdl.roomAfter]
      omega
    have hopens : Sdl.roomAfter room (.punctuation '(') = some (room - 1) := by
      simp [Sdl.roomAfter]
      omega
    rw [harguments] at hdepth
    have hall : AllWellNamed (argument :: rest) := harguments ▸ hnames.arguments
    -- From the end: the bracket that closes, then the lines, then the bracket that opens.
    have hclose := (h.mark (by decide) hcloses).blanks (2 * 1)
    have hlines := lexes_argumentPieces hdigit 2 (room - 1) hall (by omega) hclose
    have hopen := (hlines.blank (.inr rfl)).mark (by decide) hopens
    simpa [argumentMembers, toList_indentation] using hopen

/-- The text after the first line falls into the tokens of the field and a closing brace. -/
theorem Operation.lexes_body (hdigit : digit.isDigit) {operation : Operation}
    (hnames : operation.WellNamed) (hdepth : argumentsDepth operation.arguments < nestingLimit) :
    Lexes nestingLimit (operation.bodyPieces.map (TemplatePiece.fill digit))
      ((operation.node digit).tokens ++ [.punctuation '\x7d', .done]) := by
  have hend : Lexes nestingLimit ['\x7d'] [.punctuation '\x7d', .done] :=
    (Sdl.lexes_nil (nestingLimit + 1)).mark (by decide) rfl
  have hselection := Selection.lexes hnames.selection hend (by decide)
  have harguments := Operation.lexes_argumentList hdigit hnames hdepth hselection
  -- The name of the operation ends where it should: nothing that follows it goes on with a name.
  obtain ⟨c, rest, hrest, hc⟩ : ∃ c rest,
      operation.argumentListPieces.map (TemplatePiece.fill digit) ++
        (operation.selection.text.toList ++ ['\x7d']) = c :: rest ∧ Sdl.continuesName c = false := by
    unfold Operation.argumentListPieces
    split
    · match operation.selection with
      | .scalar => exact ⟨'\n', _, rfl, by decide⟩
      | .fields [] => exact ⟨' ', _, by simp [Selection.text]; rfl, by decide⟩
      | .fields (name :: names) => exact ⟨' ', _, by simp [Selection.text]; rfl, by decide⟩
    · exact ⟨'(', _, by simp; rfl, by decide⟩
  rw [hrest] at harguments
  have hname := (harguments.name hc hnames.name).blanks (2 * 1)
  rw [← hrest] at hname
  simpa [Operation.bodyPieces, Operation.node, Query.Node.tokens_eq, Query.Head.tokens,
    Query.directivesTokens, toList_indentation] using hname

end Lexing

/-- The first line of an operation is its heading, so its body comes after it. -/
theorem Operation.afterFirstLine_text {operation : Operation} (h : operation.WellNamed) :
    afterFirstLine operation.text = operation.body.toList := by
  -- No line ends within the heading.
  have hheading : ∀ c ∈ operation.heading.toList, decide (c ≠ '\n') = true := by
    intro c hc
    refine decide_eq_true fun hline => ?_
    exact Operation.notMem_heading h (by decide) (by decide) (hline ▸ hc)
  have hline : ("\n" : String).toList = ['\n'] := rfl
  rw [afterFirstLine, Operation.text_eq, String.toList_append, String.toList_append, hline,
    List.append_assoc, List.dropWhile_append_of_pos hheading, List.singleton_append,
    List.dropWhile_cons_of_neg (by simp), List.drop_one, List.tail_cons]

/-- The text of an operation after its first line is parsed as its root field. -/
theorem Operation.parses_body {digit : Char} (hdigit : digit.isDigit) {operation : Operation}
    (hnames : operation.WellNamed) (hdepth : argumentsDepth operation.arguments < nestingLimit) :
    Query.Parses (String.ofList (Template.fill digit (afterFirstLine operation.text)))
      (operation.node digit) := by
  have hlexes : Lexes nestingLimit
      (String.ofList (operation.bodyPieces.map (TemplatePiece.fill digit))).toList
      ((operation.node digit).tokens ++ [.punctuation '\x7d', .done]) := by
    rw [String.toList_ofList]
    exact Operation.lexes_body hdigit hnames hdepth
  -- The lexer gives these tokens, and the reader takes the field from them.
  have hderived := hlexes.tokens_eq
  rw [Operation.afterFirstLine_text hnames, Template.fill, (Operation.scans_body hnames).pieces_eq]
  refine ⟨operation.wellFormed_node digit, hderived, ?_⟩
  rw [hderived]
  exact Query.readField_tokens (operation.wellFormed_node digit)

end ActionForge
