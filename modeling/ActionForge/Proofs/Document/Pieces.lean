import Mathlib.Data.Bool.AllAny
import ActionForge.Proofs.Document.Arguments

/-!
# Documents as templates

The text of an operation is a template. `Operation.pieces` writes the operation as pieces instead of
characters, and `pieces_text` says that these are the pieces of its text, for operations made of names.
Each placeholder is one expression, which reads one path.
-/

namespace ActionForge

open Template

/-! ## Placeholders -/

/-- Whether the placeholder stands in quotes. -/
def Placeholder.inQuotes (p : Placeholder) : Bool := p.quoted && !p.list

/-- The expression of the placeholder. -/
def Placeholder.code (p : Placeholder) : String :=
  if p.list then "JSON.stringify(" ++ (p.path ++ if p.required then ")" else " ?? null)")
  else p.path ++ if p.required then "" else if p.quoted then " ?? ''" else " ?? null"

/-- The pieces of the placeholder. -/
def Placeholder.pieces (p : Placeholder) : List TemplatePiece :=
  if p.inQuotes then [.char '"', .expression p.code.toList, .char '"']
  else [.expression p.code.toList]

/-- A placeholder is its expression in braces after a dollar sign, in quotes where they are asked for. -/
theorem Placeholder.toList_text (p : Placeholder) :
    p.text.toList =
      if p.inQuotes then ['"'] ++ ('$' :: '\x7b' :: p.code.toList ++ ['\x7d']) ++ ['"']
      else '$' :: '\x7b' :: p.code.toList ++ ['\x7d'] := by
  unfold Placeholder.text Placeholder.inQuotes Placeholder.code
  cases p.list <;> cases p.required <;> cases p.quoted <;> simp

/-- A path goes through the parents, each of which may be missing, to the key. -/
theorem Placeholder.toList_path (p : Placeholder) :
    p.path.toList = inputData.toList ++
      (p.parents.flatMap fun parent => '.' :: parent.toList ++ ['?']) ++
      '.' :: p.key.toList := by
  simp [Placeholder.path, List.flatMap_map]

/-- The characters of names may stand in a path. -/
theorem pathChar_of_mem {name : String} (h : isName name) {c : Char} (hc : c ∈ name.toList) :
    pathChar c := by
  rw [pathChar, continuesName_of_mem h hc]
  rfl

/-- All characters of a path of names may stand in a path. -/
theorem Placeholder.pathChar_of_mem_path {p : Placeholder} (h : p.WellNamed) {c : Char}
    (hc : c ∈ p.path.toList) : pathChar c := by
  have hdata : ∀ d ∈ inputData.toList, pathChar d := List.all_iff_forall_prop.1 (by decide)
  rw [toList_path, List.mem_append, List.mem_append, List.mem_flatMap] at hc
  -- The character is one of the data, of a parent with its marks, or of the key.
  rcases hc with (hc | ⟨parent, hparent, hc⟩) | hc
  · exact hdata c hc
  · simp only [List.cons_append, List.mem_cons, List.mem_append, List.not_mem_nil, or_false] at hc
    rcases hc with rfl | hc | rfl
    · rfl
    · exact pathChar_of_mem (h.1 parent hparent) hc
    · rfl
  · rcases List.mem_cons.1 hc with rfl | hc
    · rfl
    · exact pathChar_of_mem h.2 hc

/-- Without the marks for objects that may be missing, a path is its names after points. -/
theorem Placeholder.filter_path {p : Placeholder} (h : p.WellNamed) :
    p.path.toList.filter (· ≠ '?') =
      inputData.toList ++ (p.parents ++ [p.key]).flatMap fun name => '.' :: name.toList := by
  have hname : ∀ name, isName name → name.toList.filter (· ≠ '?') = name.toList := by
    intro name hname
    refine List.filter_eq_self.2 fun c hc => decide_eq_true fun hmark => ?_
    exact notMem_of_isName hname (by decide) (hmark ▸ hc)
  have hdata : inputData.toList.filter (· ≠ '?') = inputData.toList := by decide
  have hparents : (p.parents.flatMap fun parent => '.' :: parent.toList ++ ['?']).filter (· ≠ '?') =
      p.parents.flatMap fun parent => '.' :: parent.toList := by
    rw [List.filter_flatMap]
    refine List.flatMap_congr fun parent hparent => ?_
    simpa using hname parent (h.1 parent hparent)
  rw [toList_path, List.filter_append, List.filter_append, hdata, hparents, List.flatMap_append,
    List.append_assoc]
  simpa using hname p.key h.2

/-- Names after points fall into those names when the points are taken out. -/
theorem pieces_names {name : String} (hname : isName name) {names : List String}
    (h : ∀ other ∈ names, isName other) :
    Text.pieces (· = '.') (name.toList ++ names.flatMap fun name => '.' :: name.toList) =
      (name :: names).map String.toList := by
  induction names generalizing name with
  | nil =>
    rw [List.flatMap_nil, List.append_nil, Text.pieces_of_forall (forall_ne_point (point_notMem hname))]
    rfl
  | cons other rest ih =>
    rw [List.flatMap_cons, List.cons_append,
      Text.pieces_append_cons (forall_ne_point (point_notMem hname)) rfl,
      ih (h other List.mem_cons_self) fun name hmem => h name (List.mem_cons_of_mem other hmem)]
    rfl

/-- The path of a placeholder is read as its parents and its key. -/
theorem Placeholder.inputPath?_path {p : Placeholder} (h : p.WellNamed) :
    inputPath? p.path.toList = some (p.parents ++ [p.key]) := by
  obtain ⟨name, names, hnames⟩ : ∃ name names, p.parents ++ [p.key] = name :: names := by
    cases p.parents with
    | nil => exact ⟨_, _, rfl⟩
    | cons name names => exact ⟨_, _, rfl⟩
  have hall : ∀ other ∈ name :: names, isName other := by
    intro other hother
    rw [← hnames, List.mem_append, List.mem_singleton] at hother
    rcases hother with hother | rfl
    · exact h.1 other hother
    · exact h.2
  -- The word for the data and its point is dropped, and the names are left.
  have hword : inputData.toList ++ (name :: names).flatMap (fun name => '.' :: name.toList) =
      (inputData ++ ".").toList ++
        (name.toList ++ names.flatMap fun name => '.' :: name.toList) := by
    simp
  rw [inputPath?, filter_path h, hnames, hword, dropStart?_append, Option.map_some,
    pieces_names (hall name List.mem_cons_self) fun other hother =>
      hall other (List.mem_cons_of_mem name hother)]
  simp [Function.comp_def]

/-! ## Expressions -/

/-- A word ends at the first character that no path holds. -/
theorem pathsOfCode_append_cons {word : List Char} (h : ∀ c ∈ word, pathChar c) {c : Char}
    (hc : pathChar c = false) (rest : List Char) :
    pathsOfCode (word ++ c :: rest) = (inputPath? word).toList ++ pathsOfCode rest := by
  rw [pathsOfCode, Text.pieces_append_cons (fun d hd => by simp [h d hd]) (by simp [hc]),
    List.filterMap_cons]
  cases inputPath? word <;> rfl

/-- A word without other characters is read as the one path that it is. -/
theorem pathsOfCode_word {word : List Char} (h : ∀ c ∈ word, pathChar c) :
    pathsOfCode word = (inputPath? word).toList := by
  rw [pathsOfCode, Text.pieces_of_forall (fun d hd => by simp [h d hd]), List.filterMap_cons]
  cases inputPath? word <;> rfl

/-- A placeholder reads its path and nothing else. -/
theorem Placeholder.pathsOfCode_code {p : Placeholder} (h : p.WellNamed) :
    pathsOfCode p.code.toList = [p.parents ++ [p.key]] := by
  have hpath : ∀ {c : Char} {rest : List Char}, pathChar c = false → pathsOfCode rest = [] →
      pathsOfCode (p.path.toList ++ c :: rest) = [p.parents ++ [p.key]] := by
    intro c rest hc hrest
    rw [pathsOfCode_append_cons (fun d hd => pathChar_of_mem_path h hd) hc, hrest,
      inputPath?_path h]
    rfl
  -- The function that makes a list into text is a word of its own, and no path.
  have hjson : ∀ rest, pathsOfCode ("JSON.stringify(".toList ++ rest) = pathsOfCode rest := by
    intro rest
    have hword : ∀ c ∈ "JSON.stringify".toList, pathChar c :=
      List.all_iff_forall_prop.1 (by decide)
    have hcall : "JSON.stringify(".toList = "JSON.stringify".toList ++ ['('] := by decide
    rw [hcall, List.append_assoc]
    exact pathsOfCode_append_cons hword (by decide) rest
  unfold code
  -- What comes after the path starts with a character that no path holds, and reads nothing.
  cases p.list with
  | true =>
    simp only [if_true, String.toList_append, hjson]
    cases p.required with
    | true => exact hpath (by decide) (by decide)
    | false => exact hpath (by decide) (by decide)
  | false =>
    simp only [Bool.false_eq_true, if_false, String.toList_append]
    cases p.required with
    | true =>
      have hword := pathsOfCode_word fun d hd => pathChar_of_mem_path h hd
      rw [inputPath?_path h] at hword
      simpa using hword
    | false =>
      cases p.quoted with
      | true => exact hpath (by decide) (by decide)
      | false => exact hpath (by decide) (by decide)

/-- The expression of a placeholder has no brace that would end it too early. -/
theorem Placeholder.notMem_code {p : Placeholder} (h : p.WellNamed) : '\x7d' ∉ p.code.toList := by
  have hpath : '\x7d' ∉ p.path.toList := fun hmem =>
    absurd (pathChar_of_mem_path h hmem) (by decide)
  unfold code
  cases p.list <;> cases p.required <;> cases p.quoted <;> simp [hpath]

/-- A placeholder is scanned into its pieces. -/
theorem Placeholder.scans_text {p : Placeholder} (h : p.WellNamed) : Scans p.text.toList p.pieces := by
  have hcode := scans_expression (notMem_code h)
  have hquote : Scans ['"'] [.char '"'] := scans_chars (by decide)
  rw [toList_text, pieces]
  split
  · exact (hquote.append hcode).append hquote
  · exact hcode

/-- The pieces of a placeholder read its path. -/
theorem Placeholder.flatMap_pieces {p : Placeholder} (h : p.WellNamed) :
    p.pieces.flatMap pathsOfPiece = [p.parents ++ [p.key]] := by
  rw [pieces]
  split <;> simp [pathsOfPiece, pathsOfCode_code h]

/-! ## Arguments -/

mutual

/-- The pieces of an argument's lines. -/
def Argument.pieces (level : Nat) : Argument → List TemplatePiece
  | .value name placeholder =>
    plain (indentation level ++ name ++ ": ") ++ placeholder.pieces ++ plain "\n"
  | .object name members =>
    plain (indentation level ++ name ++ ": \x7b\n") ++ argumentPieces (level + 1) members ++
      plain (indentation level ++ "\x7d\n")

/-- The pieces of the lines of arguments. -/
def argumentPieces (level : Nat) : List Argument → List TemplatePiece
  | [] => []
  | argument :: rest => argument.pieces level ++ argumentPieces level rest

end

/-- Indentation opens no placeholder. -/
theorem notMem_indentation (level : Nat) : '$' ∉ (indentation level).toList := by
  simp [indentation]

/-- A name opens no placeholder. -/
theorem dollar_notMem_of_isName {name : String} (h : isName name) : '$' ∉ name.toList :=
  notMem_of_isName h (by decide)

mutual

/-- The lines of an argument are scanned into its pieces. -/
theorem Argument.scans_text (level : Nat) : ∀ {argument : Argument}, argument.WellNamed →
    Scans (argument.text level).toList (argument.pieces level)
  | .value name placeholder, ⟨hname, hplaceholder⟩ => by
    have hline : '$' ∉ (indentation level ++ name ++ ": ").toList := by
      simp [notMem_indentation level, dollar_notMem_of_isName hname]
    have hend : '$' ∉ ("\n" : String).toList := by decide
    rw [Argument.text, Argument.pieces, String.toList_append, String.toList_append]
    exact ((scans_plain hline).append (Placeholder.scans_text hplaceholder)).append
      (scans_plain hend)
  | .object name members, ⟨hname, hmembers⟩ => by
    have hline : '$' ∉ (indentation level ++ name ++ ": \x7b\n").toList := by
      simp [notMem_indentation level, dollar_notMem_of_isName hname]
    have hend : '$' ∉ (indentation level ++ "\x7d\n").toList := by
      simp [notMem_indentation level]
    rw [Argument.text, Argument.pieces, String.append_assoc, String.toList_append,
      String.toList_append]
    exact ((scans_plain hline).append (scans_argumentsText (level + 1) hmembers)).append
      (scans_plain hend)

/-- The lines of arguments are scanned into theirs. -/
theorem scans_argumentsText (level : Nat) : ∀ {arguments : List Argument}, AllWellNamed arguments →
    Scans (argumentsText level arguments).toList (argumentPieces level arguments)
  | [], _ => Scans.nil
  | argument :: rest, ⟨hargument, hrest⟩ => by
    rw [argumentsText, argumentPieces, String.toList_append]
    exact (Argument.scans_text level hargument).append (scans_argumentsText level hrest)

end

mutual

/-- The pieces of an argument read the paths of the argument. -/
theorem Argument.flatMap_pieces (level : Nat) : ∀ {argument : Argument}, argument.WellNamed →
    (argument.pieces level).flatMap pathsOfPiece = argument.paths
  | .value name placeholder, ⟨_, hplaceholder⟩ => by
    rw [Argument.pieces, Argument.paths, List.flatMap_append, List.flatMap_append, flatMap_plain,
      flatMap_plain, Placeholder.flatMap_pieces hplaceholder]
    rfl
  | .object name members, ⟨_, hmembers⟩ => by
    rw [Argument.pieces, Argument.paths, List.flatMap_append, List.flatMap_append, flatMap_plain,
      flatMap_plain, flatMap_argumentPieces (level + 1) hmembers, List.nil_append, List.append_nil]

/-- The pieces of arguments read the paths of the arguments. -/
theorem flatMap_argumentPieces (level : Nat) : ∀ {arguments : List Argument},
    AllWellNamed arguments → (argumentPieces level arguments).flatMap pathsOfPiece =
      argumentPaths arguments
  | [], _ => rfl
  | argument :: rest, ⟨hargument, hrest⟩ => by
    rw [argumentPieces, argumentPaths, List.flatMap_append, Argument.flatMap_pieces level hargument,
      flatMap_argumentPieces level hrest]

end

/-! ## Operations -/

/-- The names that are selected. -/
def Selection.names : Selection → List String
  | .scalar => []
  | .fields names => names

namespace Operation

/-- The operation is made of names. -/
structure WellNamed (operation : Operation) : Prop where
  name : isName operation.name
  arguments : AllWellNamed operation.arguments
  selection : ∀ name ∈ operation.selection.names, isName name

/-- The first line of an operation, without its end. -/
def heading (operation : Operation) : String :=
  operation.kind.name ++ " " ++ Text.upperCamelCase operation.name ++ " \x7b"

/-- The pieces of the argument list. -/
def argumentListPieces (operation : Operation) : List TemplatePiece :=
  if operation.arguments.isEmpty then []
  else plain "(\n" ++ argumentPieces 2 operation.arguments ++ plain (indentation 1 ++ ")")

/-- The pieces of an operation after its first line. -/
def bodyPieces (operation : Operation) : List TemplatePiece :=
  plain (indentation 1 ++ operation.name) ++ operation.argumentListPieces ++
    plain (operation.selection.text ++ "\x7d")

/-- The text of an operation after its first line. -/
def body (operation : Operation) : String :=
  indentation 1 ++ operation.name ++ operation.argumentList ++ operation.selection.text ++ "\x7d"

/-- An operation is its heading and, on the lines below, its body. -/
theorem text_eq (operation : Operation) :
    operation.text = operation.heading ++ "\n" ++ operation.body := by
  have hline : (" \x7b\n" : String) = " \x7b" ++ "\n" := rfl
  simp only [text, heading, body, hline, String.append_assoc]

/-- What is selected opens no placeholder. -/
theorem notMem_selection {selection : Selection} (h : ∀ name ∈ selection.names, isName name) :
    '$' ∉ selection.text.toList := by
  have hlines : ∀ names : List String, (∀ name ∈ names, isName name) →
      '$' ∉ (nameLines 2 names).toList := by
    intro names hnames hmem
    rw [nameLines, String.toList_join, List.mem_flatMap] at hmem
    obtain ⟨line, hline, hmem⟩ := hmem
    obtain ⟨name, hname, rfl⟩ := List.mem_map.1 hline
    simp [notMem_indentation 2, dollar_notMem_of_isName (hnames name hname)] at hmem
  cases selection with
  | scalar => decide
  | fields names =>
    cases names with
    | nil => decide
    | cons name rest =>
      rw [Selection.text]
      · simp [notMem_indentation 1, hlines (name :: rest) h]
      · exact fun hnil => by cases hnil

/-- The argument list is scanned into its pieces, and there are none where it is empty. -/
theorem scans_argumentList {operation : Operation} (h : operation.WellNamed) :
    Scans operation.argumentList.toList operation.argumentListPieces := by
  have hstart : '$' ∉ ("(\n" : String).toList := by decide
  have hend : '$' ∉ (indentation 1 ++ ")").toList := by decide
  unfold argumentList argumentListPieces
  split
  · exact Scans.nil
  · rw [String.append_assoc, String.append_assoc, String.toList_append, String.toList_append,
      ← List.append_assoc]
    exact ((scans_plain hstart).append (scans_argumentsText 2 h.arguments)).append (scans_plain hend)

/-- The body is scanned into its pieces. -/
theorem scans_body {operation : Operation} (h : operation.WellNamed) :
    Scans operation.body.toList operation.bodyPieces := by
  have hname : '$' ∉ (indentation 1 ++ operation.name).toList := by
    simp [notMem_indentation 1, dollar_notMem_of_isName h.name]
  have hend : '$' ∉ (operation.selection.text ++ "\x7d").toList := by
    simp [notMem_selection h.selection]
  rw [body, bodyPieces, String.append_assoc, String.toList_append, String.toList_append]
  exact ((scans_plain hname).append (scans_argumentList h)).append (scans_plain hend)

/-- A heading holds only characters of names, blanks and a brace. -/
theorem notMem_heading {operation : Operation} (h : operation.WellNamed) {c : Char}
    (hc : Sdl.continuesName c = false) (hother : c ∉ (" \x7b" : String).toList) :
    c ∉ operation.heading.toList := by
  have hkind : c ∉ operation.kind.name.toList := by
    intro hmem
    have hname : ∀ kind : OperationKind, isName kind.name := by
      intro kind
      cases kind <;> decide
    exact notMem_of_isName (hname operation.kind) hc hmem
  -- The camel case of a name is made of characters of names.
  have hcamel : c ∉ (Text.upperCamelCase operation.name).toList := by
    intro hmem
    rw [Text.continuesName_of_mem_upperCamelCase h.name hmem] at hc
    cases hc
  simp only [heading, String.toList_append, List.mem_append, not_or]
  refine ⟨⟨⟨hkind, fun hmem => hother ?_⟩, hcamel⟩, hother⟩
  exact List.mem_cons.2 (.inl (List.mem_singleton.1 hmem))

/-- The pieces of an operation's text are the characters of its first line and the pieces of the
rest. -/
theorem pieces_text {operation : Operation} (h : operation.WellNamed) :
    Template.pieces operation.text.toList =
      plain (operation.heading ++ "\n") ++ operation.bodyPieces := by
  have hheading : '$' ∉ (operation.heading ++ "\n").toList := by
    rw [String.toList_append, List.mem_append, not_or]
    exact ⟨notMem_heading h (by decide) (by decide), by decide⟩
  rw [text_eq, String.toList_append]
  exact ((scans_plain hheading).append (scans_body h)).pieces_eq

/-- An operation reads the paths of its arguments. -/
theorem inputPaths_text {operation : Operation} (h : operation.WellNamed) :
    inputPaths operation.text = argumentPaths operation.arguments := by
  rw [inputPaths, pieces_text h, bodyPieces, List.flatMap_append, List.flatMap_append,
    List.flatMap_append, flatMap_plain, flatMap_plain, flatMap_plain, List.nil_append,
    List.nil_append, List.append_nil, argumentListPieces]
  split
  · rename_i hempty
    rw [List.isEmpty_iff.1 hempty]
    rfl
  · rw [List.flatMap_append, List.flatMap_append, flatMap_plain, flatMap_plain,
      flatMap_argumentPieces 2 h.arguments, List.nil_append, List.append_nil]

end Operation

/-! ## Generated operations -/

namespace Context

variable (context : Context)

/-- The arguments of a generated operation are those of the items of the form. -/
theorem arguments_operationOf (hnames : context.schema.WellNamed) {kind : OperationKind}
    {operation : String} {root : FieldDef}
    (h : context.schema.operation? kind operation = some root) :
    (context.operationOf kind operation root).arguments =
      (context.formItems root.arguments).map
        (FormItem.argument (FormItem.isLone (context.formItems root.arguments))) :=
  argumentsOf_field fun _ hitem =>
    context.wellNamed_formItems hnames (Schema.isName_of_operation? hnames h).2 hitem

/-- The slots that the document selects are members of the result. -/
theorem isName_of_mem_resultSlots (hnames : context.schema.WellNamed) {result : TypeRef}
    {slot : ValueSlot} (h : slot ∈ context.resultSlots result .document) : isName slot.name := by
  obtain ⟨⟨key, member⟩, hentry, hslot⟩ := List.mem_filterMap.1 (mem_arrange.1 h)
  obtain ⟨hmember, rfl⟩ := Schema.mem_membersOf_of_mem_memberTable hentry
  rw [ValueSlot.name_of_ofDetails? hslot]
  exact Schema.isName_of_mem_membersOf hnames hmember

/-- In a well-named schema generated operations are made of names. -/
theorem wellNamed_operationOf (hnames : context.schema.WellNamed) {kind : OperationKind}
    {operation : String} {root : FieldDef}
    (h : context.schema.operation? kind operation = some root) :
    (context.operationOf kind operation root).WellNamed := by
  obtain ⟨hroot, harguments⟩ := Schema.isName_of_operation? hnames h
  refine ⟨Schema.name_of_operation? h ▸ hroot, ?_, ?_⟩
  · rw [context.arguments_operationOf hnames h]
    refine allWellNamed_iff.2 fun argument hargument => ?_
    obtain ⟨item, hitem, rfl⟩ := List.mem_map.1 hargument
    exact FormItem.wellNamed_argument (context.wellNamed_formItems hnames harguments hitem) _
  · intro name hname
    simp only [operationOf, Operation.ofForm, selectionOf] at hname
    split at hname
    · cases hname
    all_goals
      rw [Selection.ofFields, Selection.names, List.map_map] at hname
      obtain ⟨slot, hslot, rfl⟩ := List.mem_map.1 hname
      exact context.isName_of_mem_resultSlots hnames hslot

/-- An action comes from a root field of the schema. -/
theorem exists_root_of_generate {kind : ActionKind} {operation : String} {action : Action}
    (h : context.generate kind operation = .ok action) :
    ∃ root, context.schema.operation? kind.operationKind operation = some root ∧
      context.actionOf kind operation root = action := by
  obtain ⟨root, hroot, -, haction⟩ := (context.generate_eq_ok_iff kind operation action).1 h
  exact ⟨root, ((context.rootFor_eq_ok_iff kind operation root).1 hroot).1, haction⟩

end Context

end ActionForge
