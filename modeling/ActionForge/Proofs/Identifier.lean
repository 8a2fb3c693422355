import ActionForge.Proofs.Name
import ActionForge.Script

/-!
# Identifiers of modules

The identifier that a module is bound to is the key in camel case with the kind of action after it
(`toList_moduleIdent`). It has the letters and digits of the key up to their case, and it ends as the kind
does, so actions of different kinds never share an identifier. Actions of one kind do where their keys
differ in underscores and capitals only in a way that camel case does not show (`moduleIdent_eq_iff`), and
an identifier is no name of a variable where a digit comes first in the key
(`isVariableName_moduleIdent_iff`).
-/

namespace ActionForge

open Sdl (continuesName)

namespace Text

/-- Camel case has no characters but those that names have, the first word in small letters or not. -/
theorem continuesName_of_mem_lowerCamelCase {name : String} (h : ∀ c ∈ name.toList, continuesName c)
    {c : Char} (hc : c ∈ (lowerCamelCase name).toList) : continuesName c := by
  have hwords : ∀ word ∈ words name.toList, ∀ d ∈ word, continuesName d :=
    fun word hword d hd => h d (mem_of_mem_words hword hd)
  rw [lowerCamelCase, String.toList_ofList] at hc
  cases hlist : words name.toList with
  | nil =>
    rw [hlist] at hc
    cases hc
  | cons first rest =>
    rw [hlist] at hc hwords
    rcases List.mem_append.1 hc with hc | hc
    · exact continuesName_of_mem_lowerWord (hwords first List.mem_cons_self) hc
    · obtain ⟨word, hword, hc⟩ := List.mem_flatMap.1 hc
      exact continuesName_of_mem_capitalWord (hwords word (List.mem_cons_of_mem first hword)) hc

/-- A divider ends a piece, whatever has been read of it. -/
theorem piecesFrom_append_divider {divides : Char → Bool} {c : Char} (hc : divides c)
    (read text rest : List Char) :
    piecesFrom divides read (text ++ c :: rest) =
      piecesFrom divides read text ++ pieces divides rest := by
  induction text generalizing read with
  | nil =>
    show piecesFrom divides read (c :: rest) = [read.reverse] ++ pieces divides rest
    simp only [piecesFrom, hc, if_true]
    rfl
  | cons d text ih =>
    rw [List.cons_append, piecesFrom, piecesFrom]
    split
    · rw [ih, List.cons_append]
    · rw [ih]

/-- The words on both sides of a divider are words of the whole. -/
theorem words_append_divider {c : Char} (hc : isAlphanumeric c = false) (text rest : List Char) :
    words (text ++ c :: rest) = words text ++ words rest := by
  have hdivides : (!isAlphanumeric c) = true := by rw [hc, Bool.not_false]
  rw [words, filledPieces, pieces, piecesFrom_append_divider hdivides, List.filter_append,
    List.flatMap_append]
  rfl

/-! ## Letters and digits -/

/-- Pieces have all characters of the text but the dividers. -/
theorem flatten_piecesFrom (divides : Char → Bool) (read text : List Char) :
    (piecesFrom divides read text).flatten = read.reverse ++ text.filter (!divides ·) := by
  induction text generalizing read with
  | nil => simp [piecesFrom]
  | cons c rest ih =>
    rw [piecesFrom]
    split
    · rename_i hc
      rw [List.flatten_cons, ih, List.filter_cons_of_neg (by simp [hc])]
      rfl
    · rename_i hc
      rw [ih, List.reverse_cons, List.append_assoc, List.filter_cons_of_pos (by simpa using hc)]
      rfl

/-- The words of a piece have all its characters. -/
theorem flatten_splitPiece (casing : Casing) (read : List Char) {text : List Char} (h : text ≠ []) :
    (splitPiece casing read text).flatten = read.reverse ++ text := by
  fun_induction splitPiece casing read text with
  | case1 => exact absurd rfl h
  | case2 casing read c => simp
  | case3 casing read c next rest _ ih => simp [ih]
  | case4 casing read c next rest _ _ ih => simp [ih]
  | case5 casing read c next rest _ _ ih => simp [ih]

/-- Filled pieces are not empty. -/
theorem ne_nil_of_mem_filledPieces {divides : Char → Bool} {text piece : List Char}
    (h : piece ∈ filledPieces divides text) : piece ≠ [] := by
  simpa using (List.mem_filter.1 h).2

/-- The words of a name have all its letters and digits. -/
theorem flatten_words (name : List Char) : (words name).flatten = name.filter isAlphanumeric := by
  have hsplit : (words name).flatten = (filledPieces (!isAlphanumeric ·) name).flatten := by
    rw [words, List.flatMap_def, List.flatten_flatten, List.map_map]
    refine congrArg List.flatten ((List.map_congr_left fun piece hpiece => ?_).trans (List.map_id _))
    exact flatten_splitPiece .neutral [] (ne_nil_of_mem_filledPieces hpiece)
  rw [hsplit, filledPieces, List.flatten_filter_not_isEmpty, pieces, flatten_piecesFrom]
  simp

/-- A name without letters and digits has no words. -/
theorem words_eq_nil_iff {name : List Char} : words name = [] ↔ name.filter isAlphanumeric = [] := by
  constructor
  · intro h
    rw [← flatten_words, h]
    rfl
  · intro h
    have hpieces : ∀ piece ∈ pieces (!isAlphanumeric ·) name, piece = [] := by
      refine List.flatten_eq_nil_iff.1 ?_
      rw [pieces, flatten_piecesFrom]
      simpa using h
    have hfilled : filledPieces (!isAlphanumeric ·) name = [] := by
      refine List.filter_eq_nil_iff.2 fun piece hpiece => ?_
      rw [hpieces piece hpiece]
      decide
    rw [words, hfilled]
    rfl

/-! ## Up to case -/

/-- A word in small letters is the word up to case. -/
theorem map_toLower_lowerWord {word : List Char} (h : ∀ c ∈ word, continuesName c) :
    (lowerWord word).map Char.toLower = word.map Char.toLower := by
  have hlower : ∀ {c}, continuesName c → (lowerChar c).map Char.toLower = [c.toLower] := fun {c} hc =>
    forall_of_continuesName (p := fun c => (lowerChar c).map Char.toLower = [c.toLower]) (by decide) hc
  fun_induction lowerWord word with
  | case1 => rfl
  -- The one small letter that is looked up by its place is no character of names.
  | case2 => exact absurd (h 'Σ' List.mem_cons_self) (by decide)
  | case3 c _ => exact hlower (h c List.mem_cons_self)
  | case4 c rest _ ih =>
    rw [List.map_append, hlower (h c List.mem_cons_self), ih fun d hd => h d (List.mem_cons_of_mem c hd)]
    rfl

/-- A word with a capital is the word up to case. -/
theorem map_toLower_capitalWord {word : List Char} (h : ∀ c ∈ word, continuesName c) :
    (capitalWord word).map Char.toLower = word.map Char.toLower := by
  cases word with
  | nil => rfl
  | cons c rest =>
    have hupper : (upperChar c).map Char.toLower = [c.toLower] :=
      forall_of_continuesName (p := fun c => (upperChar c).map Char.toLower = [c.toLower]) (by decide)
        (h c List.mem_cons_self)
    rw [capitalWord, List.map_append, hupper,
      map_toLower_lowerWord fun d hd => h d (List.mem_cons_of_mem c hd)]
    rfl

/-- Words that are put together in camel case are up to case what they are without it. -/
theorem map_toLower_lowerCamel {list : List (List Char)} (h : ∀ word ∈ list, ∀ c ∈ word, continuesName c) :
    (lowerCamel list).map Char.toLower = list.flatten.map Char.toLower := by
  cases list with
  | nil => rfl
  | cons first rest =>
    obtain ⟨hfirst, hrest⟩ := List.forall_mem_cons.1 h
    have hcapitals : (rest.flatMap capitalWord).map Char.toLower = rest.flatten.map Char.toLower := by
      rw [List.map_flatMap, List.flatMap_def, List.map_flatten]
      exact congrArg List.flatten (List.map_congr_left fun word hword =>
        map_toLower_capitalWord (hrest word hword))
    rw [lowerCamel, List.map_append, map_toLower_lowerWord hfirst, hcapitals, List.flatten_cons,
      List.map_append]

/-- Camel case keeps the letters and digits of a name up to their case. -/
theorem map_toLower_lowerCamelCase {name : String} (h : ∀ c ∈ name.toList, continuesName c) :
    (lowerCamelCase name).toList.map Char.toLower =
      (name.toList.filter isAlphanumeric).map Char.toLower := by
  rw [lowerCamelCase, String.toList_ofList,
    map_toLower_lowerCamel fun word hword c hc => h c (mem_of_mem_words hword hc), flatten_words]

end Text

/-! ## Identifiers -/

/-- A module is named by the key and the kind, with an underscore between them. -/
theorem toList_key_name (kind : ActionKind) (key : String) :
    (key ++ "_" ++ kind.name).toList = key.toList ++ '_' :: kind.name.toList := by
  simp [String.toList_append]

/-- The kind is one word more than the key has. -/
theorem words_key_name (kind : ActionKind) (key : String) :
    Text.words (key ++ "_" ++ kind.name).toList = Text.words key.toList ++ [kind.name.toList] := by
  have hkind : Text.words kind.name.toList = [kind.name.toList] := by
    cases kind <;> decide +kernel
  rw [toList_key_name, Text.words_append_divider (by decide +kernel), hkind]

/-- The name of a module has no characters but those of names, though a digit may come first. -/
theorem continuesName_key_name {key : String} (h : isName key) (kind : ActionKind) :
    ∀ c ∈ (key ++ "_" ++ kind.name).toList, continuesName c := by
  have hkind : ∀ e ∈ '_' :: kind.name.toList, continuesName e :=
    List.all_eq_true.1 (by cases kind <;> decide)
  rw [toList_key_name]
  exact List.forall_mem_append.2 ⟨fun _ => continuesName_of_mem h, hkind⟩

/-- An identifier has no characters but those that names have. -/
theorem continuesName_of_mem_moduleIdent {key : String} (h : isName key) (kind : ActionKind) {c : Char}
    (hc : c ∈ (moduleIdent kind key).toList) : continuesName c :=
  Text.continuesName_of_mem_lowerCamelCase (continuesName_key_name h kind) hc

/-- An identifier is the key in camel case and the name of the kind of action, which is the first word when
the key has none. -/
theorem toList_moduleIdent (kind : ActionKind) (key : String) :
    (moduleIdent kind key).toList =
      if Text.words key.toList = [] then kind.name.toList
      else (Text.lowerCamelCase key).toList ++ Text.capitalWord kind.name.toList := by
  rw [moduleIdent, Text.lowerCamelCase, Text.lowerCamelCase, String.toList_ofList, String.toList_ofList,
    words_key_name]
  cases Text.words key.toList with
  | nil => cases kind <;> decide +kernel
  | cons first rest =>
    rw [if_neg (List.cons_ne_nil first rest), List.cons_append, Text.lowerCamel, Text.lowerCamel,
      List.flatMap_append, List.flatMap_singleton, List.append_assoc]

/-- An identifier ends as the name of the kind of action does. -/
theorem getLast?_moduleIdent (kind : ActionKind) (key : String) :
    (moduleIdent kind key).toList.getLast? = kind.name.toList.getLast? := by
  have hcapital : (Text.capitalWord kind.name.toList).getLast? = kind.name.toList.getLast? ∧
      Text.capitalWord kind.name.toList ≠ [] := by cases kind <;> decide +kernel
  rw [toList_moduleIdent]
  split
  · rfl
  · rw [List.getLast?_append_of_ne_nil _ hcapital.2, hcapital.1]

/-- Identifiers of different kinds of actions differ. -/
theorem kind_eq_of_moduleIdent_eq {kind kind' : ActionKind} {key key' : String}
    (h : moduleIdent kind key = moduleIdent kind' key') : kind = kind' := by
  have hlast : kind.name.toList.getLast? = kind'.name.toList.getLast? := by
    rw [← getLast?_moduleIdent kind key, ← getLast?_moduleIdent kind' key', h]
  revert hlast
  cases kind <;> cases kind' <;> decide

/-- An identifier has the letters and digits of the key up to their case, and then the kind of action. -/
theorem map_toLower_moduleIdent {key : String} (h : isName key) (kind : ActionKind) :
    (moduleIdent kind key).toList.map Char.toLower =
      (key.toList.filter Text.isAlphanumeric).map Char.toLower ++ kind.name.toList := by
  have hkind : (('_' :: kind.name.toList).filter Text.isAlphanumeric).map Char.toLower =
      kind.name.toList := by cases kind <;> decide +kernel
  rw [moduleIdent, Text.map_toLower_lowerCamelCase (continuesName_key_name h kind), toList_key_name,
    List.filter_append, List.map_append, hkind]

/-! ## Shared identifiers -/

/-- Camel case is empty only for keys without letters and digits. -/
theorem lowerCamelCase_eq_empty_iff {key : String} (h : isName key) :
    Text.lowerCamelCase key = "" ↔ Text.words key.toList = [] := by
  rw [Text.words_eq_nil_iff, ← List.map_eq_nil_iff (f := Char.toLower),
    ← Text.map_toLower_lowerCamelCase fun _ => continuesName_of_mem h, List.map_eq_nil_iff,
    String.toList_eq_nil_iff]

/-- Actions share an identifier exactly when they are of one kind and their keys are one in camel case. -/
theorem moduleIdent_eq_iff {key key' : String} (h : isName key) (h' : isName key')
    (kind kind' : ActionKind) :
    moduleIdent kind key = moduleIdent kind' key' ↔
      kind = kind' ∧ Text.lowerCamelCase key = Text.lowerCamelCase key' := by
  -- The kind alone starts with a small letter where it is capitalised after a key.
  have hnever : ∀ camel : List Char, kind.name.toList ≠ camel ++ Text.capitalWord kind.name.toList := by
    intro camel hsame
    have hlength := congrArg List.length hsame
    have hcapital : (Text.capitalWord kind.name.toList).length = kind.name.toList.length ∧
        Text.capitalWord kind.name.toList ≠ kind.name.toList := by cases kind <;> decide +kernel
    rw [List.length_append, hcapital.1] at hlength
    obtain rfl := List.length_eq_zero_iff.1 (by omega : camel.length = 0)
    exact hcapital.2 hsame.symm
  have hwords := lowerCamelCase_eq_empty_iff h
  have hwords' := lowerCamelCase_eq_empty_iff h'
  constructor
  · intro hsame
    obtain rfl := kind_eq_of_moduleIdent_eq hsame
    refine ⟨rfl, ?_⟩
    have hlist := congrArg String.toList hsame
    rw [toList_moduleIdent, toList_moduleIdent] at hlist
    -- Either both keys have words or neither does, and then the kind can be taken off the end.
    split at hlist <;> split at hlist <;> rename_i hnil hnil'
    · rw [hwords.2 hnil, hwords'.2 hnil']
    · exact absurd hlist (hnever _)
    · exact absurd hlist.symm (hnever _)
    · exact String.toList_inj.1 (List.append_cancel_right hlist)
  · rintro ⟨rfl, hsame⟩
    rw [← String.toList_inj, toList_moduleIdent, toList_moduleIdent, ← hsame]
    simp only [← hwords, ← hwords', hsame]

/-! ## Identifiers as variables -/

/-- The words that no variable of a script may have as its name. -/
def reservedWords : List String :=
  ["arguments", "await", "break", "case", "catch", "class", "const", "continue", "debugger", "default",
    "delete", "do", "else", "enum", "eval", "export", "extends", "false", "finally", "for", "function",
    "if", "implements", "import", "in", "instanceof", "interface", "let", "new", "null", "package",
    "private", "protected", "public", "return", "static", "super", "switch", "this", "throw", "true",
    "try", "typeof", "var", "void", "while", "with", "yield"]

/-- Whether a text in ASCII may be the name of a variable: letters, digits, underscores and dollar signs
with no digit in front, and no reserved word. -/
def isVariableName (text : String) : Bool :=
  let continues (c : Char) : Bool := c.isAlphanum || c = '_' || c = '$'
  match text.toList with
  | [] => false
  | c :: rest => !c.isDigit && (c :: rest).all continues && !reservedWords.contains text

/-- The end of the kind of action is the end of no reserved word. -/
theorem notMem_reservedWords (kind : ActionKind) (key : String) :
    moduleIdent kind key ∉ reservedWords := by
  have hend : kind.name.toList.tail <:+ (moduleIdent kind key).toList := by
    rw [toList_moduleIdent]
    split
    · exact List.tail_suffix _
    · have hcapital : kind.name.toList.tail <:+ Text.capitalWord kind.name.toList := by
        cases kind <;> decide +kernel
      exact hcapital.trans (List.suffix_append _ _)
  have hreserved : ∀ word ∈ reservedWords, ¬ kind.name.toList.tail <:+ word.toList := by
    cases kind <;> decide +kernel
  exact fun hmem => hreserved _ hmem hend

/-- An identifier names a variable exactly when its first character is no digit. -/
theorem isVariableName_moduleIdent {key : String} (h : isName key) (kind : ActionKind) :
    isVariableName (moduleIdent kind key) ↔
      ∀ c, (moduleIdent kind key).toList.head? = some c → c.isDigit = false := by
  have hcontinues : (moduleIdent kind key).toList.all
      (fun c => c.isAlphanum || c = '_' || c = '$') := by
    refine List.all_eq_true.2 fun c hc => ?_
    have hname := continuesName_of_mem_moduleIdent h kind hc
    rw [continuesName, Bool.or_comm] at hname
    rw [hname, Bool.true_or]
  -- The kind of action is at the end, so the identifier is not empty.
  have hne : (moduleIdent kind key).toList ≠ [] := by
    intro hnil
    have hlower := map_toLower_moduleIdent h kind
    rw [hnil, List.map_nil] at hlower
    have hkind := (List.append_eq_nil_iff.1 hlower.symm).2
    revert hkind
    cases kind <;> decide
  obtain ⟨c, rest, hcons⟩ := List.exists_cons_of_ne_nil hne
  rw [isVariableName, hcons]
  rw [hcons] at hcontinues
  simp [hcontinues, notMem_reservedWords kind key]

/-- An identifier names a variable exactly when no digit comes first among the letters and digits of the
key. -/
theorem isVariableName_moduleIdent_iff {key : String} (h : isName key) (kind : ActionKind) :
    isVariableName (moduleIdent kind key) ↔
      ∀ c, key.toList.find? Text.isAlphanumeric = some c → c.isDigit = false := by
  have hdigit : ∀ {c}, continuesName c → c.toLower.isDigit = c.isDigit := fun {c} hc =>
    forall_of_continuesName (p := fun c => c.toLower.isDigit = c.isDigit) (by decide) hc
  have hlower := congrArg List.head? (map_toLower_moduleIdent h kind)
  rw [List.head?_map, List.head?_append, List.head?_map, List.head?_filter] at hlower
  rw [isVariableName_moduleIdent h]
  have hname : ∀ c, (moduleIdent kind key).toList.head? = some c → continuesName c := fun c hc =>
    continuesName_of_mem_moduleIdent h kind (List.mem_of_head? hc)
  cases hfirst : key.toList.find? Text.isAlphanumeric with
  | none =>
    -- There is nothing but the kind of action, which starts with a letter.
    rw [hfirst, Option.map_none, Option.none_or] at hlower
    have hkind : ∀ c, kind.name.toList.head? = some c → c.isDigit = false := by
      cases kind <;> simp [ActionKind.name]
    have hletter : ∀ c, (moduleIdent kind key).toList.head? = some c → c.isDigit = false := by
      intro c hc
      rw [hc, Option.map_some] at hlower
      rw [← hdigit (hname c hc)]
      exact hkind c.toLower hlower.symm
    exact iff_of_true hletter (by simp)
  | some first =>
    rw [hfirst, Option.map_some, Option.some_or] at hlower
    obtain ⟨c, hc, hsame⟩ := Option.map_eq_some_iff.1 hlower
    have hc' := hdigit (hname c hc)
    have hfirst' := hdigit (continuesName_of_mem h (List.mem_of_find?_eq_some hfirst))
    rw [hc]
    simp only [Option.some.injEq, forall_eq', ← hc', ← hfirst', hsame]

end ActionForge
