import Mathlib.Data.Bool.AllAny
import ActionForge.Proofs.Script.Syntax

/-!
# Reading result expressions

The text that an action returns is read as a tree of one of six forms, by its kind and its shape, with the
names of the action at the leaves (`Action.read_resultExpression`). The text is cut into tokens from its end
to its start; the tokens are then read by computation, since no step of the reader depends on the names.
-/

namespace ActionForge

namespace Script

open Sdl (continuesName startsName)

/-! ## Cutting texts into tokens -/

/-- The text falls into these tokens. -/
def Scans (text : List Char) (tokens : List Token) : Prop := scan [] text = some tokens

variable {text : List Char} {tokens : List Token}

/-- An empty text has no tokens. -/
theorem Scans.nil : Scans [] [] := rfl

/-- Three points are one token. -/
theorem Scans.spread (h : Scans text tokens) : Scans ('.' :: '.' :: '.' :: text) (.spread :: tokens) := by
  rw [Scans, scan, h]
  rfl

/-- An arrow is one token. -/
theorem Scans.arrow (h : Scans text tokens) : Scans ('=' :: '>' :: text) (.arrow :: tokens) := by
  rw [Scans, scan, h]
  rfl

/-- What a character does that starts no longer token. -/
theorem scan_single {c : Char} (hpoint : c = '.' → text.head? ≠ some '.') (hequal : c ≠ '=')
    (word : List Char) :
    scan word (c :: text) =
      if continuesWord c then scan (c :: word) text
      else ((scan [] text).bind (addMark c text.head?)).bind (endWord word) := by
  rw [scan]
  · rintro rest rfl rfl
    exact hpoint rfl rfl
  · rintro rest rfl -
    exact hequal rfl

/-- A blank before a text adds no token. -/
theorem Scans.blank (h : Scans text tokens) : Scans (' ' :: text) tokens := by
  rw [Scans, scan_single (by simp) (by decide), if_neg (by decide), h]
  rfl

/-- A mark is added to the tokens after it when it starts no longer token. -/
theorem Scans.single (h : Scans text tokens) {c : Char} (hpoint : c = '.' → text.head? ≠ some '.')
    (hequal : c ≠ '=') (hword : continuesWord c = false)
    (hadd : addMark c text.head? tokens = some (.mark c :: tokens)) :
    Scans (c :: text) (.mark c :: tokens) := by
  rw [Scans, scan_single hpoint hequal, if_neg (by simp [hword]), h, Option.bind_some, hadd]
  rfl

/-- A mark that starts no longer token stands for itself. -/
theorem Scans.mark (h : Scans text tokens) (c : Char)
    (hc : c ∈ [',', ':', '(', ')', '[', ']', '\x7b', '\x7d']) : Scans (c :: text) (.mark c :: tokens) := by
  have hmarks : ∀ c ∈ [',', ':', '(', ')', '[', ']', '\x7b', '\x7d'],
      c ≠ '.' ∧ c ≠ '=' ∧ continuesWord c = false ∧ c ≠ ' ' ∧ c ≠ '?' ∧ c ∈ marks :=
    List.all_iff_forall_prop.1 (by decide)
  obtain ⟨hpoint, hequal, hword, hblank, hquestion, hmark⟩ := hmarks c hc
  refine h.single (fun heq => absurd heq hpoint) hequal hword ?_
  rw [addMark, if_neg hblank, if_neg (fun hnext => hquestion hnext.1), if_pos hmark]

/-- A point that no other point follows. -/
theorem Scans.point (h : Scans text tokens) (hnext : text.head? ≠ some '.') :
    Scans ('.' :: text) (.mark '.' :: tokens) :=
  h.single (fun _ => hnext) (by decide) (by decide) rfl

/-- A question mark stands for itself when a blank follows it. -/
theorem Scans.question (h : Scans text tokens) : Scans ('?' :: ' ' :: text) (.mark '?' :: tokens) :=
  h.blank.single (by simp) (by decide) (by decide) rfl

/-! ## Names -/

/-- No word goes on in the text. -/
def EndsWord (text : List Char) : Prop := ∀ c ∈ text.head?, continuesWord c = false

/-- At the end of a text no word goes on. -/
theorem endsWord_nil : EndsWord [] := nofun

/-- No word goes on with a character that no word has. -/
theorem endsWord_cons {c : Char} (h : continuesWord c = false) (text : List Char) : EndsWord (c :: text) := by
  rintro d ⟨⟩
  exact h

/-- A character of a word is not one that words do not have. -/
theorem ne_of_continuesWord {c d : Char} (hc : continuesWord c) (hd : continuesWord d = false) : c ≠ d := by
  rintro rfl
  rw [hc] at hd
  cases hd

/-- The characters of a word are gathered in reverse. -/
theorem scan_word {word : List Char} (hword : ∀ c ∈ word, continuesWord c) (before : List Char) :
    scan before (word ++ text) = scan (word.reverse ++ before) text := by
  induction word generalizing before with
  | nil => rfl
  | cons c word ih =>
    obtain ⟨hc, hword⟩ := List.forall_mem_cons.1 hword
    have hpoint : c ≠ '.' := ne_of_continuesWord hc (by decide)
    have hequal : c ≠ '=' := ne_of_continuesWord hc (by decide)
    rw [List.cons_append, scan_single (fun h => absurd h hpoint) hequal, if_pos hc, ih hword,
      List.reverse_cons, List.append_assoc]
    rfl

/-- What is gathered becomes a token where words end, added to those of the rest. -/
theorem scan_of_endsWord (h : EndsWord text) (word : List Char) :
    scan word text = (scan [] text).bind (endWord word) := by
  -- In each case of the scanner but that of a word going on, what is gathered plays no part in the rest.
  fun_cases scan word text with
  | case1 => rfl
  | case2 rest =>
    rw [scan]
    cases scan [] rest <;> rfl
  | case3 rest =>
    rw [scan]
    cases scan [] rest <;> rfl
  | case4 c rest hspread harrow hword => simp [h c rfl] at hword
  | case5 c rest hspread harrow hword =>
    rw [scan.eq_4 [] c rest hspread harrow, if_neg hword]
    cases (scan [] rest).bind (addMark c rest.head?) <;> rfl

/-- Characters of names are characters of words. -/
theorem continuesWord_of_continuesName {c : Char} (h : continuesName c) : continuesWord c := by
  rw [continuesName, Bool.or_comm] at h
  rw [continuesWord, h, Bool.true_or]

/-- A gathered name is a token, for no name starts with a digit. -/
theorem endWord_reverse {name : String} (hname : isName name) (tokens : List Token) :
    endWord name.toList.reverse tokens = some (.name name :: tokens) := by
  obtain ⟨first, rest, htext, hfirst, -⟩ := isName_iff.1 hname
  have hdigit : first.isDigit = false :=
    forall_of_continuesName (p := fun c => startsName c → c.isDigit = false) (by decide)
      (continuesName_of_startsName hfirst) hfirst
  have hlast : name.toList.reverse.getLast? = some first := by
    rw [List.getLast?_reverse, htext, List.head?_cons]
  simp [endWord, hlast, hdigit]

/-- A name reaches up to where words end. -/
theorem Scans.name (h : Scans text tokens) (hends : EndsWord text) {name : String} (hname : isName name) :
    Scans (name.toList ++ text) (.name name :: tokens) := by
  have hword : ∀ c ∈ name.toList, continuesWord c := fun c hc =>
    continuesWord_of_continuesName (continuesName_of_mem hname hc)
  rw [Scans, scan_word hword, List.append_nil, scan_of_endsWord hends, h, Option.bind_some,
    endWord_reverse hname]

/-- A name after a point. -/
theorem Scans.member (h : Scans text tokens) (hends : EndsWord text) {name : String} (hname : isName name) :
    Scans ('.' :: (name.toList ++ text)) (.mark '.' :: .name name :: tokens) := by
  refine (h.name hends hname).point ?_
  obtain ⟨first, rest, htext, hfirst, -⟩ := isName_iff.1 hname
  rw [htext, List.cons_append, List.head?_cons]
  rintro ⟨⟩
  exact absurd hfirst (by decide)

/-! ## Forms of results -/

/-- A record with one of its members copied into its identifier. -/
def identified (record source : String) : Expression :=
  .object [.spread (.variable record), .named idKey (.member (.variable record) source)]

/-- The tokens of `identified`. -/
def identifiedTokens (record source : String) : List Token :=
  [.mark '\x7b', .spread, .name record, .mark ',', .name idKey, .mark ':', .name record, .mark '.',
    .name source, .mark '\x7d']

/-- A copied record falls into the tokens that are written down for it. -/
theorem Scans.identified (h : Scans text tokens) {record source : String} (hrecord : isName record)
    (hsource : isName source) :
    Scans ((idMapping record source false).toList ++ text) (identifiedTokens record source ++ tokens) := by
  have hid : isName idKey := by decide
  -- The steps go from the end of the text to its start, as the scanner returns.
  have hclose := (h.mark '\x7d' (by decide)).blank
  have hmember := hclose.member (endsWord_cons (by decide) _) hsource
  have hcopy := (hmember.name (endsWord_cons (by decide) _) hrecord).blank.mark ':' (by decide)
  have hlabel := (hcopy.name (endsWord_cons (by decide) _) hid).blank.mark ',' (by decide)
  have hspread := (hlabel.name (endsWord_cons (by decide) _) hrecord).spread
  simpa [idMapping, identifiedTokens, idKey] using hspread.blank.mark '\x7b' (by decide)

/-- A list with one member of every record copied into its identifier. -/
theorem Scans.eachIdentified (h : Scans text tokens) {result source : String} (hresult : isName result)
    (hsource : isName source) :
    Scans ((idMapping result source true).toList ++ text)
      (.name result :: .mark '.' :: .name "map" :: .mark '(' :: .mark '(' :: .name "item" :: .mark ')' ::
        .arrow :: .mark '(' :: (identifiedTokens "item" source ++ (.mark ')' :: .mark ')' :: tokens))) := by
  have hitem : isName "item" := by decide
  have hmap : isName "map" := by decide
  have hbody := ((h.mark ')' (by decide)).mark ')' (by decide)).identified hitem hsource
  have harrow := (hbody.mark '(' (by decide)).blank.arrow.blank.mark ')' (by decide)
  have hparameter := (harrow.name (endsWord_cons (by decide) _) hitem).mark '(' (by decide)
  have hcall := (hparameter.mark '(' (by decide)).member (endsWord_cons (by decide) _) hmap
  simpa [idMapping] using hcall.name (endsWord_cons (by decide) _) hresult

/-- A copied record is well-formed, for it sets no prototype. -/
theorem isWellFormed_identified {record : String} (h : record ∉ reservedWords) (source : String) :
    (identified record source).isWellFormed := by
  simp [identified, Expression.isWellFormed, partsWellFormed, Part.setsPrototype, h, idKey]

/-- A text is read as an expression when its tokens are and the expression is well-formed. -/
theorem read_eq_some {text : String} {expression : Expression} (hscan : Scans text.toList tokens)
    (hread : readExpression (3 * tokens.length) tokens = some (expression, []))
    (hwell : expression.isWellFormed) : read text = some expression := by
  rw [read, hscan, Option.bind_some, readTokens, hread]
  exact if_pos hwell

end Script

/-! ## Results of actions -/

namespace Action

open Script

variable (action : Action)

/-- The names that stand in the result expression are names. -/
structure WellSpelled : Prop where
  key : action.shape = .scalar → isName action.key
  source : ∀ source ∈ action.idSource, isName source

/-- The tree of `mappedResult`. -/
def mappedTree (result : String) (isList : Bool) : Expression :=
  match action.idSource, isList with
  | none, _ => .variable result
  | some source, true => .mapped (.variable result) "item" (identified "item" source)
  | some source, false => identified result source

/-- The tree of `resultExpression`. -/
def resultTree (result : String) : Expression :=
  match action.kind.returnsList, action.shape with
  | _, .list => action.mappedTree result true
  | true, .object => .conditional (.variable result) (.array [action.mappedTree result false]) (.array [])
  | true, .scalar => .array [.object [.named action.key (.variable result)]]
  | false, .object => action.mappedTree result false
  | false, .scalar => .object [.named action.key (.variable result)]

/-- The tokens of `mappedResult`. -/
def mappedTokens (result : String) (isList : Bool) : List Token :=
  match action.idSource, isList with
  | none, _ => [.name result]
  | some source, true =>
    [.name result, .mark '.', .name "map", .mark '(', .mark '(', .name "item", .mark ')', .arrow,
      .mark '('] ++ identifiedTokens "item" source ++ [.mark ')', .mark ')']
  | some source, false => identifiedTokens result source

/-- The tokens of `resultExpression`. -/
def resultTokens (result : String) : List Token :=
  match action.kind.returnsList, action.shape with
  | _, .list => action.mappedTokens result true
  | true, .object =>
    [.name result, .mark '?', .mark '['] ++ action.mappedTokens result false ++
      [.mark ']', .mark ':', .mark '[', .mark ']']
  | true, .scalar =>
    [.mark '[', .mark '\x7b', .name action.key, .mark ':', .name result, .mark '\x7d', .mark ']']
  | false, .object => action.mappedTokens result false
  | false, .scalar => [.mark '\x7b', .name action.key, .mark ':', .name result, .mark '\x7d']

variable {action}

/-! ### Cutting -/

/-- The text of a mapped result falls into its tokens, up to where words end. -/
theorem scans_mappedResult (hspelled : action.WellSpelled) {result : String} (hresult : isName result)
    (isList : Bool) {text : List Char} {tokens : List Token} (h : Scans text tokens)
    (hends : EndsWord text) :
    Scans ((action.mappedResult result isList).toList ++ text)
      (action.mappedTokens result isList ++ tokens) := by
  unfold mappedResult mappedTokens
  cases hid : action.idSource with
  | none => exact h.name hends hresult
  | some source =>
    cases isList with
    | false => exact h.identified hresult (hspelled.source source hid)
    | true => simpa using h.eachIdentified hresult (hspelled.source source hid)

/-- The result expression of an action falls into its tokens. -/
theorem scans_resultExpression (hspelled : action.WellSpelled) {result : String} (hresult : isName result) :
    Scans (action.resultExpression result).toList (action.resultTokens result) := by
  have hmapped : ∀ isList, Scans (action.mappedResult result isList).toList
      (action.mappedTokens result isList) := fun isList => by
    simpa using scans_mappedResult hspelled hresult isList Scans.nil endsWord_nil
  have hvalue {text : List Char} {tokens : List Token} (h : Scans text tokens) :=
    ((h.mark '\x7d' (by decide)).blank.name (endsWord_cons (by decide) _) hresult).blank.mark ':' (by decide)
  unfold resultExpression resultTokens
  cases hshape : action.shape with
  | list => exact hmapped true
  | object =>
    cases action.kind.returnsList with
    | false => exact hmapped false
    | true =>
      have hempty := ((Scans.nil.mark ']' (by decide)).mark '[' (by decide)).blank.mark ':' (by decide)
      have hitem := scans_mappedResult hspelled hresult false (hempty.blank.mark ']' (by decide))
        (endsWord_cons (by decide) _)
      have htest := (hitem.mark '[' (by decide)).question.blank
      simpa using htest.name (endsWord_cons (by decide) _) hresult
  | scalar =>
    have hkey := hspelled.key hshape
    cases action.kind.returnsList with
    | false =>
      have hmember := (hvalue Scans.nil).name (endsWord_cons (by decide) _) hkey
      simpa using hmember.blank.mark '\x7b' (by decide)
    | true =>
      have hclose := Scans.nil.mark ']' (by decide)
      have hmember := (hvalue hclose).name (endsWord_cons (by decide) _) hkey
      simpa using (hmember.blank.mark '\x7b' (by decide)).mark '[' (by decide)

/-! ### Reading -/

/-- The tokens of a result expression are read as its tree, with none left over. -/
theorem readExpression_resultTokens (result : String) :
    readExpression (3 * (action.resultTokens result).length) (action.resultTokens result) =
      some (action.resultTree result, []) := by
  unfold resultTokens resultTree mappedTokens mappedTree
  -- The reader decides by marks alone, so its steps are the same whatever the names are.
  cases action.shape with
  | list => cases action.idSource <;> rfl
  | object => cases action.kind.returnsList <;> cases action.idSource <;> rfl
  | scalar => cases action.kind.returnsList <;> rfl

/-- The tree of a mapped result is well-formed when its variable is no reserved word. -/
theorem isWellFormed_mappedTree (action : Action) {result : String} (hreserved : result ∉ reservedWords)
    (isList : Bool) : (action.mappedTree result isList).isWellFormed := by
  have hitem : "item" ∉ reservedWords := by decide
  unfold mappedTree
  cases action.idSource with
  | none => simpa [Expression.isWellFormed] using hreserved
  | some source =>
    cases isList with
    | false => exact isWellFormed_identified hreserved source
    | true => simp [Expression.isWellFormed, hreserved, hitem, isWellFormed_identified hitem source]

/-- The tree of every result expression is well-formed, whatever member a scalar is put under. -/
theorem isWellFormed_resultTree {result : String} (hreserved : result ∉ reservedWords) :
    (action.resultTree result).isWellFormed := by
  have hmapped := action.isWellFormed_mappedTree hreserved
  have hvariable : (Expression.variable result).isWellFormed := by
    simpa [Expression.isWellFormed] using hreserved
  have hrecord : (Expression.object [.named action.key (.variable result)]).isWellFormed := by
    -- A key may be that of the prototype, but an object of one part sets it no more than once.
    have hone : [Part.named action.key (.variable result)].countP Part.setsPrototype ≤ 1 :=
      List.countP_le_length
    rw [Expression.isWellFormed, decide_eq_true hone, partsWellFormed, hvariable]
    rfl
  unfold resultTree
  cases action.shape with
  | list => exact hmapped true
  | object =>
    cases action.kind.returnsList with
    | false => exact hmapped false
    | true => simp [Expression.isWellFormed, itemsWellFormed, hreserved, hmapped false]
  | scalar =>
    cases action.kind.returnsList with
    | false => exact hrecord
    | true => rw [Expression.isWellFormed, itemsWellFormed, hrecord, itemsWellFormed, Bool.true_and]

/-- The result expression of an action is read as its tree. -/
theorem read_resultExpression (hspelled : action.WellSpelled) {result : String} (hresult : isName result)
    (hreserved : result ∉ reservedWords) :
    Script.read (action.resultExpression result) = some (action.resultTree result) :=
  read_eq_some (scans_resultExpression hspelled hresult) (readExpression_resultTokens result)
    (isWellFormed_resultTree hreserved)

end Action

end ActionForge
