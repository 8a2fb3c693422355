import ActionForge.EntryFile
import ActionForge.Proofs.Form.Order
import ActionForge.Proofs.Identifier
import ActionForge.Proofs.Text.Lines

/-!
# Headers of sections and the lines of actions

A header starts with the name of its section and a colon, and a brace comes later on the line
(`isHeader_iff`). Hence it stays a header when anything changes after a brace of it, and when blanks are
added at its end. The lines of an action start in another way, so none of them is ever a header.
-/

namespace ActionForge

namespace EntryFile

open Text

/-! ## Headers -/

/-- The ways to write the name of a section: bare or in quotes. -/
def spellings (kind : ActionKind) : List (List Char) :=
  let name := kind.sectionName.toList
  [name, '"' :: (name ++ ['"']), '\'' :: (name ++ ['\''])]

/-- What follows a section's name is found behind each of its spellings and behind nothing else. -/
theorem afterName?_eq_some_iff {kind : ActionKind} {text rest : List Char} :
    afterName? kind.sectionName.toList text = some rest ↔
      ∃ written ∈ spellings kind, text = written ++ rest := by
  unfold afterName?
  constructor
  · intro h
    obtain h | ⟨-, h⟩ := Option.or_eq_some_iff.1 h
    · exact ⟨_, by simp [spellings], dropStart?_eq_some_iff.1 h⟩
    · obtain h | ⟨-, h⟩ := Option.or_eq_some_iff.1 h
      · exact ⟨_, by simp [spellings], dropStart?_eq_some_iff.1 h⟩
      · exact ⟨_, by simp [spellings], dropStart?_eq_some_iff.1 h⟩
  · rintro ⟨written, hwritten, rfl⟩
    -- The three spellings start with different characters, so only one of them is found.
    simp only [spellings, List.mem_cons, List.not_mem_nil, or_false] at hwritten
    rcases hwritten with rfl | rfl | rfl
    · rw [dropStart?_append, Option.some_or]
    · have hbare : dropStart? kind.sectionName.toList
          ('"' :: (kind.sectionName.toList ++ ['"']) ++ rest) = none := by cases kind <;> rfl
      rw [hbare, Option.none_or, dropStart?_append, Option.some_or]
    · have hbare : dropStart? kind.sectionName.toList
          ('\'' :: (kind.sectionName.toList ++ ['\'']) ++ rest) = none := by cases kind <;> rfl
      have hquoted : dropStart? ('"' :: (kind.sectionName.toList ++ ['"']))
          ('\'' :: (kind.sectionName.toList ++ ['\'']) ++ rest) = none := rfl
      rw [hbare, Option.none_or, hquoted, Option.none_or, dropStart?_append]

/-- The beginning of a header: the name of the section and the colon, with blanks around the name. -/
def HeaderStart (kind : ActionKind) (start : List Char) : Prop :=
  ∃ indent written gap, AllBlank indent ∧ written ∈ spellings kind ∧ AllBlank gap ∧
    start = indent ++ (written ++ (gap ++ [':']))

/-- A header is its beginning and something with a brace in it. -/
theorem isHeader_iff {kind : ActionKind} {line : Line} :
    isHeader kind.sectionName.toList line ↔
      ∃ start rest, HeaderStart kind start ∧ '\x7b' ∈ rest ∧ line = start ++ rest := by
  constructor
  · intro h
    obtain ⟨indent, hindent, hline⟩ := exists_trimStart line
    rw [isHeader] at h
    split at h
    · rename_i rest hname
      obtain ⟨written, hwritten, htrim⟩ := afterName?_eq_some_iff.1 hname
      obtain ⟨gap, hgap, hrest⟩ := exists_trimStart rest
      obtain ⟨hcolon, hbrace⟩ := Bool.and_eq_true_iff.1 h
      obtain ⟨after, hafter⟩ := List.head?_eq_some_iff.1 (by simpa using hcolon)
      rw [hafter] at hrest hbrace
      refine ⟨indent ++ (written ++ (gap ++ [':'])), after,
        ⟨indent, written, gap, hindent, hwritten, hgap, rfl⟩, by simpa using hbrace, ?_⟩
      rw [hline, htrim, hrest]
      simp
    · cases h
  · rintro ⟨start, rest, ⟨indent, written, gap, hindent, hwritten, hgap, rfl⟩, hbrace, rfl⟩
    -- The name starts with no blank, so trimming the line stops where the spelling begins.
    have hfirst : ∃ c tail, written = c :: tail ∧ isBlank c = false := by
      simp only [spellings, List.mem_cons, List.not_mem_nil, or_false] at hwritten
      rcases hwritten with rfl | rfl | rfl
      · cases kind <;> exact ⟨_, _, rfl, rfl⟩
      · exact ⟨_, _, rfl, rfl⟩
      · exact ⟨_, _, rfl, rfl⟩
    obtain ⟨c, tail, hcons, hc⟩ := hfirst
    have htrim : trimStart (indent ++ (written ++ (gap ++ [':'])) ++ rest) =
        written ++ (gap ++ ':' :: rest) := by
      rw [List.append_assoc, trimStart_append hindent, hcons, List.cons_append, List.cons_append,
        trimStart_cons hc]
      simp
    have hname := afterName?_eq_some_iff.2 ⟨written, hwritten, htrim⟩
    have hcolon : trimStart (gap ++ ':' :: rest) = ':' :: rest := by
      rw [trimStart_append hgap, trimStart_cons rfl]
    rw [isHeader, hname]
    simp [hcolon, hbrace]

/-- No brace stands at the beginning of a header. -/
theorem HeaderStart.notMem {kind : ActionKind} {start : List Char} (h : HeaderStart kind start) :
    '\x7b' ∉ start := by
  obtain ⟨indent, written, gap, hindent, hwritten, hgap, rfl⟩ := h
  have hblank : ∀ {blanks : List Char}, AllBlank blanks → '\x7b' ∉ blanks := by
    intro blanks hblanks hmem
    exact absurd (hblanks _ hmem) (by decide)
  have hspelling : ∀ written ∈ spellings kind, '\x7b' ∉ written := by cases kind <;> decide
  simp [hblank hindent, hblank hgap, hspelling written hwritten]

/-- What follows a brace does not matter to a header. -/
theorem isHeader_brace_congr (kind : ActionKind) (before after after' : List Char) :
    isHeader kind.sectionName.toList (before ++ '\x7b' :: after) =
      isHeader kind.sectionName.toList (before ++ '\x7b' :: after') := by
  -- Both directions are this implication, with the two tails exchanged.
  have himp : ∀ {after after' : List Char},
      isHeader kind.sectionName.toList (before ++ '\x7b' :: after) →
        isHeader kind.sectionName.toList (before ++ '\x7b' :: after') := by
    intro after after' h
    obtain ⟨start, rest, hstart, -, hline⟩ := isHeader_iff.1 h
    -- The brace is none of the beginning, so the beginning ends before it.
    obtain ⟨more, rfl, -⟩ | ⟨more, hmore, hrest⟩ := List.append_eq_append_iff.1 hline.symm
    · exact isHeader_iff.2 ⟨start, more ++ '\x7b' :: after', hstart, by simp, by simp⟩
    · cases more with
      | nil =>
        rw [List.append_nil] at hmore
        exact isHeader_iff.2 ⟨start, '\x7b' :: after', hstart, by simp, by rw [hmore]⟩
      | cons c more =>
        obtain ⟨rfl, -⟩ := List.cons.inj hrest
        exact absurd (by simp [hmore]) hstart.notMem
  rw [Bool.eq_iff_iff]
  exact ⟨himp, himp⟩

/-- Every header has an opening brace. -/
theorem mem_of_isHeader {kind : ActionKind} {line : Line} (h : isHeader kind.sectionName.toList line) :
    '\x7b' ∈ line := by
  obtain ⟨start, rest, -, hbrace, rfl⟩ := isHeader_iff.1 h
  exact List.mem_append_right start hbrace

/-- Blanks at the end of a line do not make it a header or keep it from being one. -/
theorem isHeader_append_blanks (kind : ActionKind) (line : Line) {blanks : List Char}
    (h : AllBlank blanks) :
    isHeader kind.sectionName.toList (line ++ blanks) = isHeader kind.sectionName.toList line := by
  -- A line with a brace is a header by what stands before the brace; one without a brace never is.
  by_cases hbrace : '\x7b' ∈ line
  · obtain ⟨before, after, rfl⟩ := List.append_of_mem hbrace
    rw [List.append_assoc, List.cons_append]
    exact isHeader_brace_congr kind before _ _
  · have hline : isHeader kind.sectionName.toList line = false :=
      Bool.eq_false_iff.2 fun hheader => hbrace (mem_of_isHeader hheader)
    have hblanks : isHeader kind.sectionName.toList (line ++ blanks) = false := by
      refine Bool.eq_false_iff.2 fun hheader => ?_
      rcases List.mem_append.1 (mem_of_isHeader hheader) with hmem | hmem
      · exact hbrace hmem
      · exact absurd (h _ hmem) (by decide)
    rw [hline, hblanks]

/-- A line is a header before and after the blanks at its end are dropped. -/
theorem isHeader_trimEnd (kind : ActionKind) (line : Line) :
    isHeader kind.sectionName.toList (trimEnd line) = isHeader kind.sectionName.toList line := by
  obtain ⟨blanks, hblanks, hline⟩ := exists_trimEnd line
  conv_rhs => rw [hline]
  exact (isHeader_append_blanks kind _ hblanks).symm

/-- A line that starts with something else than a section's name, spelt in any way, is no header. -/
theorem isHeader_of_afterName? {kind : ActionKind} {line : Line}
    (h : afterName? kind.sectionName.toList (trimStart line) = none) :
    isHeader kind.sectionName.toList line = false := by
  rw [isHeader, h]

/-! ## The lines of actions -/

/-- Blanks at its end play no part in whether a line is that of an action. -/
theorem isLine_trimEnd (text : List Char) (line : Line) : isLine text (trimEnd line) = isLine text line := by
  obtain ⟨blanks, hblanks, hline⟩ := exists_trimEnd line
  conv_rhs => rw [hline, isLine, trim_append hblanks]
  rfl

/-- The text is one of the two lines of an action whose key is a name. -/
inductive Listing : List Char → Prop
  | require (kind : ActionKind) {key : String} (h : isName key) : Listing (requireLine kind key).toList
  | entry (kind : ActionKind) {key : String} (h : isName key) : Listing (entryLine kind key).toList

/-- The line that requires a module, its last character split off. -/
theorem toList_requireLine (kind : ActionKind) (key : String) :
    (requireLine kind key).toList =
      "const ".toList ++ ((moduleIdent kind key).toList ++ (" = require('./".toList ++
        (kind.sectionName.toList ++ ('/' :: key.toList ++ "')".toList)))) ++ [';'] := by
  simp [requireLine, String.toList_append]

/-- The line that lists an action, its first and last characters split off. -/
theorem toList_entryLine (kind : ActionKind) (key : String) :
    (entryLine kind key).toList =
      '[' :: ((moduleIdent kind key).toList ++ (".key]: ".toList ++ (moduleIdent kind key).toList)) ++
        [','] := by
  simp [entryLine, String.toList_append]

/-- Line ends and braces. -/
def isMark (c : Char) : Bool := ['\n', '\r', '\x7b', '\x7d'].contains c

/-- Characters of names are neither line ends nor braces. -/
theorem any_isMark_of_continuesName {text : List Char} (h : ∀ c ∈ text, Sdl.continuesName c) :
    text.any isMark = false := by
  rw [List.any_eq_false]
  intro c hc hmark
  have hname := h c hc
  have hcases : c = '\n' ∨ c = '\r' ∨ c = '\x7b' ∨ c = '\x7d' := by
    simpa [isMark] using hmark
  rcases hcases with rfl | rfl | rfl | rfl <;> cases hname

/-- The identifier of a module is made of characters of names, so it has no mark in it. -/
theorem any_isMark_moduleIdent {key : String} (h : isName key) (kind : ActionKind) :
    (moduleIdent kind key).toList.any isMark = false :=
  any_isMark_of_continuesName fun _ => continuesName_of_mem_moduleIdent h kind

namespace Listing

variable {text : List Char} (h : Listing text)

include h

/-- The lines of actions start with `const` or with a bracket. -/
theorem start : (∃ rest, text = "const ".toList ++ rest) ∨ ∃ rest, text = '[' :: rest := by
  cases h with
  | require kind _ => exact .inl ⟨_, by rw [toList_requireLine, List.append_assoc]⟩
  | entry kind _ => exact .inr ⟨_, by rw [toList_entryLine, List.cons_append]⟩

/-- No blank stands at either end of the line of an action. -/
theorem trimmed : Trimmed text where
  start := by
    obtain ⟨rest, rfl⟩ | ⟨rest, rfl⟩ := h.start
    · exact trimStart_cons rfl _
    · exact trimStart_cons rfl _
  stop := by
    cases h with
    | require kind _ =>
      rw [toList_requireLine]
      exact trimEnd_concat rfl _
    | entry kind _ =>
      rw [toList_entryLine]
      exact trimEnd_concat rfl _

/-- The line of an action ends no line within it and holds no brace. -/
theorem any_isMark : text.any isMark = false := by
  cases h with
  | require kind hkey =>
    have hident := any_isMark_moduleIdent hkey kind
    have hname := any_isMark_of_continuesName fun _ => continuesName_of_mem hkey
    have hsection : kind.sectionName.toList.any isMark = false := by cases kind <;> rfl
    rw [toList_requireLine]
    simp only [List.any_append, List.any_cons, List.any_nil, hident, hname, hsection]
    rfl
  | entry kind hkey =>
    have hident := any_isMark_moduleIdent hkey kind
    rw [toList_entryLine]
    simp only [List.any_append, List.any_cons, List.any_nil, hident]
    rfl

/-- A mark is no character of the line of an action. -/
theorem notMem {c : Char} (hc : isMark c) : c ∉ text :=
  fun hmem => List.any_eq_false.1 h.any_isMark c hmem hc

/-- A line is that of an action if it is the text with blanks around it. -/
theorem isLine_iff {line : Line} :
    isLine text line ↔
      ∃ indent blanks, AllBlank indent ∧ AllBlank blanks ∧ line = indent ++ text ++ blanks := by
  rw [← trim_eq_iff h.trimmed, isLine, beq_iff_eq]

/-- The line of an action is no header of any section. -/
theorem not_isHeader {line : Line} (hline : isLine text line) (kind : ActionKind) :
    isHeader kind.sectionName.toList line = false := by
  obtain ⟨indent, blanks, hindent, hblanks, rfl⟩ := h.isLine_iff.1 hline
  rw [isHeader_append_blanks kind _ hblanks]
  refine isHeader_of_afterName? ?_
  rw [trimStart_append hindent, h.trimmed.start]
  obtain ⟨rest, rfl⟩ | ⟨rest, rfl⟩ := h.start <;> cases kind <;> rfl

/-- A header is no line of an action. -/
theorem not_isLine_header {kind : ActionKind} {line : Line}
    (hheader : isHeader kind.sectionName.toList line) : isLine text line = false := by
  refine Bool.eq_false_iff.2 fun hline => ?_
  rw [h.not_isHeader hline kind] at hheader
  cases hheader

/-- A line that holds the text of an action holds no other text. -/
theorem eq_of_isLine {other : List Char} {indent : List Char} (hindent : AllBlank indent) :
    isLine other (indent ++ text) ↔ other = text := by
  have htrim : trim (indent ++ text) = text :=
    (trim_eq_iff h.trimmed _).2 ⟨indent, [], hindent, allBlank_nil, (List.append_nil _).symm⟩
  rw [isLine, beq_iff_eq, htrim, eq_comm]

/-- The text of an action is a line of the action. -/
theorem isLine_self : isLine text text := (h.eq_of_isLine allBlank_nil).2 rfl

end Listing

/-! ## Lines that close an object -/

section Closing

variable {indent : List Char} (h : AllBlank indent) (after : List Char)

include h

/-- A line that closes an object is no header of any section. -/
theorem not_isHeader_closing (kind : ActionKind) :
    isHeader kind.sectionName.toList (indent ++ '\x7d' :: after) = false := by
  refine isHeader_of_afterName? ?_
  rw [trimStart_append h, trimStart_cons rfl]
  cases kind <;> rfl

/-- A line that closes an object is not that of an action, which starts with neither brace. -/
theorem not_isLine_closing {text : List Char} (htext : Listing text) :
    isLine text (indent ++ '\x7d' :: after) = false := by
  refine Bool.eq_false_iff.2 fun hline => ?_
  obtain ⟨indent', blanks, hindent', -, hsame⟩ := htext.isLine_iff.1 hline
  have htrim := congrArg trimStart hsame
  rw [trimStart_append h, trimStart_cons rfl, List.append_assoc, trimStart_append hindent'] at htrim
  obtain ⟨rest, rfl⟩ | ⟨rest, rfl⟩ := htext.start
  · exact absurd (List.cons.inj htrim).1 (by decide)
  · exact absurd (List.cons.inj htrim).1 (by decide)

end Closing

end EntryFile

end ActionForge
