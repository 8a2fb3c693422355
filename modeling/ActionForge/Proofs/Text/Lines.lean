import Mathlib.Data.List.Forall2
import Mathlib.Data.List.Infix
import Mathlib.Data.List.TakeWhile
import ActionForge.Text.Blank

/-!
# Laws of blanks and lines

A text with nothing blank at its ends is what trimming gives back, whatever blanks are put around it
(`trim_eq_iff`). Lines that are joined by line feeds are read again as they were, but for a carriage
return at the end of a line (`reread_lines`), and a text without carriage returns is the join of its lines
(`join_lines`).
-/

namespace ActionForge.Text

/-! ## Blanks -/

/-- The text holds nothing but blanks. -/
def AllBlank (text : List Char) : Prop := ∀ c ∈ text, isBlank c

/-- A line without characters is blank. -/
theorem allBlank_nil : AllBlank [] := fun _ hc => absurd hc List.not_mem_nil

/-- Blank lines put together are blank. -/
theorem allBlank_append {blanks more : List Char} (h : AllBlank blanks) (h' : AllBlank more) :
    AllBlank (blanks ++ more) := List.forall_mem_append.2 ⟨h, h'⟩

/-- The blanks in front of a text are blank. -/
theorem allBlank_takeWhile (text : List Char) : AllBlank (text.takeWhile isBlank) :=
  fun _ hc => List.mem_takeWhile_imp hc

/-- Blanks in front of a text are trimmed with those that it begins with. -/
theorem trimStart_append {blanks : List Char} (h : AllBlank blanks) (text : List Char) :
    trimStart (blanks ++ text) = trimStart text := List.dropWhile_append_of_pos h

/-- A text that begins with something keeps all of it. -/
theorem trimStart_cons {c : Char} (h : isBlank c = false) (rest : List Char) :
    trimStart (c :: rest) = c :: rest := by
  rw [trimStart, List.dropWhile_cons_of_neg (by simp [h])]

/-- Nothing is left exactly when nothing but blanks was there. -/
theorem trimStart_eq_nil {text : List Char} : trimStart text = [] ↔ AllBlank text :=
  List.dropWhile_eq_nil_iff

/-- Blanks behind a text are trimmed with those that it ends with. -/
theorem trimEnd_append {blanks : List Char} (h : AllBlank blanks) (text : List Char) :
    trimEnd (text ++ blanks) = trimEnd text := by
  have hreverse : AllBlank blanks.reverse := fun c hc => h c (List.mem_reverse.1 hc)
  rw [trimEnd, trimEnd, List.reverse_append]
  exact congrArg List.reverse (trimStart_append hreverse text.reverse)

/-- A text that ends with something keeps all of it. -/
theorem trimEnd_concat {c : Char} (h : isBlank c = false) (text : List Char) :
    trimEnd (text ++ [c]) = text ++ [c] := by
  have hstart := trimStart_cons h text.reverse
  rw [trimStart] at hstart
  rw [trimEnd, List.reverse_append, List.reverse_singleton, List.singleton_append, hstart,
    List.reverse_cons, List.reverse_reverse]

/-- What stands before something that is not blank is left at the end. -/
theorem trimEnd_append_cons {c : Char} (h : isBlank c = false) (text rest : List Char) :
    trimEnd (text ++ c :: rest) = text ++ c :: trimEnd rest := by
  have hstart : (c :: text.reverse).dropWhile isBlank = c :: text.reverse := trimStart_cons h _
  rw [trimEnd, trimEnd, List.reverse_append, List.reverse_cons, List.append_assoc,
    List.singleton_append, List.dropWhile_append, hstart]
  split
  · rename_i hempty
    rw [List.isEmpty_iff.1 hempty]
    simp
  · simp

/-- Blanks stand in front of what trimming leaves. -/
theorem exists_trimStart (text : List Char) :
    ∃ blanks, AllBlank blanks ∧ text = blanks ++ trimStart text :=
  ⟨text.takeWhile isBlank, allBlank_takeWhile text, List.takeWhile_append_dropWhile.symm⟩

/-- Blanks stand behind what trimming leaves. -/
theorem exists_trimEnd (text : List Char) :
    ∃ blanks, AllBlank blanks ∧ text = trimEnd text ++ blanks := by
  obtain ⟨blanks, hblanks, htext⟩ := exists_trimStart text.reverse
  refine ⟨blanks.reverse, fun c hc => hblanks c (List.mem_reverse.1 hc), ?_⟩
  have hreverse := congrArg List.reverse htext
  rwa [List.reverse_reverse, List.reverse_append] at hreverse

/-- An end that was trimmed stays as it is. -/
theorem trimEnd_trimEnd (text : List Char) : trimEnd (trimEnd text) = trimEnd text := by
  obtain ⟨blanks, hblanks, htext⟩ := exists_trimEnd text
  conv_rhs => rw [htext, trimEnd_append hblanks]

/-- What is left of a text starts with something. -/
theorem exists_cons_of_trimStart {text : List Char} (h : trimStart text ≠ []) :
    ∃ c rest, isBlank c = false ∧ trimStart text = c :: rest := by
  obtain ⟨c, rest, hcons⟩ := List.exists_cons_of_ne_nil h
  refine ⟨c, rest, ?_, hcons⟩
  have hdrop : text.dropWhile isBlank = c :: rest := hcons
  have hhead := List.head_dropWhile_not isBlank h
  simpa [hdrop] using hhead

/-- Blanks at the end of a text are no part of what trimming leaves. -/
theorem trim_append {blanks : List Char} (h : AllBlank blanks) (text : List Char) :
    trim (text ++ blanks) = trim text := by
  obtain ⟨indent, hindent, htext⟩ := exists_trimStart text
  -- A text of blanks alone has no end that could be told from the blanks behind it.
  by_cases hempty : trimStart text = []
  · have hall := allBlank_append (trimStart_eq_nil.1 hempty) h
    rw [trim, trim, trimStart_eq_nil.2 hall, hempty]
  · obtain ⟨c, rest, hc, hcons⟩ := exists_cons_of_trimStart hempty
    have hstart : trimStart (text ++ blanks) = trimStart text ++ blanks := by
      rw [htext, List.append_assoc, trimStart_append hindent, trimStart_append hindent, hcons,
        List.cons_append, trimStart_cons hc, trimStart_cons hc, List.cons_append]
    rw [trim, trim, hstart, trimEnd_append h]

/-- Neither end of the text is blank. -/
structure Trimmed (text : List Char) : Prop where
  start : trimStart text = text
  stop : trimEnd text = text

/-- Trimming leaves a text exactly when there are blanks around it and nothing else. -/
theorem trim_eq_iff {text : List Char} (h : Trimmed text) (line : List Char) :
    trim line = text ↔
      ∃ indent blanks, AllBlank indent ∧ AllBlank blanks ∧ line = indent ++ text ++ blanks := by
  constructor
  · rintro rfl
    obtain ⟨indent, hindent, hstart⟩ := exists_trimStart line
    obtain ⟨blanks, hblanks, hend⟩ := exists_trimEnd (trimStart line)
    refine ⟨indent, blanks, hindent, hblanks, ?_⟩
    rw [trim, List.append_assoc, ← hend, ← hstart]
  · rintro ⟨indent, blanks, hindent, hblanks, rfl⟩
    rw [trim_append hblanks, trim, trimStart_append hindent, h.start, h.stop]

/-! ## Lines -/

/-- What was read of a line goes on to the next line feed, and reading starts anew behind it. -/
theorem linesFrom_append {line : List Char} (h : '\n' ∉ line) (read rest : List Char) :
    linesFrom read (line ++ '\n' :: rest) = dropReturn (read.reverse ++ line) :: linesFrom [] rest := by
  induction line generalizing read with
  | nil => rw [List.nil_append, linesFrom, if_pos rfl, List.append_nil]
  | cons c line ih =>
    have hc : c ≠ '\n' := fun hc => h (hc ▸ List.mem_cons_self)
    rw [List.cons_append, linesFrom, if_neg hc, ih fun hmem => h (List.mem_cons_of_mem c hmem),
      List.reverse_cons, List.append_assoc, List.singleton_append]

/-- Without a line feed, what was read and what is left are one line. -/
theorem linesFrom_of_notMem {line : List Char} (h : '\n' ∉ line) {read : List Char}
    (hne : read ≠ [] ∨ line ≠ []) : linesFrom read line = [read.reverse ++ line] := by
  induction line generalizing read with
  | nil =>
    have hread : read.isEmpty = false := by simpa using hne
    rw [linesFrom, hread, List.append_nil]
    rfl
  | cons c line ih =>
    have hc : c ≠ '\n' := fun hc => h (hc ▸ List.mem_cons_self)
    rw [linesFrom, if_neg hc, ih (fun hmem => h (List.mem_cons_of_mem c hmem)) (.inl (by simp)),
      List.reverse_cons, List.append_assoc, List.singleton_append]

/-- A line ends at the first line feed. -/
theorem lines_append {line : List Char} (h : '\n' ∉ line) (rest : List Char) :
    lines (line ++ '\n' :: rest) = dropReturn line :: lines rest := linesFrom_append h [] rest

/-- What no line feed ends is a line when it is not empty. -/
theorem lines_of_notMem {line : List Char} (h : '\n' ∉ line) (hne : line ≠ []) : lines line = [line] :=
  linesFrom_of_notMem h (.inr hne)

/-- Nothing comes into a line by dropping the return at its end. -/
theorem mem_of_mem_dropReturn {line : List Char} {c : Char} (h : c ∈ dropReturn line) : c ∈ line := by
  rw [dropReturn] at h
  split at h
  · exact List.mem_of_mem_dropLast h
  · exact h

/-- No line holds a line feed, as long as none is in what was read. -/
theorem notMem_of_mem_linesFrom {read text line : List Char} (hread : '\n' ∉ read)
    (h : line ∈ linesFrom read text) : '\n' ∉ line := by
  induction text generalizing read with
  | nil =>
    rw [linesFrom] at h
    split at h
    · cases h
    · rw [List.mem_singleton.1 h, List.mem_reverse]
      exact hread
  | cons c rest ih =>
    rw [linesFrom] at h
    split at h
    · -- What has been read is a line now, perhaps without its carriage return.
      rcases List.mem_cons.1 h with rfl | h
      · exact fun hmem => hread (List.mem_reverse.1 (mem_of_mem_dropReturn hmem))
      · exact ih List.not_mem_nil h
    · rename_i hc
      refine ih (fun hmem => ?_) h
      rcases List.mem_cons.1 hmem with hmem | hmem
      · exact hc hmem.symm
      · exact hread hmem

/-- No line holds a line feed. -/
theorem notMem_of_mem_lines {text line : List Char} (h : line ∈ lines text) : '\n' ∉ line :=
  notMem_of_mem_linesFrom List.not_mem_nil h

/-! ## Joining lines -/

/-- Whether a line feed ends the text. -/
def isClosed (text : List Char) : Bool := text.getLast? = some '\n'

/-- The lines with line feeds between them, and one after the last when the text is to be closed. -/
def join (closed : Bool) (lines : List (List Char)) : List Char :=
  List.intercalate ['\n'] lines ++ if closed then ['\n'] else []

/-- A line feed stands behind every line but the last. -/
theorem join_cons (closed : Bool) (line : List Char) {rest : List (List Char)} (h : rest ≠ []) :
    join closed (line :: rest) = line ++ '\n' :: join closed rest := by
  obtain ⟨next, more, rfl⟩ := List.exists_cons_of_ne_nil h
  rw [join, List.intercalate_cons_cons, List.append_assoc, List.append_assoc, List.singleton_append]
  rfl

/-- Joining puts nothing but line feeds between the lines. -/
theorem notMem_join {c : Char} (hc : c ≠ '\n') {closed : Bool} {ls : List (List Char)}
    (h : ∀ line ∈ ls, c ∉ line) : c ∉ join closed ls := by
  induction ls with
  | nil => cases closed <;> simp [join, hc]
  | cons line rest ih =>
    obtain ⟨hline, hrest⟩ := List.forall_mem_cons.1 h
    by_cases hempty : rest = []
    · subst hempty
      cases closed <;> simp [join, hc, hline]
    · rw [join_cons closed line hempty]
      simp [hline, hc, ih hrest]

/-- A join of these lines has them as its lines again: an open text ends with a line that is not empty. -/
def Joinable (closed : Bool) (lines : List (List Char)) : Prop :=
  if closed then lines ≠ [] else lines.getLast? ≠ some []

/-- Lines in the place of others can be joined when they do not end with an empty one. -/
theorem Joinable.replace {closed : Bool} {before old new after : List (List Char)}
    (h : Joinable closed (before ++ (old ++ after))) (hne : new ≠ []) (hlast : new.getLast? ≠ some []) :
    Joinable closed (before ++ (new ++ after)) := by
  cases closed with
  | true => exact List.append_ne_nil_of_right_ne_nil _ (List.append_ne_nil_of_left_ne_nil hne _)
  | false =>
    show (before ++ (new ++ after)).getLast? ≠ some []
    -- The last line is the last of the new ones, or that of what follows, which stays.
    by_cases hafter : after = []
    · rw [hafter, List.append_nil, List.getLast?_append_of_ne_nil _ hne]
      exact hlast
    · have hsame : ∀ middle : List (List Char),
          (before ++ (middle ++ after)).getLast? = after.getLast? := by
        intro middle
        rw [← List.append_assoc, List.getLast?_append_of_ne_nil _ hafter]
      have hold : (before ++ (old ++ after)).getLast? ≠ some [] := h
      rw [hsame] at hold ⊢
      exact hold

/-- The line as it is read again after it was written: a return at its end may be lost. -/
def Reread (line read : List Char) : Prop := read = line ∨ read = dropReturn line

/-- Joined lines are read again, one by one. -/
theorem reread_lines {closed : Bool} {ls : List (List Char)} (hfeeds : ∀ line ∈ ls, '\n' ∉ line)
    (h : Joinable closed ls) : List.Forall₂ Reread ls (lines (join closed ls)) := by
  induction ls with
  | nil =>
    cases closed with
    | true => exact absurd rfl h
    | false => exact .nil
  | cons line rest ih =>
    obtain ⟨hline, hrest⟩ := List.forall_mem_cons.1 hfeeds
    by_cases hempty : rest = []
    · subst hempty
      cases closed with
      | true =>
        have hjoin : join true [line] = line ++ '\n' :: [] := by
          rw [join, List.intercalate_singleton]
          rfl
        rw [hjoin, lines_append hline]
        exact .cons (.inr rfl) .nil
      | false =>
        have hne : line ≠ [] := by simpa [Joinable] using h
        have hjoin : join false [line] = line := by
          rw [join, List.intercalate_singleton]
          exact List.append_nil line
        rw [hjoin, lines_of_notMem hline hne]
        exact .cons (.inl rfl) .nil
    · -- The last line of the rest is the last of all.
      have hjoinable : Joinable closed rest := by
        cases closed with
        | true => exact hempty
        | false =>
          have hlast : (line :: rest).getLast? ≠ some [] := h
          rwa [List.getLast?_cons_of_ne_nil hempty] at hlast
      rw [join_cons closed line hempty, lines_append hline]
      exact .cons (.inr rfl) (ih hrest hjoinable)

/-- A line without a return loses nothing. -/
theorem dropReturn_of_notMem {line : List Char} (h : '\r' ∉ line) : dropReturn line = line := by
  rw [dropReturn, if_neg]
  intro hlast
  exact h (List.mem_of_getLast? hlast)

/-- The return at the end of a line is one of the blanks there. -/
theorem trimEnd_dropReturn (line : List Char) : trimEnd (dropReturn line) = trimEnd line := by
  rw [dropReturn]
  split
  · rename_i hlast
    obtain ⟨start, rfl⟩ := List.getLast?_eq_some_iff.1 hlast
    have hreturn : AllBlank ['\r'] := by simp [AllBlank, isBlank]
    rw [List.dropLast_concat, trimEnd_append hreturn]
  · rfl

/-- Joined lines are read again with the same texts, blanks at their ends apart. -/
theorem map_trimEnd_lines_join {closed : Bool} {ls : List (List Char)}
    (hfeeds : ∀ line ∈ ls, '\n' ∉ line) (h : Joinable closed ls) :
    (lines (join closed ls)).map trimEnd = ls.map trimEnd := by
  have hreread := reread_lines hfeeds h
  generalize lines (join closed ls) = read at hreread
  clear hfeeds h
  induction hreread with
  | nil => rfl
  | cons hline _ ih =>
    rw [List.map_cons, List.map_cons, ih]
    rcases hline with rfl | rfl
    · rfl
    · rw [trimEnd_dropReturn]

/-- Without carriage returns, joined lines are read again as they were. -/
theorem lines_join {closed : Bool} {ls : List (List Char)} (hfeeds : ∀ line ∈ ls, '\n' ∉ line)
    (hreturns : ∀ line ∈ ls, '\r' ∉ line) (h : Joinable closed ls) : lines (join closed ls) = ls := by
  have hreread := reread_lines hfeeds h
  suffices hsame : ∀ {ls read : List (List Char)}, (∀ line ∈ ls, '\r' ∉ line) →
      List.Forall₂ Reread ls read → read = ls from hsame hreturns hreread
  intro ls read hreturns hread
  induction hread with
  | nil => rfl
  | cons hline _ ih =>
    obtain ⟨hreturn, hrest⟩ := List.forall_mem_cons.1 hreturns
    rw [ih hrest]
    rcases hline with rfl | rfl
    · rfl
    · rw [dropReturn_of_notMem hreturn]

/-! ## Texts and their lines -/

/-- Whether a text is closed is told by its end alone. -/
theorem isClosed_cons (c : Char) {rest : List Char} (h : rest ≠ []) :
    isClosed (c :: rest) = isClosed rest := by
  rw [isClosed, isClosed, List.getLast?_cons_of_ne_nil h]

/-- A text that is not empty has lines. -/
theorem linesFrom_ne_nil {read text : List Char} (h : read ≠ [] ∨ text ≠ []) :
    linesFrom read text ≠ [] := by
  induction text generalizing read with
  | nil =>
    have hread : read.isEmpty = false := by simpa using h
    simp [linesFrom, hread]
  | cons c rest ih =>
    rw [linesFrom]
    split
    · exact List.cons_ne_nil _ _
    · exact ih (.inl (List.cons_ne_nil _ _))

/-- The lines of a text can be joined again, whatever was read of the first one. -/
theorem joinable_linesFrom (read text : List Char) :
    Joinable (isClosed text) (linesFrom read text) := by
  induction text generalizing read with
  | nil =>
    show (linesFrom read []).getLast? ≠ some []
    rw [linesFrom]
    split
    · simp
    · rename_i hread
      simpa using hread
  | cons c rest ih =>
    rw [linesFrom]
    -- At the last character it is decided whether a line is still open; before it, the rest decides.
    by_cases hrest : rest = []
    · subst hrest
      split
      · rename_i hc
        subst hc
        exact List.cons_ne_nil _ _
      · rename_i hc
        have hopen : isClosed [c] = isClosed [] := by simp [isClosed, hc]
        exact hopen ▸ ih (c :: read)
    · rw [isClosed_cons c hrest]
      split
      · cases hclosed : isClosed rest with
        | true => exact List.cons_ne_nil _ _
        | false =>
          have hlast : Joinable false (linesFrom [] rest) := hclosed ▸ ih []
          show (dropReturn read.reverse :: linesFrom [] rest).getLast? ≠ some []
          rw [List.getLast?_cons_of_ne_nil (linesFrom_ne_nil (.inr hrest))]
          exact hlast
      · exact ih (c :: read)

/-- The lines of a text can be joined to a text again. -/
theorem joinable_lines (text : List Char) : Joinable (isClosed text) (lines text) :=
  joinable_linesFrom [] text

/-- Joining undoes the reading of lines, and puts what was read in front. -/
theorem join_linesFrom {read text : List Char} (hread : '\r' ∉ read) (htext : '\r' ∉ text) :
    join (isClosed text) (linesFrom read text) = read.reverse ++ text := by
  induction text generalizing read with
  | nil =>
    rw [linesFrom]
    split
    · rename_i hempty
      rw [List.isEmpty_iff.1 hempty]
      rfl
    · simp [join, isClosed]
  | cons c rest ih =>
    have hc : c ≠ '\r' := fun hc => htext (hc ▸ List.mem_cons_self)
    have hrest : '\r' ∉ rest := fun hmem => htext (List.mem_cons_of_mem c hmem)
    rw [linesFrom]
    split
    · rename_i hfeed
      subst hfeed
      have hline : dropReturn read.reverse = read.reverse :=
        dropReturn_of_notMem fun hmem => hread (List.mem_reverse.1 hmem)
      rw [hline]
      -- A line feed at the end of the text closes it and begins no further line.
      by_cases hempty : rest = []
      · subst hempty
        simp [join, isClosed, linesFrom]
      · rw [isClosed_cons _ hempty, join_cons _ _ (linesFrom_ne_nil (.inr hempty)),
          ih List.not_mem_nil hrest]
        rfl
    · rename_i hfeed
      have hread' : '\r' ∉ c :: read := by
        intro hmem
        rcases List.mem_cons.1 hmem with hmem | hmem
        · exact hc hmem.symm
        · exact hread hmem
      have hclosed : isClosed (c :: rest) = isClosed rest := by
        by_cases hempty : rest = []
        · subst hempty
          simp [isClosed, hfeed]
        · exact isClosed_cons c hempty
      rw [hclosed, ih hread' hrest, List.reverse_cons, List.append_assoc, List.singleton_append]

/-- A text without carriage returns is the join of its lines. -/
theorem join_lines {text : List Char} (h : '\r' ∉ text) : join (isClosed text) (lines text) = text :=
  join_linesFrom List.not_mem_nil h

/-- Every carriage return of the text stands right before a line feed. -/
def returnsEndLines : List Char → Bool
  | [] => true
  | c :: rest => (c != '\r' || rest.head? == some '\n') && returnsEndLines rest

/-- A text without returns has none in a wrong place. -/
theorem returnsEndLines_of_notMem {text : List Char} (h : '\r' ∉ text) : returnsEndLines text := by
  induction text with
  | nil => rfl
  | cons c rest ih =>
    have hc : c ≠ '\r' := fun hc => h (hc ▸ List.mem_cons_self)
    simp [returnsEndLines, hc, ih fun hmem => h (List.mem_cons_of_mem c hmem)]

/-- What has been read of a line holds no return, or one at its end with the line feed to come. -/
theorem noReturn_of_mem_linesFrom {read text line : List Char} (htext : returnsEndLines text)
    (hread : '\r' ∉ read ∨ ∃ start, read = '\r' :: start ∧ '\r' ∉ start ∧ text.head? = some '\n')
    (h : line ∈ linesFrom read text) : '\r' ∉ line := by
  induction text generalizing read with
  | nil =>
    obtain hread | ⟨start, -, -, hhead⟩ := hread
    · rw [linesFrom] at h
      split at h
      · cases h
      · rw [List.mem_singleton.1 h, List.mem_reverse]
        exact hread
    · cases hhead
  | cons c rest ih =>
    obtain ⟨hc, hrest⟩ := Bool.and_eq_true_iff.1 htext
    rw [linesFrom] at h
    split at h
    · rcases List.mem_cons.1 h with rfl | h
      · -- The line ends here, so a return that was read last is dropped.
        obtain hread | ⟨start, rfl, hstart, -⟩ := hread
        · exact fun hmem => hread (List.mem_reverse.1 (mem_of_mem_dropReturn hmem))
        · have hdrop : dropReturn ('\r' :: start).reverse = start.reverse := by
            simp [dropReturn]
          rwa [hdrop, List.mem_reverse]
      · exact ih hrest (.inl List.not_mem_nil) h
    · rename_i hfeed
      obtain hread | ⟨start, -, -, hhead⟩ := hread
      · refine ih hrest ?_ h
        -- A return is read only where a line feed comes next, which the invariant takes along.
        by_cases hreturn : c = '\r'
        · subst hreturn
          exact .inr ⟨read, rfl, hread, by simpa using hc⟩
        · refine .inl fun hmem => ?_
          rcases List.mem_cons.1 hmem with hmem | hmem
          · exact hreturn hmem.symm
          · exact hread hmem
      · exact absurd (Option.some.inj hhead) hfeed

/-- Where returns stand before line feeds only, no line holds one. -/
theorem noReturn_of_mem_lines {text line : List Char} (htext : returnsEndLines text)
    (h : line ∈ lines text) : '\r' ∉ line :=
  noReturn_of_mem_linesFrom htext (.inl List.not_mem_nil) h

end ActionForge.Text
