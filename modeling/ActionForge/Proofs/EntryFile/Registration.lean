import ActionForge.Proofs.EntryFile.Header

/-!
# What registering does to lines

Registering an action adds its two lines where they are missing and keeps all other lines of actions. The
header that the action is listed under may be opened, but it stays a header (`exists_headerWith`), so the
file keeps its sections. Each of the two steps is an `Adds`, and registering is one after the other
(`exists_adds_of_registerLines`). It fails only where the action is not listed and its section has no header
(`isSome_registerLines`).
-/

namespace ActionForge.EntryFile

open Text

/-! ## Opening headers -/

/-- The two parts that a line is split into, put around empty braces, give the line back. -/
theorem eq_of_splitEmptyBraces? {line before after : List Char}
    (h : splitEmptyBraces? line = some (before, after)) : line = before ++ '\x7b' :: '\x7d' :: after := by
  induction line generalizing before with
  | nil => cases h
  | cons c rest ih =>
    rw [splitEmptyBraces?] at h
    split at h
    · -- The last braces stand in the rest of the line.
      rename_i before' after' hrest
      obtain ⟨rfl, rfl⟩ := Prod.mk.inj (Option.some.inj h)
      rw [ih hrest]
      rfl
    · -- The rest has none, so the line starts with them.
      obtain ⟨after', hdrop, hsame⟩ := Option.map_eq_some_iff.1 h
      obtain ⟨rfl, rfl⟩ := Prod.mk.inj hsame
      rw [dropStart?_eq_some_iff.1 hdrop]
      rfl

/-- The line that lists an action below a header, two blanks further in. -/
def entryBelow (entry : List Char) (header : Line) : Line :=
  (trimEnd header).takeWhile isBlank ++ [' ', ' '] ++ entry

/-- A header without empty braces keeps its text and gets the entry below it. -/
theorem headerWith_of_none {header : Line} (entry : List Char)
    (h : splitEmptyBraces? (trimEnd header) = none) :
    headerWith entry header = [header, entryBelow entry header] := by
  rw [headerWith, h, entryBelow]

/-- The last empty braces of a header are opened, with the entry between them on a line of its own. -/
theorem headerWith_of_some {header : Line} {before after : List Char} (entry : List Char)
    (h : splitEmptyBraces? (trimEnd header) = some (before, after)) :
    headerWith entry header = [before ++ ['\x7b'], entryBelow entry header,
      (trimEnd header).takeWhile isBlank ++ '\x7d' :: after] := by
  rw [headerWith, h, entryBelow]
  simp only [List.append_assoc, List.singleton_append]

/-- The indented line holds the entry and the text of no other action. -/
theorem isLine_entryBelow {entry : List Char} (h : Listing entry) (header : Line) (text : List Char) :
    isLine text (entryBelow entry header) ↔ text = entry :=
  h.eq_of_isLine (allBlank_append (allBlank_takeWhile _) (by simp [AllBlank, isBlank]))

/-- A header whose braces are opened stays a header. -/
theorem isHeader_opened {header : Line} {before after : List Char}
    (h : splitEmptyBraces? (trimEnd header) = some (before, after)) (kind : ActionKind) :
    isHeader kind.sectionName.toList (before ++ ['\x7b']) = isHeader kind.sectionName.toList header := by
  obtain ⟨blanks, hblanks, hheader⟩ := exists_trimEnd header
  rw [hheader, isHeader_append_blanks kind _ hblanks, eq_of_splitEmptyBraces? h]
  exact isHeader_brace_congr kind before [] ('\x7d' :: after)

/-- What takes the place of a header is a header of the same sections, the entry below it, and perhaps a
line that closes the object. -/
theorem exists_headerWith (entry : List Char) (header : Line) :
    ∃ opened closing, headerWith entry header = opened :: entryBelow entry header :: closing ∧
      (∀ kind : ActionKind, isHeader kind.sectionName.toList opened =
        isHeader kind.sectionName.toList header) ∧
      (closing = [] ∨ ∃ outer after, AllBlank outer ∧ closing = [outer ++ '\x7d' :: after]) := by
  cases hsplit : splitEmptyBraces? (trimEnd header) with
  | none => exact ⟨_, _, headerWith_of_none entry hsplit, fun _ => rfl, .inl rfl⟩
  | some split =>
    exact ⟨_, _, headerWith_of_some entry hsplit, isHeader_opened hsplit,
      .inr ⟨_, _, allBlank_takeWhile _, rfl⟩⟩

/-- Putting an entry below a header neither adds a header of any section nor removes one. -/
theorem any_isHeader_headerWith {entry : List Char} (hentry : Listing entry) (header : Line)
    (kind : ActionKind) :
    (headerWith entry header).any (isHeader kind.sectionName.toList) =
      isHeader kind.sectionName.toList header := by
  obtain ⟨opened, closing, heq, hopened, hclosing⟩ := exists_headerWith entry header
  have hlisted := hentry.not_isHeader ((isLine_entryBelow hentry header entry).2 rfl) kind
  rw [heq, List.any_cons, List.any_cons, hopened, hlisted]
  obtain rfl | ⟨outer, after, houter, rfl⟩ := hclosing
  · simp
  · simp [not_isHeader_closing houter]

/-- A header holds no line of an action, and what takes its place holds the entry alone. -/
theorem countP_isLine_headerWith {entry text : List Char} (hentry : Listing entry) (htext : Listing text)
    {header : Line} {kind : ActionKind} (hheader : isHeader kind.sectionName.toList header) :
    (headerWith entry header).countP (isLine text) = if text = entry then 1 else 0 := by
  obtain ⟨opened, closing, heq, hopened, hclosing⟩ := exists_headerWith entry header
  have hnot : isLine text opened = false := htext.not_isLine_header (hopened kind ▸ hheader)
  have hclose : closing.countP (isLine text) = 0 := by
    obtain rfl | ⟨outer, after, houter, rfl⟩ := hclosing
    · rfl
    · simp [not_isLine_closing houter after htext]
  rw [heq, List.countP_cons, List.countP_cons, hclose, hnot]
  simp [isLine_entryBelow hentry header]

/-- An action is listed below the first header of its section, and nothing else changes. -/
theorem exists_of_addBelowHeader {name entry : List Char} {lines grown : List Line}
    (h : addBelowHeader name entry lines = some grown) :
    ∃ above header below, lines = above ++ header :: below ∧ above.any (isHeader name) = false ∧
      isHeader name header ∧ grown = above ++ (headerWith entry header ++ below) := by
  induction lines generalizing grown with
  | nil => cases h
  | cons line rest ih =>
    rw [addBelowHeader] at h
    split at h
    · rename_i hline
      exact ⟨[], line, rest, rfl, rfl, hline, (Option.some.inj h).symm⟩
    · rename_i hline
      obtain ⟨more, hmore, rfl⟩ := Option.map_eq_some_iff.1 h
      obtain ⟨above, header, below, rfl, habove, hheader, rfl⟩ := ih hmore
      refine ⟨line :: above, header, below, rfl, ?_, hheader, rfl⟩
      rw [List.any_cons, habove, Bool.or_false]
      exact Bool.eq_false_iff.2 hline

/-- The entry finds a place exactly where the section has a header. -/
theorem isSome_addBelowHeader {name entry : List Char} {lines : List Line} :
    (addBelowHeader name entry lines).isSome = lines.any (isHeader name) := by
  induction lines with
  | nil => rfl
  | cons line rest ih =>
    rw [addBelowHeader, List.any_cons]
    split
    · rename_i hline
      rw [hline]
      rfl
    · rename_i hline
      rw [Bool.not_eq_true] at hline
      rw [Option.isSome_map, ih, hline, Bool.false_or]

/-! ## Adding a line of an action -/

/-- Some line has a property when the number of those that have it is positive. -/
theorem any_iff_countP {p : Line → Bool} {lines : List Line} : lines.any p ↔ 0 < lines.countP p := by
  rw [List.any_eq_true, List.countP_pos_iff]

/-- The lines with the line of an action added where it is missing: the other lines of actions and the
sections stay, and so does what the lines need to be read again. -/
structure Adds (added : List Char) (lines grown : List Line) : Prop where
  headers : ∀ kind : ActionKind,
    grown.any (isHeader kind.sectionName.toList) = lines.any (isHeader kind.sectionName.toList)
  counts : ∀ text, Listing text → grown.countP (isLine text) =
    if text = added then max 1 (lines.countP (isLine text)) else lines.countP (isLine text)
  ends : ∀ c ∈ ['\n', '\r'], (∀ line ∈ lines, c ∉ line) → ∀ line ∈ grown, c ∉ line
  joinable : ∀ closed, Joinable closed lines → Joinable closed grown

/-- The characters that end a line are marks, so no action holds them. -/
theorem isMark_of_end {c : Char} (h : c ∈ ['\n', '\r']) : isMark c := by
  rcases List.mem_cons.1 h with rfl | h
  · rfl
  · obtain rfl := List.mem_singleton.1 h
    rfl

namespace Adds

variable {added : List Char} {lines : List Line}

/-- A line that is there already is not added again. -/
theorem of_any (h : lines.any (isLine added)) : Adds added lines lines where
  headers _ := rfl
  counts text _ := by
    split
    · rename_i hsame
      have hpos := any_iff_countP.1 h
      rw [hsame, Nat.max_eq_right hpos]
    · rfl
  ends _ _ := id
  joinable _ := id

/-- A missing line is there once when it was added. -/
theorem countP_eq_one {grown : List Line} (h : Adds added lines grown) (hadded : Listing added)
    (hmissing : lines.any (isLine added) = false) : grown.countP (isLine added) = 1 := by
  have hzero := List.countP_eq_zero.2 (List.any_eq_false.1 hmissing)
  rw [h.counts _ hadded, if_pos rfl, hzero]
  rfl

/-- Some lines are put in the place of others, the missing line among them. -/
theorem of_replace {before old new after : List Line}
    (hmissing : (before ++ (old ++ after)).any (isLine added) = false)
    (hheaders : ∀ kind : ActionKind,
      new.any (isHeader kind.sectionName.toList) = old.any (isHeader kind.sectionName.toList))
    (hcounts : ∀ text, Listing text →
      new.countP (isLine text) = old.countP (isLine text) + if text = added then 1 else 0)
    (hends : ∀ c ∈ ['\n', '\r'], (∀ line ∈ old, c ∉ line) → ∀ line ∈ new, c ∉ line)
    (hne : new ≠ []) (hlast : new.getLast? ≠ some []) :
    Adds added (before ++ (old ++ after)) (before ++ (new ++ after)) where
  headers kind := by
    simp only [List.any_append, hheaders]
  counts text htext := by
    have hcount : (before ++ (new ++ after)).countP (isLine text) =
        (before ++ (old ++ after)).countP (isLine text) + if text = added then 1 else 0 := by
      simp only [List.countP_append, hcounts text htext]
      omega
    rw [hcount]
    split
    · -- No line held the missing text before, so now one does.
      rename_i hsame
      have hzero := List.countP_eq_zero.2 (List.any_eq_false.1 hmissing)
      rw [← hsame] at hzero
      rw [hzero]
      rfl
    · rfl
  ends c hc h := by
    have hall := List.forall_mem_append.1 h
    have hrest := List.forall_mem_append.1 hall.2
    exact List.forall_mem_append.2 ⟨hall.1, List.forall_mem_append.2 ⟨hends c hc hrest.1, hrest.2⟩⟩
  joinable _ h := h.replace hne hlast

end Adds

/-- The line of an action is never empty. -/
theorem Listing.ne_nil {text : List Char} (h : Listing text) : text ≠ [] := by
  obtain ⟨rest, rfl⟩ | ⟨rest, rfl⟩ := h.start
  · exact List.cons_ne_nil _ _
  · exact List.cons_ne_nil _ _

/-- The lines above the place for the line that requires a module. -/
def aboveRequire (lines : List Line) : List Line := lines.take (requirePlace lines)

/-- A missing line that requires a module is put in at the place for such lines. -/
theorem addRequire_of_missing {text : List Char} {lines : List Line}
    (h : lines.any (isLine text) = false) :
    addRequire text lines = aboveRequire lines ++ text :: lines.drop (requirePlace lines) := by
  rw [addRequire, h, if_neg Bool.false_ne_true]
  rfl

/-- The lines above the place for a `require` and those below it are all lines. -/
theorem aboveRequire_append (lines : List Line) :
    aboveRequire lines ++ lines.drop (requirePlace lines) = lines := List.take_append_drop _ _

/-- Adding the line that requires a module adds it once, at the place for such lines. -/
theorem adds_addRequire {added : List Char} (h : Listing added) (lines : List Line) :
    Adds added lines (addRequire added lines) := by
  cases hmissing : lines.any (isLine added) with
  | true =>
    rw [addRequire, if_pos hmissing]
    exact .of_any hmissing
  | false =>
    rw [addRequire_of_missing hmissing]
    -- One line is put in the place of none, so it is the only one that matters to the counts.
    have hself : ∀ text, isLine text added ↔ text = added := fun text => h.eq_of_isLine allBlank_nil
    have hadds : Adds added (aboveRequire lines ++ ([] ++ lines.drop (requirePlace lines)))
        (aboveRequire lines ++ ([added] ++ lines.drop (requirePlace lines))) := by
      refine .of_replace ?_ (fun kind => ?_) (fun text _ => ?_) (fun c hc _ => ?_)
        (List.cons_ne_nil _ _) ?_
      · rwa [List.nil_append, aboveRequire_append]
      · simp [h.not_isHeader h.isLine_self kind]
      · simp [List.countP_cons, hself]
      · have hend : c ∉ added := h.notMem (isMark_of_end hc)
        simpa using hend
      · simpa using h.ne_nil
    rwa [List.nil_append, aboveRequire_append] at hadds

/-- No line ends within the lines that take the place of a header. -/
theorem notMem_of_mem_headerWith {entry : List Char} {header line : Line} {c : Char}
    (hc : c ∈ ['\n', '\r']) (hentry : c ∉ entry) (hheader : c ∉ header)
    (h : line ∈ headerWith entry header) : c ∉ line := by
  -- None of the characters that registering writes by itself ends a line.
  obtain ⟨hspace, hopen, hclose⟩ : c ≠ ' ' ∧ c ≠ '\x7b' ∧ c ≠ '\x7d' := by
    rcases List.mem_cons.1 hc with rfl | hc
    · decide
    · obtain rfl := List.mem_singleton.1 hc
      decide
  obtain ⟨blanks, -, hend⟩ := exists_trimEnd header
  have htrim : c ∉ trimEnd header := by
    intro hmem
    exact hheader (hend ▸ List.mem_append_left blanks hmem)
  have hindent : c ∉ (trimEnd header).takeWhile isBlank :=
    fun hmem => htrim ((List.takeWhile_prefix isBlank).mem hmem)
  rw [headerWith] at h
  split at h
  · rename_i before after hsplit
    rw [eq_of_splitEmptyBraces? hsplit] at htrim
    simp only [List.mem_cons, List.mem_append, not_or] at htrim
    simp only [List.mem_cons, List.not_mem_nil, or_false] at h
    rcases h with rfl | rfl | rfl
    · simp [htrim.1, hopen]
    · simp [hindent, hspace, hentry]
    · simp [hindent, hclose, htrim.2.2.2]
  · simp only [List.mem_cons, List.not_mem_nil, or_false] at h
    rcases h with rfl | rfl
    · exact hheader
    · simp [hindent, hspace, hentry]

/-- Adding an entry adds its line, where the section has a header. -/
theorem adds_addEntry {added : List Char} (h : Listing added) {kind : ActionKind}
    {lines grown : List Line} (hgrown : addEntry kind.sectionName.toList added lines = some grown) :
    Adds added lines grown := by
  rw [addEntry] at hgrown
  split at hgrown
  · rename_i hany
    obtain rfl := Option.some.inj hgrown
    exact .of_any hany
  · rename_i hmissing
    obtain ⟨above, header, below, rfl, -, hheader, rfl⟩ := exists_of_addBelowHeader hgrown
    obtain ⟨opened, closing, heq, -, hclosing⟩ := exists_headerWith added header
    show Adds added (above ++ ([header] ++ below)) (above ++ (headerWith added header ++ below))
    refine .of_replace (Bool.eq_false_iff.2 hmissing) (fun kind' => ?_) (fun text htext => ?_)
      (fun c hc hold line hline => ?_) ?_ ?_
    · rw [any_isHeader_headerWith h]
      simp
    · rw [countP_isLine_headerWith h htext hheader]
      simp [htext.not_isLine_header hheader]
    · -- The new lines are made of the header, the entry, blanks and braces.
      exact notMem_of_mem_headerWith hc (h.notMem (isMark_of_end hc))
        (hold header List.mem_cons_self) hline
    · rw [heq]
      exact List.cons_ne_nil _ _
    · rw [heq]
      obtain rfl | ⟨outer, rest, -, rfl⟩ := hclosing
      · simp [entryBelow]
      · simp

/-! ## Registering -/

/-- The two lines of actions are never the same, whatever their kinds and keys. -/
theorem requireLine_ne_entryLine (kind kind' : ActionKind) (key key' : String) :
    (requireLine kind key).toList ≠ (entryLine kind' key').toList := by
  rw [toList_requireLine, toList_entryLine]
  intro h
  exact absurd (List.cons.inj h).1 (by decide)

variable {kind : ActionKind} {key : String}

/-- Registering adds the line that requires the module and then the entry. -/
theorem exists_adds_of_registerLines (hkey : isName key) {lines grown : List Line}
    (h : registerLines kind key lines = some grown) :
    ∃ required, Adds (requireLine kind key).toList lines required ∧
      Adds (entryLine kind key).toList required grown :=
  ⟨_, adds_addRequire (.require kind hkey) lines, adds_addEntry (.entry kind hkey) h⟩

/-- Registering succeeds where the action is listed or its section has a header. -/
theorem isSome_registerLines (hkey : isName key) {lines : List Line} :
    (registerLines kind key lines).isSome ↔
      lines.any (isLine (entryLine kind key).toList) ∨
        lines.any (isHeader kind.sectionName.toList) := by
  -- The line that requires the module is neither the entry nor a header.
  have hrequired := adds_addRequire (.require kind hkey) lines
  have hcount := hrequired.counts _ (.entry kind hkey)
  rw [if_neg (requireLine_ne_entryLine kind kind key key).symm] at hcount
  rw [any_iff_countP, ← hcount, ← any_iff_countP, ← hrequired.headers, registerLines, addEntry]
  split
  · rename_i hany
    simp [hany]
  · rename_i hmissing
    rw [isSome_addBelowHeader]
    simp [hmissing]

/-- Where both lines are there, registering changes no line. -/
theorem registerLines_of_any {lines : List Line}
    (hrequire : lines.any (isLine (requireLine kind key).toList))
    (hentry : lines.any (isLine (entryLine kind key).toList)) :
    registerLines kind key lines = some lines := by
  rw [registerLines, addRequire, if_pos hrequire, addEntry, if_pos hentry]

/-! ## The text of the file -/

variable {source text : String}

/-- Registering in a text is registering in its lines and joining them. -/
theorem register_eq_some_iff : register source kind key = some text ↔
    ∃ grown, registerLines kind key (lines source.toList) = some grown ∧
      text.toList = join (isClosed source.toList) grown := by
  have hjoin : ∀ grown, joinLike source.toList grown = join (isClosed source.toList) grown := by
    intro grown
    rw [joinLike, join, isClosed]
    simp only [decide_eq_true_eq]
  rw [register, Option.map_eq_some_iff]
  refine exists_congr fun grown => and_congr_right fun _ => ?_
  rw [hjoin]
  constructor
  · rintro rfl
    exact String.toList_ofList
  · intro h
    rw [← h, String.ofList_toList]

/-- Registering in a text succeeds where it succeeds in its lines. -/
theorem isSome_register : (register source kind key).isSome =
    (registerLines kind key (lines source.toList)).isSome := by
  rw [register, Option.isSome_map]

/-- The lines of the registered text are the registered lines, blanks at their ends apart. -/
theorem map_trimEnd_registerLines (hkey : isName key) {grown : List Line}
    (h : registerLines kind key (lines source.toList) = some grown) :
    (lines (join (isClosed source.toList) grown)).map trimEnd = grown.map trimEnd := by
  obtain ⟨required, hrequire, hentry⟩ := exists_adds_of_registerLines hkey h
  refine map_trimEnd_lines_join ?_ (hentry.joinable _ (hrequire.joinable _ (joinable_lines _)))
  exact hentry.ends _ (by simp) (hrequire.ends _ (by simp) fun _ => notMem_of_mem_lines)

/-- Where returns stand before line feeds only, they are gone, and the lines are the registered lines. -/
theorem registerLines_of_register (hkey : isName key) (hreturns : returnsEndLines source.toList)
    (h : register source kind key = some text) :
    registerLines kind key (lines source.toList) = some (lines text.toList) ∧ '\r' ∉ text.toList := by
  obtain ⟨grown, hgrown, htext⟩ := register_eq_some_iff.1 h
  obtain ⟨required, hrequire, hentry⟩ := exists_adds_of_registerLines hkey hgrown
  have hends : ∀ c ∈ ['\n', '\r'], (∀ line ∈ lines source.toList, c ∉ line) →
      ∀ line ∈ grown, c ∉ line :=
    fun c hc hlines => hentry.ends c hc (hrequire.ends c hc hlines)
  have hreturn := hends '\r' (by simp) fun _ => noReturn_of_mem_lines hreturns
  have hlines := lines_join (hends '\n' (by simp) fun _ => notMem_of_mem_lines) hreturn
    (hentry.joinable _ (hrequire.joinable _ (joinable_lines source.toList)))
  rw [htext, hlines]
  exact ⟨hgrown, notMem_join (by decide) hreturn⟩

/-- Where both lines are there and no returns, registering changes nothing. -/
theorem register_of_any (hreturns : '\r' ∉ source.toList)
    (hrequire : (lines source.toList).any (isLine (requireLine kind key).toList))
    (hentry : (lines source.toList).any (isLine (entryLine kind key).toList)) :
    register source kind key = some source :=
  register_eq_some_iff.2 ⟨_, registerLines_of_any hrequire hentry, (join_lines hreturns).symm⟩

end ActionForge.EntryFile
