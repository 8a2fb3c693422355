import ActionForge.Proofs.EntryFile.Registration

/-!
# Registering only adds

Registering reads a file line by line and writes the lines anew, so it may change line ends, blanks at the
end of a header and the line breaks of a header with empty braces. Nothing else changes: blanks apart, the
new text is the old one with each of the two lines put in as one block, where it was missing
(`register_only_adds`). The line that requires the module goes below the `require` lines above the exports.
-/

namespace ActionForge

/-! ## Texts without their blanks -/

namespace Text

/-- The characters of a text that are not blank. -/
def unspaced (text : List Char) : List Char := text.filter fun c => !isBlank c

/-- Dropping blanks from two texts in a row is dropping them from each. -/
theorem unspaced_append (first second : List Char) :
    unspaced (first ++ second) = unspaced first ++ unspaced second := List.filter_append ..

/-- Nothing is left of blanks. -/
theorem unspaced_of_allBlank {blanks : List Char} (h : AllBlank blanks) : unspaced blanks = [] :=
  List.filter_eq_nil_iff.2 fun c hc => by simpa using h c hc

/-- The end of a line that trimming drops is blank. -/
theorem unspaced_trimEnd (text : List Char) : unspaced (trimEnd text) = unspaced text := by
  obtain ⟨blanks, hblanks, htext⟩ := exists_trimEnd text
  conv_rhs => rw [htext, unspaced_append, unspaced_of_allBlank hblanks, List.append_nil]

/-- A return before a line feed is blank, so dropping it drops no other character. -/
theorem unspaced_dropReturn (line : List Char) : unspaced (dropReturn line) = unspaced line := by
  rw [← unspaced_trimEnd, trimEnd_dropReturn, unspaced_trimEnd]

/-- Lines have all characters of the text but line ends, which are blank. -/
theorem unspaced_linesFrom (read text : List Char) :
    unspaced (linesFrom read text).flatten = unspaced read.reverse ++ unspaced text := by
  induction text generalizing read with
  | nil =>
    rw [linesFrom]
    split
    · rename_i hempty
      rw [List.isEmpty_iff.1 hempty]
      rfl
    · simp [unspaced]
  | cons c rest ih =>
    rw [linesFrom]
    split
    · -- At a line feed the line read so far is done, and the feed itself is blank.
      rename_i hfeed
      have hc : unspaced (c :: rest) = unspaced rest := by
        rw [hfeed]
        rfl
      rw [List.flatten_cons, unspaced_append, unspaced_dropReturn, ih, hc]
      rfl
    · rw [ih, List.reverse_cons, unspaced_append, List.append_assoc, ← unspaced_append,
        List.singleton_append]

/-- Blanks apart, a text is what its lines are in a row. -/
theorem unspaced_lines (text : List Char) : unspaced (lines text).flatten = unspaced text :=
  unspaced_linesFrom [] text

/-- Joining lines adds blanks only. -/
theorem unspaced_join (closed : Bool) (ls : List (List Char)) :
    unspaced (join closed ls) = unspaced ls.flatten := by
  induction ls with
  | nil => cases closed <;> rfl
  | cons line rest ih =>
    by_cases hrest : rest = []
    · subst hrest
      rw [join, List.intercalate_singleton, unspaced_append, List.flatten_singleton]
      cases closed <;> exact List.append_nil _
    · have hfeed : unspaced ('\n' :: join closed rest) = unspaced (join closed rest) := rfl
      rw [join_cons closed line hrest, unspaced_append, hfeed, ih, List.flatten_cons, unspaced_append]

/-- An open join ends as its last line does. -/
theorem getLast?_join {ls : List (List Char)} {last : List Char} (h : ls.getLast? = some last)
    (hne : last ≠ []) : (join false ls).getLast? = last.getLast? := by
  induction ls with
  | nil => cases h
  | cons line rest ih =>
    by_cases hrest : rest = []
    · subst hrest
      obtain rfl : line = last := Option.some.inj h
      rw [join, List.intercalate_singleton]
      exact congrArg List.getLast? (List.append_nil line)
    · rw [List.getLast?_cons_of_ne_nil hrest] at h
      -- By induction the join of the rest ends as the last line does, which is not empty, so it is not empty.
      have hjoin := ih h
      have hfilled : join false rest ≠ [] := by
        intro hempty
        rw [hempty] at hjoin
        exact hne (List.getLast?_eq_none_iff.1 hjoin.symm)
      rw [join_cons false line hrest, List.getLast?_append_of_ne_nil _ (List.cons_ne_nil _ _),
        List.getLast?_cons_of_ne_nil hfilled, hjoin]

/-- A join is closed when it was asked to be. -/
theorem isClosed_join {closed : Bool} {ls : List (List Char)} (hfeeds : ∀ line ∈ ls, '\n' ∉ line)
    (h : Joinable closed ls) : isClosed (join closed ls) = closed := by
  cases closed with
  | true => simp [isClosed, join]
  | false =>
    rw [isClosed, decide_eq_false_iff_not]
    cases hlast : ls.getLast? with
    | none =>
      rw [List.getLast?_eq_none_iff.1 hlast]
      exact fun hfeed => absurd hfeed (by decide)
    | some last =>
      have hne : last ≠ [] := fun hnil => h (hlast.trans (congrArg some hnil))
      rw [getLast?_join hlast hne]
      exact fun hfeed => hfeeds last (List.mem_of_getLast? hlast) (List.mem_of_getLast? hfeed)

end Text

namespace EntryFile

open Text

/-! ## Blocks -/

/-- A block is put into the text at one place, and nothing else changes. -/
def PutIn (block text grown : List Char) : Prop :=
  ∃ before after, text = before ++ after ∧ grown = before ++ block ++ after

/-- Putting in an empty block changes nothing. -/
theorem PutIn.none (text : List Char) : PutIn [] text text := ⟨[], text, rfl, rfl⟩

/-- What stands around a text stays around it. -/
theorem PutIn.within {block text grown : List Char} (h : PutIn block text grown)
    (before after : List Char) : PutIn block (before ++ text ++ after) (before ++ grown ++ after) := by
  obtain ⟨start, rest, rfl, rfl⟩ := h
  exact ⟨before ++ start, rest ++ after, by simp, by simp⟩

/-- The block that is put in for a line, which is empty where the line is there. -/
def blockFor (text : List Char) (lines : List Line) : List Char :=
  if lines.any (isLine text) then [] else unspaced text

/-! ## Listing an action -/

/-- What takes the place of a header has the entry put in, after the header or between its empty braces. -/
theorem putIn_headerWith (entry : List Char) (header : Line) :
    PutIn (unspaced entry) (unspaced header) (unspaced (headerWith entry header).flatten) := by
  have hindent : unspaced ((trimEnd header).takeWhile isBlank) = [] :=
    unspaced_of_allBlank (allBlank_takeWhile _)
  have hbelow : unspaced (entryBelow entry header) = unspaced entry := by
    rw [entryBelow, unspaced_append, unspaced_append, hindent]
    rfl
  cases hsplit : splitEmptyBraces? (trimEnd header) with
  | none =>
    refine ⟨unspaced header, [], (List.append_nil _).symm, ?_⟩
    simp [headerWith_of_none entry hsplit, unspaced_append, hbelow]
  | some split =>
    -- The entry is put in between the brace that opens and the brace that closes.
    obtain ⟨before, after⟩ := split
    have hheader : unspaced header = unspaced (before ++ ['\x7b']) ++ unspaced ('\x7d' :: after) := by
      rw [← unspaced_trimEnd, eq_of_splitEmptyBraces? hsplit, ← unspaced_append]
      simp
    refine ⟨_, _, hheader, ?_⟩
    have hclosing : unspaced ((trimEnd header).takeWhile isBlank ++ '\x7d' :: after) =
        unspaced ('\x7d' :: after) := by
      rw [unspaced_append, hindent, List.nil_append]
    rw [headerWith_of_some entry hsplit, List.flatten_cons, List.flatten_cons, List.flatten_singleton,
      unspaced_append, unspaced_append (entryBelow entry header), hbelow, hclosing, List.append_assoc]

/-- The entry goes below a header of the first lines, and below one of the others only if the first have none.
-/
theorem addBelowHeader_append (name entry : List Char) (first second : List Line) :
    addBelowHeader name entry (first ++ second) =
      ((addBelowHeader name entry first).map (· ++ second)).or
        ((addBelowHeader name entry second).map (first ++ ·)) := by
  induction first with
  | nil => simp [addBelowHeader]
  | cons line rest ih =>
    rw [List.cons_append, addBelowHeader, addBelowHeader]
    split
    · simp
    · rw [ih]
      cases addBelowHeader name entry rest <;> cases addBelowHeader name entry second <;> simp

/-- Listing an action puts in its entry at one place and keeps the rest, blanks apart. -/
theorem putIn_addBelowHeader {name entry : List Char} {lines grown : List Line}
    (h : addBelowHeader name entry lines = some grown) :
    PutIn (unspaced entry) (unspaced lines.flatten) (unspaced grown.flatten) := by
  obtain ⟨above, header, below, rfl, -, -, rfl⟩ := exists_of_addBelowHeader h
  have hput := (putIn_headerWith entry header).within (unspaced above.flatten) (unspaced below.flatten)
  simpa [unspaced_append] using hput

/-! ## Requiring the module -/

/-- A part occurs in a line if it is an infix of it. -/
theorem occursIn_iff {part : List Char} {line : Line} : occursIn part line ↔ part <:+: line := by
  induction line with
  | nil => simp [occursIn]
  | cons c rest ih => rw [occursIn, Bool.or_eq_true, List.isPrefixOf_iff_prefix, ih, List.infix_cons_iff]

/-- Between these lines is the place for a line that requires a module: above the first line that mentions
the exports, and below all the lines above that one that call `require`. -/
structure IsRequirePlace (above below : List Line) : Prop where
  aboveExports : ∀ line ∈ above, ¬ "module.exports".toList <:+: line
  belowRequires : ∃ between rest, below = between ++ rest ∧
    (∀ line ∈ between, ¬ "module.exports".toList <:+: line ∧ ¬ "require(".toList <:+: line) ∧
    ∀ line, rest.head? = some line → "module.exports".toList <:+: line

/-- A list ends with a run of items that a condition holds of. -/
theorem exists_trailing {α : Type} (p : α → Bool) (items : List α) :
    ∃ front run, items = front ++ run ∧ run.length = (items.reverse.takeWhile p).length ∧
      ∀ a ∈ run, p a := by
  refine ⟨(items.reverse.dropWhile p).reverse, (items.reverse.takeWhile p).reverse, ?_,
    List.length_reverse, fun a ha => List.mem_takeWhile_imp (List.mem_reverse.1 ha)⟩
  rw [← List.reverse_append, List.takeWhile_append_dropWhile, List.reverse_reverse]

/-- The place that registering takes for a `require` line is as described. -/
theorem isRequirePlace_aboveRequire (lines : List Line) :
    IsRequirePlace (aboveRequire lines) (lines.drop (requirePlace lines)) := by
  let mentionsNone (part : String) (line : Line) : Bool := !occursIn part.toList line
  have hnone : ∀ {part line}, mentionsNone part line ↔ ¬ part.toList <:+: line := by
    simp [mentionsNone, ← occursIn_iff]
  -- Above the exports the lines end with a run of lines that require nothing; the place is before that run.
  obtain ⟨top, between, hhead, hlength, hbetween⟩ :=
    exists_trailing (mentionsNone "require(") (lines.takeWhile (mentionsNone "module.exports"))
  have hlines : lines = top ++ (between ++ lines.dropWhile (mentionsNone "module.exports")) := by
    rw [← List.append_assoc, ← hhead, List.takeWhile_append_dropWhile]
  have hplace : requirePlace lines = top.length := by
    have hcount := congrArg List.length hhead
    rw [List.length_append, hlength] at hcount
    exact Nat.sub_eq_of_eq_add hcount
  have habove : ∀ line ∈ top ++ between, ¬ "module.exports".toList <:+: line :=
    fun line hline => hnone.1 (List.mem_takeWhile_imp (hhead ▸ hline))
  have htop : aboveRequire lines = top := by
    rw [aboveRequire, hplace, hlines, List.take_left]
  have hdrop : lines.drop (requirePlace lines) =
      between ++ lines.dropWhile (mentionsNone "module.exports") := by
    rw [hplace]
    conv_lhs => rw [hlines, List.drop_left]
  rw [htop, hdrop]
  refine ⟨fun line hline => habove line (List.mem_append_left between hline), between, _, rfl,
    fun line hline => ⟨habove line (List.mem_append_right top hline), hnone.1 (hbetween line hline)⟩,
    fun line hline => ?_⟩
  have hstop := List.head?_dropWhile_not (mentionsNone "module.exports") lines
  rw [hline] at hstop
  simpa [mentionsNone, ← occursIn_iff] using hstop

/-! ## Registering -/

variable {kind : ActionKind} {key : String}

/-- The block of the entry is put in above or below the lines that stand at the place for `require` lines. -/
theorem putIn_addEntry {name entry : List Char} {above middle below grown : List Line}
    (hmiddle : middle.any (isHeader name) = false)
    (h : addEntry name entry (above ++ (middle ++ below)) = some grown) :
    (∃ ended, PutIn (blockFor entry (above ++ (middle ++ below))) (unspaced below.flatten) ended ∧
      unspaced grown.flatten = unspaced above.flatten ++ unspaced middle.flatten ++ ended) ∨
    ∃ begun, PutIn (blockFor entry (above ++ (middle ++ below))) (unspaced above.flatten) begun ∧
      unspaced grown.flatten = begun ++ unspaced middle.flatten ++ unspaced below.flatten := by
  rw [addEntry] at h
  rw [blockFor]
  split at h
  · rename_i hany
    obtain rfl := Option.some.inj h
    rw [if_pos hany]
    exact .inl ⟨_, .none _, by simp [unspaced_append]⟩
  · rename_i hmissing
    rw [if_neg hmissing]
    -- The lines in the middle have no header, so the first header is above them or below them.
    have hskip : addBelowHeader name entry middle = none := by
      rw [← Option.not_isSome_iff_eq_none, isSome_addBelowHeader, hmiddle]
      exact Bool.false_ne_true
    rw [addBelowHeader_append, addBelowHeader_append, hskip, Option.map_none, Option.none_or,
      Option.or_eq_some_iff] at h
    rcases h with h | ⟨-, h⟩
    · obtain ⟨begun, hbegun, rfl⟩ := Option.map_eq_some_iff.1 h
      exact .inr ⟨_, putIn_addBelowHeader hbegun, by simp [unspaced_append]⟩
    · rw [Option.map_map] at h
      obtain ⟨ended, hended, rfl⟩ := Option.map_eq_some_iff.1 h
      exact .inl ⟨_, putIn_addBelowHeader hended, by simp [unspaced_append]⟩

/-- The lines with the line that requires the module are those above and below its place, and the block of
that line between them. -/
theorem exists_middle_addRequire {text : List Char} (h : Listing text) (lines : List Line) :
    ∃ middle, addRequire text lines =
        aboveRequire lines ++ (middle ++ lines.drop (requirePlace lines)) ∧
      unspaced middle.flatten = blockFor text lines ∧
      ∀ kind : ActionKind, middle.any (isHeader kind.sectionName.toList) = false := by
  cases hany : lines.any (isLine text) with
  | true =>
    refine ⟨[], ?_, by rw [blockFor, if_pos hany]; rfl, fun _ => rfl⟩
    rw [addRequire, if_pos hany, List.nil_append, aboveRequire_append]
  | false =>
    refine ⟨[text], addRequire_of_missing hany, ?_, fun kind => ?_⟩
    · rw [blockFor, hany, List.flatten_singleton]
      rfl
    · rw [List.any_cons, h.not_isHeader h.isLine_self kind]
      rfl

/-- The line that requires a module is no entry, so it does not matter to the block of the entry. -/
theorem blockFor_entry_addRequire (hkey : isName key) (lines : List Line) :
    blockFor (entryLine kind key).toList (addRequire (requireLine kind key).toList lines) =
      blockFor (entryLine kind key).toList lines := by
  have hcount := (adds_addRequire (.require kind hkey) lines).counts _ (.entry kind hkey)
  rw [if_neg (requireLine_ne_entryLine kind kind key key).symm] at hcount
  simp only [blockFor, any_iff_countP, hcount]

/-- Blanks apart, the text is the source with two blocks put in and nothing else changed: the first block at
the place for `require` lines, the second at one place above or below it. -/
def AddsBlocks (required listed source text : List Char) : Prop :=
  ∃ above below, lines source = above ++ below ∧ IsRequirePlace above below ∧
    unspaced source = unspaced above.flatten ++ unspaced below.flatten ∧
    ((∃ ended, PutIn listed (unspaced below.flatten) ended ∧
        unspaced text = unspaced above.flatten ++ required ++ ended) ∨
      ∃ begun, PutIn listed (unspaced above.flatten) begun ∧
        unspaced text = begun ++ required ++ unspaced below.flatten)

/-- Registering in lines puts in the two blocks, whatever line ends the lines are written with. -/
theorem addsBlocks_of_registerLines (hkey : isName key) {source text : List Char} {grown : List Line}
    (h : registerLines kind key (lines source) = some grown)
    (htext : unspaced text = unspaced grown.flatten) :
    AddsBlocks (blockFor (requireLine kind key).toList (lines source))
      (blockFor (entryLine kind key).toList (lines source)) source text := by
  have hparts := aboveRequire_append (lines source)
  refine ⟨_, _, hparts.symm, isRequirePlace_aboveRequire _, ?_, ?_⟩
  · rw [← unspaced_append, ← List.flatten_append, hparts, unspaced_lines]
  · obtain ⟨middle, hmiddle, hblock, hheaders⟩ :=
      exists_middle_addRequire (.require kind hkey) (lines source)
    have hlisted := @blockFor_entry_addRequire kind key hkey (lines source)
    rw [registerLines, hmiddle] at h
    rw [hmiddle] at hlisted
    have hput := putIn_addEntry (hheaders kind) h
    rwa [hlisted, hblock, ← htext] at hput

/-- Registering fails exactly where the action is not listed and its section has no header. Otherwise it only
adds: blanks apart, the new text is the old one with the blocks of the two lines put in, where the lines were
missing. The new text ends with a line feed when the old one does. -/
theorem register_only_adds (hkey : isName key) (source : String) :
    (register source kind key = none ↔
      (lines source.toList).any (isLine (entryLine kind key).toList) = false ∧
        (lines source.toList).any (isHeader kind.sectionName.toList) = false) ∧
    ∀ text, register source kind key = some text →
      (text.toList.getLast? = some '\n' ↔ source.toList.getLast? = some '\n') ∧
      AddsBlocks (blockFor (requireLine kind key).toList (lines source.toList))
        (blockFor (entryLine kind key).toList (lines source.toList)) source.toList text.toList := by
  refine ⟨?_, fun text h => ?_⟩
  · have hsome := @isSome_registerLines kind key hkey (lines source.toList)
    rw [← Option.not_isSome_iff_eq_none, isSome_register, hsome, not_or, Bool.not_eq_true,
      Bool.not_eq_true]
  · obtain ⟨grown, hgrown, htext⟩ := register_eq_some_iff.1 h
    obtain ⟨required, hrequire, hentry⟩ := exists_adds_of_registerLines hkey hgrown
    -- Lines hold no line feeds, before and after, so only the end of the text is left to compare.
    have hfeeds := hentry.ends '\n' (by simp)
      (hrequire.ends '\n' (by simp) fun _ => notMem_of_mem_lines)
    have hclosed := isClosed_join hfeeds
      (hentry.joinable _ (hrequire.joinable _ (joinable_lines source.toList)))
    rw [← htext, isClosed, isClosed, decide_eq_decide] at hclosed
    exact ⟨hclosed, addsBlocks_of_registerLines hkey hgrown (by rw [htext, unspaced_join])⟩

/-- A file with mixed line ends and none at its end, whose section stands above its `require` lines in empty
braces with blanks and a comment after them. -/
theorem register_only_adds_ping :
    let source := "x = \x7b\n  creates :\t\x7b\x7d, // é \r\n\x7d;\nrequire('./a');\r\n\n module.exports = x;"
    isName "ping" ∧ ∃ text, register source .create "ping" = some text ∧
      text.toList.getLast? ≠ some '\n' ∧
      AddsBlocks "constpingCreate=require('./creates/ping');".toList "[pingCreate.key]:pingCreate,".toList
        source.toList text.toList := by
  intro source
  have hkey : isName "ping" := by decide
  obtain ⟨hnone, hsome⟩ := @register_only_adds .create "ping" hkey source
  have hblocks : blockFor (requireLine .create "ping").toList (lines source.toList) =
        "constpingCreate=require('./creates/ping');".toList ∧
      blockFor (entryLine .create "ping").toList (lines source.toList) =
        "[pingCreate.key]:pingCreate,".toList := by decide +kernel
  cases htext : register source .create "ping" with
  | none => exact absurd (hnone.1 htext).2 (by decide +kernel)
  | some text =>
    obtain ⟨hend, hadds⟩ := hsome text htext
    rw [hblocks.1, hblocks.2] at hadds
    exact ⟨hkey, text, rfl, fun hfeed => absurd (hend.1 hfeed) (by decide +kernel), hadds⟩

end EntryFile

end ActionForge
