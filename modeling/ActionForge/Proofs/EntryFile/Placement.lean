import ActionForge.Proofs.EntryFile.Registration
import ActionForge.Proofs.Text.Braces

/-!
# Where registering puts its lines

The line that requires a module belongs outside all braces and above the header of the section
(`RequiredAbove`), the entry right inside the braces that the header opens (`ListedInside`). Registering does
not look at braces, so it puts the lines there only for some files. `register_placed_iff` says for which:
no header of the section and no open brace may stand above the place for `require` lines, and the header
has either nothing but its section open at its end, or the section's own braces as its last empty ones
(`OpensSection`). Where sections share a line, the entry goes to the last of them
(`not_placed_of_shared_line`).
-/

namespace ActionForge.EntryFile

open Text

/-! ## Places -/

/-- The line that requires the module stands outside all braces, above the headers of the section. -/
def RequiredAbove (kind : ActionKind) (key : String) (lines : List Line) : Prop :=
  ∃ above line below, lines = above ++ line :: below ∧ isLine (requireLine kind key).toList line ∧
    WellBraced above.flatten ∧ above.any (isHeader kind.sectionName.toList) = false

/-- The place between two texts is in the braces that were opened before the first, and in no others within
them: all that the first text opens is closed, and the second closes a brace more than it opens. -/
def DirectlyInside (opened rest : List Char) : Prop :=
  WellBraced opened ∧ ∃ content after, rest = content ++ '\x7d' :: after ∧ WellBraced content

/-- The entry stands right inside the braces of the section, those that the first brace of its header
opens. -/
def ListedInside (kind : ActionKind) (key : String) (lines : List Line) : Prop :=
  ∃ above header between line below, lines = above ++ header :: (between ++ line :: below) ∧
    above.any (isHeader kind.sectionName.toList) = false ∧ isHeader kind.sectionName.toList header ∧
    isLine (entryLine kind key).toList line ∧
    ∃ before opened, header = before ++ '\x7b' :: opened ∧ '\x7b' ∉ before ∧
      DirectlyInside (opened ++ between.flatten) below.flatten

/-- Both lines of the action are where they belong. -/
structure Placed (kind : ActionKind) (key : String) (lines : List Line) : Prop where
  required : RequiredAbove kind key lines
  listed : ListedInside kind key lines

/-- What is put below the header, or into the last empty braces of it, is right inside the braces of the
section. -/
def OpensSection (header : Line) : Prop :=
  ∃ before opened, header = before ++ '\x7b' :: opened ∧ '\x7b' ∉ before ∧
    ((∃ after, splitEmptyBraces? (trimEnd header) = some (before, after)) ∨
      splitEmptyBraces? (trimEnd header) = none ∧ WellBraced opened)

/-! ## Splitting at a line -/

/-- A list is split in one way at the first element of some kind. -/
theorem append_cons_inj_of_first {α : Type} {p : α → Bool} {above above' below below' : List α} {x x' : α}
    (h : above ++ x :: below = above' ++ x' :: below') (habove : above.any p = false) (hx : p x)
    (habove' : above'.any p = false) (hx' : p x') : above = above' ∧ x = x' ∧ below = below' := by
  induction above generalizing above' with
  | nil =>
    cases above' with
    | nil => exact ⟨rfl, List.cons.inj h⟩
    | cons y above' =>
      obtain ⟨rfl, -⟩ := List.cons.inj h
      rw [List.any_cons, hx] at habove'
      cases habove'
  -- If one list ends before the other, its `x` is among elements that are not of the kind.
  | cons y above ih =>
    cases above' with
    | nil =>
      obtain ⟨rfl, -⟩ := List.cons.inj h
      rw [List.any_cons, hx'] at habove
      cases habove
    | cons y' above' =>
      obtain ⟨rfl, hrest⟩ := List.cons.inj h
      obtain ⟨rfl, hsame⟩ := ih hrest (Bool.or_eq_false_iff.1 habove).2 (Bool.or_eq_false_iff.1 habove').2
      exact ⟨rfl, hsame⟩

/-- The only line of some kind has none above it. -/
theorem any_eq_false_of_countP {p : Line → Bool} {above below : List Line} {line : Line}
    (h : (above ++ line :: below).countP p ≤ 1) (hline : p line) : above.any p = false := by
  refine Bool.eq_false_iff.2 fun hany => ?_
  have hpos := any_iff_countP.1 hany
  rw [List.countP_append, List.countP_cons_of_pos hline] at h
  omega

section Only

variable {kind : ActionKind} {key : String} {above below : List Line} {line header : Line}

/-- Where the line that requires the module is the only one, it is to have no open brace and no header
above it. -/
theorem requiredAbove_append_iff
    (honce : (above ++ line :: below).countP (isLine (requireLine kind key).toList) = 1)
    (hline : isLine (requireLine kind key).toList line) :
    RequiredAbove kind key (above ++ line :: below) ↔
      WellBraced above.flatten ∧ above.any (isHeader kind.sectionName.toList) = false := by
  constructor
  · rintro ⟨above', line', below', hsame, hline', hplaced⟩
    have habove := any_eq_false_of_countP (Nat.le_of_eq honce) hline
    rw [hsame] at honce
    have habove' := any_eq_false_of_countP (Nat.le_of_eq honce) hline'
    obtain ⟨rfl, -⟩ := append_cons_inj_of_first hsame habove hline habove' hline'
    exact hplaced
  · intro hplaced
    exact ⟨above, line, below, rfl, hline, hplaced⟩

/-- Where the entry is the only one and stands right below the first header, what the header opens is to be
closed on its line, the section apart. -/
theorem listedInside_append_iff
    (honce : (above ++ header :: line :: below).countP (isLine (entryLine kind key).toList) = 1)
    (habove : above.any (isHeader kind.sectionName.toList) = false)
    (hheader : isHeader kind.sectionName.toList header)
    (hline : isLine (entryLine kind key).toList line) :
    ListedInside kind key (above ++ header :: line :: below) ↔
      ∃ before opened, header = before ++ '\x7b' :: opened ∧ '\x7b' ∉ before ∧
        DirectlyInside opened below.flatten := by
  constructor
  · rintro ⟨above', header', between, line', below', hsame, habove', hheader', hline', before, opened,
      hopened, hbefore, hinside⟩
    -- The first header is the same line in both splits, and no second entry stands between.
    obtain ⟨rfl, rfl, hrest⟩ := append_cons_inj_of_first hsame habove hheader habove' hheader'
    have hleast : (between ++ line' :: below').countP (isLine (entryLine kind key).toList) ≤ 1 := by
      rw [← hrest, ← honce]
      exact ((List.sublist_cons_self _ _).trans (List.sublist_append_right _ _)).countP_le
    have hsplit : [] ++ line :: below = between ++ line' :: below' := hrest
    obtain ⟨rfl, -, rfl⟩ := append_cons_inj_of_first hsplit rfl hline
      (any_eq_false_of_countP hleast hline') hline'
    rw [List.flatten_nil, List.append_nil] at hinside
    exact ⟨before, opened, hopened, hbefore, hinside⟩
  · rintro ⟨before, opened, hopened, hbefore, hinside⟩
    refine ⟨above, header, [], line, below, rfl, habove, hheader, hline, before, opened, hopened, hbefore, ?_⟩
    rwa [List.flatten_nil, List.append_nil]

end Only

/-! ## The entry -/

/-- Below a header without empty braces, the entry is in the section if the header closes all else. -/
theorem directlyInside_below_iff {above below : List Line} {header : Line}
    (hbalanced : WellBraced (above ++ header :: below).flatten)
    (hsplit : splitEmptyBraces? (trimEnd header) = none) :
    (∃ before opened, header = before ++ '\x7b' :: opened ∧ '\x7b' ∉ before ∧
      DirectlyInside opened below.flatten) ↔ OpensSection header := by
  constructor
  · rintro ⟨before, opened, hheader, hbefore, hopened, -⟩
    exact ⟨before, opened, hheader, hbefore, .inr ⟨hsplit, hopened⟩⟩
  · rintro ⟨before, opened, rfl, hbefore, ⟨after, hsome⟩ | ⟨-, hopened⟩⟩
    · rw [hsplit] at hsome
      cases hsome
    · refine ⟨before, opened, rfl, hbefore, hopened, ?_⟩
      -- The text is balanced, so what follows the header closes the brace that the header opens.
      have htext : (above ++ (before ++ '\x7b' :: opened) :: below).flatten =
          (above.flatten ++ before) ++ '\x7b' :: (opened ++ below.flatten) := by simp
      rw [htext, WellBraced, depthAfter?_append] at hbalanced
      obtain ⟨depth, -, hrest⟩ := Option.bind_eq_some_iff.1 hbalanced
      rw [depthAfter?_open, depthAfter?_append, hopened.depthAfter?] at hrest
      exact exists_closing hrest (Nat.zero_le depth)

/-- In the last empty braces of a header, the entry is in the section if no brace stands before them. -/
theorem directlyInside_opened_iff {header : Line} {before after : List Char}
    (hsplit : splitEmptyBraces? (trimEnd header) = some (before, after)) {outer : List Char}
    (houter : AllBlank outer) (below : List Line) :
    (∃ start opened, before ++ ['\x7b'] = start ++ '\x7b' :: opened ∧ '\x7b' ∉ start ∧
      DirectlyInside opened ((outer ++ '\x7d' :: after) :: below).flatten) ↔ OpensSection header := by
  constructor
  · rintro ⟨start, opened, hsame, hstart, hopened, -⟩
    -- Either the brace before the entry is the first of the line, or it is one more open brace.
    rcases opened.eq_nil_or_concat with rfl | ⟨inner, c, rfl⟩
    · obtain rfl := List.append_cancel_right hsame
      obtain ⟨blanks, -, hheader⟩ := exists_trimEnd header
      refine ⟨before, '\x7d' :: after ++ blanks, ?_, hstart, .inl ⟨after, hsplit⟩⟩
      rw [hheader, eq_of_splitEmptyBraces? hsplit]
      simp
    · rw [List.concat_eq_append] at hsame hopened
      rw [← List.cons_append, ← List.append_assoc] at hsame
      obtain ⟨-, hlast⟩ := List.append_inj' hsame rfl
      rw [← hlast] at hopened
      exact absurd hopened (not_wellBraced_concat_open inner)
  · rintro ⟨start, opened, rfl, hstart, ⟨after', hsome⟩ | ⟨hnone, -⟩⟩
    · rw [hsplit] at hsome
      obtain ⟨rfl, -⟩ := Prod.mk.inj (Option.some.inj hsome)
      refine ⟨before, [], rfl, hstart, wellBraced_nil, outer, after ++ below.flatten, by simp, ?_⟩
      exact depthAfter?_of_braceFree houter.braceFree 0
    · rw [hsplit] at hnone
      cases hnone

/-- Where the lines are balanced and do not list the action, the entry is put into the section exactly when
the header opens it. -/
theorem listedInside_iff {kind : ActionKind} {key : String} (hkey : isName key)
    {lines grown : List Line} {header : Line} (hbalanced : WellBraced lines.flatten)
    (hmissing : lines.any (isLine (entryLine kind key).toList) = false)
    (hheader : lines.find? (isHeader kind.sectionName.toList) = some header)
    (hgrown : addEntry kind.sectionName.toList (entryLine kind key).toList lines = some grown) :
    ListedInside kind key grown ↔ OpensSection header := by
  have hlisting : Listing (entryLine kind key).toList := .entry kind hkey
  have honce := (adds_addEntry hlisting hgrown).countP_eq_one hlisting hmissing
  have hline := (isLine_entryBelow hlisting header _).2 rfl
  rw [addEntry, hmissing, if_neg Bool.false_ne_true] at hgrown
  obtain ⟨above, first, below, rfl, habove, hfirst, rfl⟩ := exists_of_addBelowHeader hgrown
  have hnone : above.find? (isHeader kind.sectionName.toList) = none :=
    List.find?_eq_none.2 (List.any_eq_false.1 habove)
  rw [List.find?_append, hnone, Option.none_or, List.find?_cons_of_pos hfirst] at hheader
  obtain rfl := Option.some.inj hheader
  -- Below a header that ends in empty braces the section is opened for the entry.
  cases hsplit : splitEmptyBraces? (trimEnd first) with
  | none =>
    rw [headerWith_of_none _ hsplit] at honce ⊢
    exact (listedInside_append_iff honce habove hfirst hline).trans
      (directlyInside_below_iff hbalanced hsplit)
  | some split =>
    rw [headerWith_of_some _ hsplit] at honce ⊢
    have hopened := isHeader_opened hsplit kind
    rw [hfirst] at hopened
    exact (listedInside_append_iff honce habove hopened hline).trans
      (directlyInside_opened_iff hsplit (allBlank_takeWhile _) below)

/-! ## The line that requires the module -/

section AddRequire

variable {text : List Char} (htext : Listing text) {lines : List Line}
  (h : lines.any (isLine text) = false)

include htext h

/-- The line that requires a module opens and closes no brace. -/
theorem depthAfter?_addRequire (depth : Nat) :
    depthAfter? depth (addRequire text lines).flatten = depthAfter? depth lines.flatten := by
  have hfree : BraceFree text := fun c hc =>
    ⟨fun hopen => htext.notMem rfl (hopen ▸ hc), fun hclose => htext.notMem rfl (hclose ▸ hc)⟩
  rw [addRequire_of_missing h]
  conv_rhs => rw [← aboveRequire_append lines]
  rw [List.flatten_append, List.flatten_append, List.flatten_cons, depthAfter?_append, depthAfter?_append]
  refine congrArg _ (funext fun inner => ?_)
  rw [depthAfter?_append, depthAfter?_of_braceFree hfree]
  rfl

/-- The first header of a section is the same line when the line that requires a module was added. -/
theorem find?_isHeader_addRequire (kind : ActionKind) :
    (addRequire text lines).find? (isHeader kind.sectionName.toList) =
      lines.find? (isHeader kind.sectionName.toList) := by
  have hnot : ¬ isHeader kind.sectionName.toList text := by
    rw [htext.not_isHeader htext.isLine_self kind]
    exact Bool.false_ne_true
  rw [addRequire_of_missing h]
  conv_rhs => rw [← aboveRequire_append lines]
  rw [List.find?_append, List.find?_append, List.find?_cons_of_neg hnot]

end AddRequire

/-- Where neither line is there, the line that requires the module is put where it belongs exactly when the
lines above the place for it close their braces and hold no header of the section. -/
theorem requiredAbove_iff {kind : ActionKind} {key : String} (hkey : isName key) {lines grown : List Line}
    (hrequire : lines.any (isLine (requireLine kind key).toList) = false)
    (hentry : (addRequire (requireLine kind key).toList lines).any (isLine (entryLine kind key).toList) =
      false)
    (hgrown : registerLines kind key lines = some grown) :
    RequiredAbove kind key grown ↔ WellBraced (aboveRequire lines).flatten ∧
      (aboveRequire lines).any (isHeader kind.sectionName.toList) = false := by
  have hlisting : Listing (requireLine kind key).toList := .require kind hkey
  have hentryListing : Listing (entryLine kind key).toList := .entry kind hkey
  have hline := hlisting.isLine_self
  have honce : grown.countP (isLine (requireLine kind key).toList) = 1 := by
    rw [(adds_addEntry hentryListing hgrown).counts _ hlisting, if_neg (requireLine_ne_entryLine _ _ _ _)]
    exact (adds_addRequire hlisting lines).countP_eq_one hlisting hrequire
  rw [registerLines, addEntry, hentry, if_neg Bool.false_ne_true] at hgrown
  obtain ⟨above, header, below, hlines, habove, hheader, rfl⟩ := exists_of_addBelowHeader hgrown
  rw [addRequire_of_missing hrequire] at hlines
  have hne : (requireLine kind key).toList ≠ header := by
    rintro rfl
    rw [hlisting.not_isLine_header hheader] at hline
    cases hline
  obtain ⟨more, rfl, hrest⟩ | ⟨more, htake, hrest⟩ := List.append_eq_append_iff.1 hlines
  · -- The header stands below the new line.
    cases more with
    | nil => exact absurd (List.cons.inj hrest).1 hne
    | cons line more =>
      obtain ⟨rfl, -⟩ := List.cons.inj hrest
      rw [List.append_assoc, List.cons_append] at honce ⊢
      exact requiredAbove_append_iff honce hline
  · -- The header stands above the new line.
    cases more with
    | nil => exact absurd (List.cons.inj hrest).1.symm hne
    | cons line more =>
      rw [List.cons_append] at hrest
      obtain ⟨rfl, rfl⟩ := List.cons.inj hrest
      have hsame : above ++ (headerWith (entryLine kind key).toList header ++
          (more ++ (requireLine kind key).toList :: lines.drop (requirePlace lines))) =
          (above ++ (headerWith (entryLine kind key).toList header ++ more)) ++
            (requireLine kind key).toList :: lines.drop (requirePlace lines) := by
        simp only [List.append_assoc]
      rw [hsame] at honce ⊢
      rw [requiredAbove_append_iff honce hline, htake]
      simp [any_isHeader_headerWith hentryListing, hheader]

/-! ## The text -/

section Congr

variable {kind : ActionKind} {key : String} {ls ls' : List Line} (h : ls.map trimEnd = ls'.map trimEnd)

include h

/-- Lines that agree up to blanks at their ends have a header of a section together. -/
theorem any_isHeader_congr : ls.any (isHeader kind.sectionName.toList) =
    ls'.any (isHeader kind.sectionName.toList) := by
  have htrim : ∀ ls : List Line, (ls.map trimEnd).any (isHeader kind.sectionName.toList) =
      ls.any (isHeader kind.sectionName.toList) := by
    intro ls
    rw [List.any_map]
    exact congrArg ls.any (funext (isHeader_trimEnd kind))
  rw [← htrim ls, h, htrim]

/-- Lines that agree up to blanks at their ends open and close the same braces. -/
theorem depthAfter?_flatten_congr (depth : Nat) :
    depthAfter? depth ls.flatten = depthAfter? depth ls'.flatten := by
  rw [← depthAfter?_flatten_trimEnd, h, depthAfter?_flatten_trimEnd]

end Congr

variable {kind : ActionKind} {key : String}

/-- Two lines that agree up to blanks at their ends are headers together. -/
theorem isHeader_congr {line line' : Line} (h : trimEnd line = trimEnd line') :
    isHeader kind.sectionName.toList line = isHeader kind.sectionName.toList line' := by
  rw [← isHeader_trimEnd, h, isHeader_trimEnd]

/-- Two lines that agree up to blanks at their ends are the line of an action together. -/
theorem isLine_congr {text : List Char} {line line' : Line} (h : trimEnd line = trimEnd line') :
    isLine text line = isLine text line' := by
  rw [← isLine_trimEnd, h, isLine_trimEnd]

/-- Blanks at the ends of lines do not matter to where a line stands. -/
theorem RequiredAbove.congr {ls ls' : List Line} (h : ls.map trimEnd = ls'.map trimEnd)
    (hplaced : RequiredAbove kind key ls) : RequiredAbove kind key ls' := by
  obtain ⟨above, line, below, rfl, hline, hbalanced, hheaders⟩ := hplaced
  rw [List.map_append, List.map_cons] at h
  obtain ⟨above', rest, rfl, habove, hrest⟩ := List.map_eq_append_iff.1 h.symm
  obtain ⟨line', below', rfl, hsame, -⟩ := List.map_eq_cons_iff.1 hrest
  refine ⟨above', line', below', rfl, isLine_congr hsame ▸ hline, ?_, ?_⟩
  · rw [WellBraced, depthAfter?_flatten_congr habove]
    exact hbalanced
  · rw [any_isHeader_congr habove]
    exact hheaders

/-- The blanks do not matter either to whether the entry is listed inside the braces of its section. -/
theorem ListedInside.congr {ls ls' : List Line} (h : ls.map trimEnd = ls'.map trimEnd)
    (hplaced : ListedInside kind key ls) : ListedInside kind key ls' := by
  obtain ⟨above, header, between, line, below, rfl, hheaders, hheader, hline, before, opened, rfl, hbefore,
    hopened, hclosed⟩ := hplaced
  rw [List.map_append, List.map_cons, List.map_append, List.map_cons] at h
  obtain ⟨above', rest, rfl, habove, hrest⟩ := List.map_eq_append_iff.1 h.symm
  obtain ⟨header', rest, rfl, hsame, hrest⟩ := List.map_eq_cons_iff.1 hrest
  obtain ⟨between', rest, rfl, hbetween, hrest⟩ := List.map_eq_append_iff.1 hrest
  obtain ⟨line', below', rfl, hline', hbelow⟩ := List.map_eq_cons_iff.1 hrest
  obtain ⟨blanks, hblanks, hheader'⟩ := exists_trimEnd header'
  rw [hsame, trimEnd_append_cons rfl, List.append_assoc, List.cons_append] at hheader'
  -- What follows the brace on the header counts as one more line.
  have hblock : ((trimEnd opened ++ blanks) :: between').map trimEnd = (opened :: between).map trimEnd := by
    rw [List.map_cons, List.map_cons, trimEnd_append hblanks, trimEnd_trimEnd, hbetween]
  refine ⟨above', header', between', line', below', rfl, (any_isHeader_congr habove).trans hheaders,
    (isHeader_congr hsame).trans hheader, (isLine_congr hline').trans hline, before, _, hheader', hbefore,
    ?_, ?_⟩
  · have hdepth := depthAfter?_flatten_congr hblock 0
    rw [List.flatten_cons, List.flatten_cons] at hdepth
    rw [WellBraced, hdepth]
    exact hopened
  · rw [← depthAfter?_eq_none_iff] at hclosed ⊢
    rw [depthAfter?_flatten_congr hbelow]
    exact hclosed

/-- Adding the line that requires the module does not list the action. -/
theorem any_entry_addRequire (hkey : isName key) {ls : List Line}
    (h : ls.any (isLine (entryLine kind key).toList) = false) :
    (addRequire (requireLine kind key).toList ls).any (isLine (entryLine kind key).toList) = false := by
  have hcount := (adds_addRequire (.require kind hkey) ls).counts _ (.entry kind hkey)
  rw [if_neg (requireLine_ne_entryLine kind kind key key).symm] at hcount
  rw [Bool.eq_iff_iff, any_iff_countP, hcount, ← any_iff_countP, h]

/-- A text with a header of the section is one that the action can be registered in. -/
theorem exists_register (hkey : isName key) {source : String} {header : Line}
    (h : (lines source.toList).find? (isHeader kind.sectionName.toList) = some header) :
    ∃ text, register source kind key = some text := by
  have hany : (lines source.toList).any (isHeader kind.sectionName.toList) :=
    List.any_eq_true.2 ⟨header, List.mem_of_find?_eq_some h, List.find?_some h⟩
  rw [← Option.isSome_iff_exists, isSome_register]
  exact (isSome_registerLines hkey).2 (.inr hany)

section Register

variable {source text : String} (hkey : isName key)
  (hrequire : (lines source.toList).any (isLine (requireLine kind key).toList) = false)
  (hentry : (lines source.toList).any (isLine (entryLine kind key).toList) = false)

include hkey hrequire hentry

/-- Where its lines are missing, an action has its module required in the right place exactly when nothing
above that place is open or opens the section. -/
theorem requiredAbove_register_iff (h : register source kind key = some text) :
    RequiredAbove kind key (lines text.toList) ↔ WellBraced (aboveRequire (lines source.toList)).flatten ∧
      (aboveRequire (lines source.toList)).any (isHeader kind.sectionName.toList) = false := by
  obtain ⟨grown, hgrown, htext⟩ := register_eq_some_iff.1 h
  have hsame := map_trimEnd_registerLines hkey hgrown
  rw [← requiredAbove_iff hkey hrequire (any_entry_addRequire hkey hentry) hgrown, htext]
  exact ⟨.congr hsame, .congr hsame.symm⟩

/-- Where its lines are missing from a balanced text, an action is listed in the right place exactly when
the header opens the section for it. -/
theorem listedInside_register_iff (hbalanced : WellBraced source.toList) {header : Line}
    (hheader : (lines source.toList).find? (isHeader kind.sectionName.toList) = some header)
    (h : register source kind key = some text) :
    ListedInside kind key (lines text.toList) ↔ OpensSection header := by
  obtain ⟨grown, hgrown, htext⟩ := register_eq_some_iff.1 h
  have hsame := map_trimEnd_registerLines hkey hgrown
  have hlisting : Listing (requireLine kind key).toList := .require kind hkey
  have hbalanced' : WellBraced (addRequire (requireLine kind key).toList (lines source.toList)).flatten := by
    rw [WellBraced, depthAfter?_addRequire hlisting hrequire, depthAfter?_lines]
    exact hbalanced
  have hheader' := (find?_isHeader_addRequire hlisting hrequire kind).trans hheader
  rw [← listedInside_iff hkey hbalanced' (any_entry_addRequire hkey hentry) hheader' hgrown, htext]
  exact ⟨.congr hsame, .congr hsame.symm⟩

/-- Registering an action that is not there succeeds on balanced text with a header of its section. Both
lines are where they belong exactly when the place for `require` lines is outside all braces and above the
header, and the header opens its section. -/
theorem register_placed_iff (hbalanced : WellBraced source.toList) {header : Line}
    (hheader : (lines source.toList).find? (isHeader kind.sectionName.toList) = some header) :
    ∃ text, register source kind key = some text ∧
      (Placed kind key (lines text.toList) ↔
        (WellBraced (aboveRequire (lines source.toList)).flatten ∧
          (aboveRequire (lines source.toList)).any (isHeader kind.sectionName.toList) = false) ∧
        OpensSection header) := by
  obtain ⟨text, htext⟩ := exists_register hkey hheader
  have hrequired := requiredAbove_register_iff hkey hrequire hentry htext
  have hlisted := listedInside_register_iff hkey hrequire hentry hbalanced hheader htext
  refine ⟨text, htext, ?_⟩
  rw [← hrequired, ← hlisted]
  exact ⟨fun h => ⟨h.required, h.listed⟩, fun ⟨h, h'⟩ => ⟨h, h'⟩⟩

end Register

/-- A section in empty braces, on a line with a comment. -/
theorem register_placed_iff_dragons :
    let source := "const a = require('./a');\n\nmodule.exports = \x7b\n  triggers: \x7b\x7d, // none\n\x7d;\n"
    ∃ text, register source .trigger "dragons" = some text ∧
      Placed .trigger "dragons" (lines text.toList) := by
  intro source
  have hkey : isName "dragons" := by decide
  have hrequire : (lines source.toList).any (isLine (requireLine .trigger "dragons").toList) = false := by
    decide
  have hentry : (lines source.toList).any (isLine (entryLine .trigger "dragons").toList) = false := by
    decide
  have hheader : (lines source.toList).find? (isHeader ActionKind.trigger.sectionName.toList) =
      some "  triggers: \x7b\x7d, // none".toList := by decide
  obtain ⟨text, htext, hplaced⟩ := register_placed_iff hkey hrequire hentry (by decide) hheader
  refine ⟨text, htext, hplaced.2 ⟨by decide, ?_⟩⟩
  exact ⟨"  triggers: ".toList, "\x7d, // none".toList, rfl, by decide, .inl ⟨", // none".toList, rfl⟩⟩

/-- Where two sections share a line, a trigger is listed among the searches. -/
theorem not_placed_of_shared_line :
    let source := "module.exports = \x7b\n  triggers: \x7b\x7d, searches: \x7b\x7d,\n\x7d;\n"
    WellBraced source.toList ∧ isName "dragons" ∧
      (lines source.toList).any (isLine (requireLine .trigger "dragons").toList) = false ∧
      (lines source.toList).any (isLine (entryLine .trigger "dragons").toList) = false ∧
      (lines source.toList).any (isHeader ActionKind.trigger.sectionName.toList) ∧
      ∃ text, register source .trigger "dragons" = some text ∧
        ¬ Placed .trigger "dragons" (lines text.toList) := by
  intro source
  have hbalanced : WellBraced source.toList := by decide
  have hkey : isName "dragons" := by decide
  have hrequire : (lines source.toList).any (isLine (requireLine .trigger "dragons").toList) = false := by
    decide
  have hentry : (lines source.toList).any (isLine (entryLine .trigger "dragons").toList) = false := by
    decide
  have hheader : (lines source.toList).find? (isHeader ActionKind.trigger.sectionName.toList) =
      some "  triggers: \x7b\x7d, searches: \x7b\x7d,".toList := by decide
  obtain ⟨text, htext⟩ := exists_register hkey hheader
  refine ⟨hbalanced, hkey, hrequire, hentry, by decide, text, htext, fun hplaced => ?_⟩
  obtain ⟨before, opened, -, hbefore, ⟨after, hlast⟩ | ⟨hnone, -⟩⟩ :=
    (listedInside_register_iff hkey hrequire hentry hbalanced hheader htext).1 hplaced.listed
  · -- The last empty braces stand behind those of the triggers.
    have hsplit : splitEmptyBraces? (trimEnd "  triggers: \x7b\x7d, searches: \x7b\x7d,".toList) =
        some ("  triggers: \x7b\x7d, searches: ".toList, ",".toList) := rfl
    rw [hsplit] at hlast
    obtain ⟨rfl, -⟩ := Prod.mk.inj (Option.some.inj hlast)
    exact absurd hbefore (by decide)
  · exact absurd hnone (by decide)

end ActionForge.EntryFile
