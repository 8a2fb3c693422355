import ActionForge.Proofs.EntryFile.Placement
import ActionForge.Proofs.EntryFile.Runs

/-!
# Bindings of registered actions

The line that requires a module binds the identifier of its action. A run of registrations adds one such
line for each action, whatever its identifier, but an entry only where no action before it has the same
identifier. So actions that share an identifier are bound twice and listed once (`registerAll_bindings`).
-/

namespace ActionForge.EntryFile

open Text

/-- Whether a line binds a variable to a module. -/
def binds (ident : List Char) (line : Line) : Bool :=
  ("const ".toList ++ (ident ++ " = require(".toList)).isPrefixOf (trim line)

variable {ident : List Char}

/-- Blanks at the end of a line do not matter to what it binds. -/
theorem binds_trimEnd (line : Line) : binds ident (trimEnd line) = binds ident line := by
  obtain ⟨blanks, hblanks, hline⟩ := exists_trimEnd line
  conv_rhs => rw [hline, binds, trim_append hblanks]
  rfl

/-- A line that binds a variable starts with the keyword. -/
theorem exists_trimStart_of_binds {line : Line} (h : binds ident line) :
    ∃ rest, trimStart line = "const ".toList ++ rest := by
  obtain ⟨after, hafter⟩ := List.isPrefixOf_iff_prefix.1 h
  obtain ⟨blanks, -, hline⟩ := exists_trimEnd (trimStart line)
  -- The line starts with the binding, and what trimming dropped comes after it.
  refine ⟨ident ++ " = require(".toList ++ after ++ blanks, ?_⟩
  rw [hline]
  show trim line ++ blanks = _
  rw [← hafter]
  simp only [List.append_assoc]

/-- A line whose first character is not that of `const` binds nothing. -/
theorem not_binds_of_head? {line : Line} {c : Char} (h : (trimStart line).head? = some c)
    (hc : c ≠ 'c') : binds ident line = false := by
  refine Bool.eq_false_iff.2 fun hbinds => hc ?_
  obtain ⟨rest, hrest⟩ := exists_trimStart_of_binds hbinds
  rw [hrest] at h
  exact (Option.some.inj h).symm

/-- No header binds a variable. -/
theorem not_binds_header {kind : ActionKind} {line : Line} (h : isHeader kind.sectionName.toList line) :
    binds ident line = false := by
  refine Bool.eq_false_iff.2 fun hbinds => ?_
  obtain ⟨rest, hrest⟩ := exists_trimStart_of_binds hbinds
  have hname : afterName? kind.sectionName.toList (trimStart line) = none := by
    rw [hrest]
    cases kind <;> rfl
  rw [isHeader_of_afterName? hname] at h
  cases h

/-- What takes the place of a header binds no variable. -/
theorem countP_binds_headerWith {kind kind' : ActionKind} {key : String} {header : Line}
    (h : isHeader kind.sectionName.toList header) :
    (headerWith (entryLine kind' key).toList header).countP (binds ident) = 0 := by
  obtain ⟨opened, closing, heq, hopened, hclosing⟩ := exists_headerWith (entryLine kind' key).toList header
  have hlisted : binds ident (entryBelow (entryLine kind' key).toList header) = false := by
    have hblank : AllBlank ((trimEnd header).takeWhile isBlank ++ [' ', ' ']) :=
      allBlank_append (allBlank_takeWhile _) (by simp [AllBlank, isBlank])
    refine not_binds_of_head? (c := '[') ?_ (by decide)
    rw [entryBelow, trimStart_append hblank, toList_entryLine, List.cons_append, trimStart_cons rfl]
    rfl
  have hopen : binds ident opened = false := not_binds_header ((hopened kind).trans h)
  rw [heq, List.countP_cons, List.countP_cons, hopen, hlisted]
  obtain rfl | ⟨outer, after, houter, rfl⟩ := hclosing
  · rfl
  · have hclose : binds ident (outer ++ '\x7d' :: after) = false := by
      refine not_binds_of_head? (c := '\x7d') ?_ (by decide)
      rw [trimStart_append houter, trimStart_cons rfl]
      rfl
    simp [hclose]

/-- Identifiers of modules hold no blank. -/
theorem blank_notMem_moduleIdent {key : String} (hkey : isName key) (kind : ActionKind) :
    ' ' ∉ (moduleIdent kind key).toList := by
  intro hmem
  exact absurd (continuesName_of_mem_moduleIdent hkey kind hmem) (by decide)

/-- The line that requires a module binds the identifier of its action and no other. -/
theorem binds_requireLine {kind : ActionKind} {key : String} (hkey : isName key) (h : ' ' ∉ ident) :
    binds ident (requireLine kind key).toList ↔ ident = (moduleIdent kind key).toList := by
  have htrim : trim (requireLine kind key).toList = (requireLine kind key).toList :=
    beq_iff_eq.1 (Listing.require kind hkey).isLine_self
  have hparts : (requireLine kind key).toList = "const ".toList ++ ((moduleIdent kind key).toList ++
      (" = require(".toList ++ ("'./".toList ++
        (kind.sectionName.toList ++ '/' :: key.toList ++ "');".toList)))) := by
    rw [toList_requireLine]
    simp
  have hafter : ∀ text : List Char, ' ' ∉ text → ∀ after,
      (text ++ (" = require(".toList ++ after)).takeWhile (· ≠ ' ') = text := by
    intro text htext after
    have hall : ∀ c ∈ text, decide (c ≠ ' ') := fun c hc =>
      decide_eq_true fun hblank => htext (hblank ▸ hc)
    rw [List.takeWhile_append_of_pos hall]
    simp
  rw [binds, htrim, hparts, List.isPrefixOf_iff_prefix, List.prefix_append_right_inj]
  constructor
  · rintro ⟨more, hmore⟩
    -- Neither identifier has blanks, so each ends where the blank stands.
    rw [List.append_assoc] at hmore
    have htake := congrArg (List.takeWhile (· ≠ ' ')) hmore
    rwa [hafter ident h, hafter _ (blank_notMem_moduleIdent hkey kind)] at htake
  · intro hident
    rw [hident]
    exact (List.prefix_append_right_inj _).2 (List.prefix_append _ _)

/-- Wherever a module is required, the identifier of its action is bound. -/
theorem binds_of_isLine {kind : ActionKind} {key : String} (hkey : isName key) {line : Line}
    (h : isLine (requireLine kind key).toList line) : binds (moduleIdent kind key).toList line := by
  have hself : binds (moduleIdent kind key).toList (requireLine kind key).toList :=
    (binds_requireLine hkey (blank_notMem_moduleIdent hkey kind)).2 rfl
  have htrim := (beq_iff_eq.1 h).trans (beq_iff_eq.1 (Listing.require kind hkey).isLine_self).symm
  rw [binds] at hself ⊢
  rw [htrim]
  exact hself

/-- Actions that require one line are one action. -/
theorem requireLine_inj {kind kind' : ActionKind} {key key' : String} (hkey : isName key)
    (hkey' : isName key') (h : (requireLine kind key).toList = (requireLine kind' key').toList) :
    kind = kind' ∧ key = key' := by
  have hblank := blank_notMem_moduleIdent hkey kind
  have hbinds : binds (moduleIdent kind key).toList (requireLine kind key).toList :=
    (binds_requireLine hkey hblank).2 rfl
  rw [h, binds_requireLine hkey' hblank] at hbinds
  obtain rfl := kind_eq_of_moduleIdent_eq (String.toList_inj.1 hbinds)
  refine ⟨rfl, ?_⟩
  rw [toList_requireLine, toList_requireLine, hbinds] at h
  exact String.toList_inj.1 (by simpa using h)

/-! ## One registration -/

variable {kind : ActionKind} {key : String}

/-- A missing line that requires a module adds its binding, and the others stay. -/
theorem countP_binds_addRequire {text : List Char} {ls : List Line}
    (h : ls.any (isLine text) = false) :
    (addRequire text ls).countP (binds ident) =
      ls.countP (binds ident) + if binds ident text then 1 else 0 := by
  rw [addRequire_of_missing h, List.countP_append, List.countP_cons]
  conv_rhs => rw [← aboveRequire_append ls, List.countP_append]
  omega

/-- Adding an entry binds nothing. -/
theorem countP_binds_addEntry {ls grown : List Line}
    (h : addEntry kind.sectionName.toList (entryLine kind key).toList ls = some grown) :
    grown.countP (binds ident) = ls.countP (binds ident) := by
  rw [addEntry] at h
  split at h
  · rw [Option.some.inj h]
  · obtain ⟨above, header, below, rfl, -, hheader, rfl⟩ := exists_of_addBelowHeader h
    simp [List.countP_append, countP_binds_headerWith hheader, not_binds_header hheader]

section Register

variable {source text : String} (hkey : isName key) (h : register source kind key = some text)

include hkey h

/-- Lines that are told apart without the blanks at their ends are the same in the file and in what was
made of its lines. -/
theorem exists_countP_lines_register : ∃ grown, registerLines kind key (lines source.toList) = some grown ∧
    ∀ p : Line → Bool, (∀ line, p (trimEnd line) = p line) →
      (lines text.toList).countP p = grown.countP p := by
  obtain ⟨grown, hgrown, htext⟩ := register_eq_some_iff.1 h
  refine ⟨grown, hgrown, fun p hp => ?_⟩
  have htrim : ∀ ls : List Line, (ls.map trimEnd).countP p = ls.countP p := by
    intro ls
    rw [List.countP_map]
    exact congrArg (fun q => ls.countP q) (funext hp)
  rw [← htrim, htext, map_trimEnd_registerLines hkey hgrown, htrim]

/-- Registering binds the identifier of the action, if its module is not required yet. -/
theorem countP_binds_register
    (hmissing : (lines source.toList).any (isLine (requireLine kind key).toList) = false) :
    (lines text.toList).countP (binds ident) = (lines source.toList).countP (binds ident) +
      if binds ident (requireLine kind key).toList then 1 else 0 := by
  obtain ⟨grown, hgrown, hcount⟩ := exists_countP_lines_register hkey h
  rw [hcount _ binds_trimEnd, countP_binds_addEntry hgrown, countP_binds_addRequire hmissing]

/-- Registering adds the two lines of the action where they are missing, and no other line of an action. -/
theorem countP_isLine_register {line : List Char} (hline : Listing line) :
    (lines text.toList).countP (isLine line) =
      if line = (requireLine kind key).toList ∨ line = (entryLine kind key).toList then
        max 1 ((lines source.toList).countP (isLine line))
      else (lines source.toList).countP (isLine line) := by
  obtain ⟨grown, hgrown, hcount⟩ := exists_countP_lines_register hkey h
  obtain ⟨required, hrequire, hentry⟩ := exists_adds_of_registerLines hkey hgrown
  have hother := requireLine_ne_entryLine kind kind key key
  rw [hcount _ (isLine_trimEnd line), hentry.counts line hline, hrequire.counts line hline]
  by_cases hadded : line = (entryLine kind key).toList
  · simp [hadded, hother.symm]
  · simp [hadded]

/-- Registering keeps the sections of the file. -/
theorem any_isHeader_register (kind' : ActionKind) :
    (lines text.toList).any (isHeader kind'.sectionName.toList) =
      (lines source.toList).any (isHeader kind'.sectionName.toList) := by
  obtain ⟨grown, hgrown, hcount⟩ := exists_countP_lines_register hkey h
  obtain ⟨required, hrequire, hentry⟩ := exists_adds_of_registerLines hkey hgrown
  rw [← hrequire.headers, ← hentry.headers, Bool.eq_iff_iff, any_iff_countP, any_iff_countP,
    hcount _ (isHeader_trimEnd kind')]

end Register

/-! ## Runs of registrations -/

/-- The sections of the actions are there, which is what registering them takes. -/
def HasSections (actions : List (ActionKind × String)) (ls : List Line) : Prop :=
  ∀ action ∈ actions, ls.any (isHeader action.1.sectionName.toList)

/-- No line binds the identifier of one of the actions or lists one of them. -/
def MentionsNone (actions : List (ActionKind × String)) (ls : List Line) : Prop :=
  ∀ action ∈ actions, ls.any (binds (moduleIdent action.1 action.2).toList) = false ∧
    ls.any (isLine (entryLine action.1 action.2).toList) = false

instance (actions : List (ActionKind × String)) (ls : List Line) : Decidable (HasSections actions ls) :=
  inferInstanceAs (Decidable (∀ action ∈ actions, _))

instance (actions : List (ActionKind × String)) (ls : List Line) : Decidable (MentionsNone actions ls) :=
  inferInstanceAs (Decidable (∀ action ∈ actions, _))

section Run

variable {source : String} {actions : List (ActionKind × String)}
  (hkeys : ∀ action ∈ actions, isName action.2)

/-- The first step of a run, and what it leaves for the rest. -/
theorem exists_register_of_hasSections {action : ActionKind × String}
    {rest : List (ActionKind × String)} (hkey : isName action.2)
    (h : HasSections (action :: rest) (lines source.toList)) :
    ∃ text, register source action.1 action.2 = some text ∧ HasSections rest (lines text.toList) ∧
      registerAll source (action :: rest) = registerAll text rest := by
  obtain ⟨haction, hrest⟩ := List.forall_mem_cons.1 h
  have hsome : (register source action.1 action.2).isSome := by
    rw [isSome_register]
    exact (isSome_registerLines hkey).2 (.inr haction)
  obtain ⟨text, htext⟩ := Option.isSome_iff_exists.1 hsome
  refine ⟨text, htext, fun other hother => ?_, ?_⟩
  · rw [any_isHeader_register hkey htext]
    exact hrest other hother
  · rw [registerAll, List.foldl_cons, htext, Option.getD_some]
    rfl

include hkeys

/-- A run adds the lines of its actions where they are missing, and no other line of an action. -/
theorem countP_isLine_registerAll (hsections : HasSections actions (lines source.toList)) {line : List Char}
    (hline : Listing line) :
    (lines (registerAll source actions).toList).countP (isLine line) =
      if ∃ action ∈ actions, line = (requireLine action.1 action.2).toList ∨
          line = (entryLine action.1 action.2).toList then
        max 1 ((lines source.toList).countP (isLine line))
      else (lines source.toList).countP (isLine line) := by
  induction actions generalizing source with
  | nil => simp [registerAll]
  | cons action rest ih =>
    obtain ⟨hkey, hkeys⟩ := List.forall_mem_cons.1 hkeys
    obtain ⟨text, htext, hsections, hrun⟩ := exists_register_of_hasSections hkey hsections
    rw [hrun, ih hkeys hsections, countP_isLine_register hkey htext hline]
    simp only [List.exists_mem_cons_iff]
    by_cases hfirst : line = (requireLine action.1 action.2).toList ∨
        line = (entryLine action.1 action.2).toList
    · -- The line is there after the first step, and no other step adds it again.
      simp only [hfirst, true_or, if_true]
      split
      · omega
      · rfl
    · simp only [hfirst, false_or, if_false]

/-- A run of different actions binds an identifier once more for each action that has it. -/
theorem countP_binds_registerAll (hdistinct : actions.Nodup)
    (hsections : HasSections actions (lines source.toList))
    (hmissing : ∀ action ∈ actions,
      (lines source.toList).any (isLine (requireLine action.1 action.2).toList) = false) :
    (lines (registerAll source actions).toList).countP (binds ident) =
      (lines source.toList).countP (binds ident) +
        actions.countP fun action => binds ident (requireLine action.1 action.2).toList := by
  induction actions generalizing source with
  | nil => rfl
  | cons action rest ih =>
    obtain ⟨hkey, hkeys⟩ := List.forall_mem_cons.1 hkeys
    obtain ⟨haction, hrest⟩ := List.forall_mem_cons.1 hmissing
    obtain ⟨hnew, hdistinct⟩ := List.nodup_cons.1 hdistinct
    obtain ⟨text, htext, hsections, hrun⟩ := exists_register_of_hasSections hkey hsections
    -- The modules of the other actions are still not required.
    have hmissing : ∀ other ∈ rest,
        (lines text.toList).any (isLine (requireLine other.1 other.2).toList) = false := by
      intro other hother
      have hrequire : (requireLine other.1 other.2).toList ≠ (requireLine action.1 action.2).toList := by
        intro hsame
        obtain ⟨hkind, hkey⟩ := requireLine_inj (hkeys other hother) hkey hsame
        exact hnew (Prod.ext hkind hkey ▸ hother)
      have hcount := countP_isLine_register hkey htext (.require other.1 (hkeys other hother))
      rw [if_neg (by simp [hrequire, requireLine_ne_entryLine])] at hcount
      rw [Bool.eq_iff_iff, any_iff_countP, hcount, ← any_iff_countP, hrest other hother]
    rw [hrun, ih hkeys hdistinct hsections hmissing, countP_binds_register hkey htext haction,
      List.countP_cons]
    -- The first action counts once, the rest by induction.
    omega

end Run

/-! ## Sharing identifiers -/

/-- The identifier of an action. -/
def identOf (action : ActionKind × String) : String := moduleIdent action.1 action.2

/-- A list counts each of its identifiers once exactly when no two of its actions share one. -/
theorem nodup_map_identOf (actions : List (ActionKind × String)) :
    (actions.map identOf).Nodup ↔
      ∀ action ∈ actions, actions.countP (fun other => identOf other = identOf action) = 1 := by
  have hcount : ∀ ident, (actions.map identOf).count ident =
      actions.countP fun other => identOf other = ident := by
    intro ident
    rw [List.count, List.countP_map]
    rfl
  rw [List.nodup_iff_count_eq_one, List.forall_mem_map]
  simp only [hcount]

/-- Actions share an identifier exactly when they are of one kind and their keys are one in camel case, and
an identifier is a variable's name exactly when no digit comes first in the key. A run of different actions
that the file does not mention lists each of them once, and binds the identifier of each as often as there
are actions in the run that have it: once, exactly when no two share one. -/
theorem registerAll_bindings (source : String) {actions : List (ActionKind × String)}
    (hkeys : ∀ action ∈ actions, isName action.2) :
    (∀ action ∈ actions, ∀ other ∈ actions, (identOf action = identOf other ↔
      action.1 = other.1 ∧ lowerCamelCase action.2 = lowerCamelCase other.2)) ∧
    (∀ action ∈ actions, (isVariableName (identOf action) ↔
      ∀ c, action.2.toList.find? isAlphanumeric = some c → c.isDigit = false)) ∧
    (actions.Nodup → HasSections actions (lines source.toList) →
      MentionsNone actions (lines source.toList) →
      let final := lines (registerAll source actions).toList
      (∀ action ∈ actions, final.countP (isLine (entryLine action.1 action.2).toList) = 1) ∧
      (∀ action ∈ actions, final.countP (binds (identOf action).toList) =
        actions.countP fun other => identOf other = identOf action) ∧
      ((∀ action ∈ actions, final.countP (binds (identOf action).toList) = 1) ↔
        (actions.map identOf).Nodup)) := by
  refine ⟨fun action haction other hother =>
      moduleIdent_eq_iff (hkeys action haction) (hkeys other hother) _ _,
    fun action haction => isVariableName_moduleIdent_iff (hkeys action haction) action.1, ?_⟩
  intro hdistinct hsections hnone final
  -- A line that requires a module of the run would bind its identifier, and none does.
  have hmissing : ∀ other ∈ actions,
      (lines source.toList).any (isLine (requireLine other.1 other.2).toList) = false := by
    intro other hother
    refine List.any_eq_false.2 fun line hline hrequire => ?_
    exact List.any_eq_false.1 (hnone other hother).1 line hline
      (binds_of_isLine (hkeys other hother) hrequire)
  have hbinds : ∀ action ∈ actions, final.countP (binds (identOf action).toList) =
      actions.countP fun other => identOf other = identOf action := by
    intro action haction
    have hbound := (hnone action haction).1
    rw [countP_binds_registerAll hkeys hdistinct hsections hmissing, identOf,
      List.countP_eq_zero.2 (List.any_eq_false.1 hbound), Nat.zero_add]
    refine List.countP_congr fun other hother => ?_
    rw [binds_requireLine (hkeys other hother) (blank_notMem_moduleIdent (hkeys action haction) action.1),
      String.toList_inj, decide_eq_true_iff, eq_comm]
    rfl
  refine ⟨fun action haction => ?_, hbinds, ?_⟩
  · have hlisted := (hnone action haction).2
    rw [countP_isLine_registerAll hkeys hsections (.entry action.1 (hkeys action haction)),
      if_pos ⟨action, haction, .inr rfl⟩, List.countP_eq_zero.2 (List.any_eq_false.1 hlisted)]
    rfl
  · rw [nodup_map_identOf]
    exact forall₂_congr fun action haction => by rw [hbinds action haction]

/-- Two actions that share an identifier are added to a file with another action between them. -/
theorem registerAll_bindings_users :
    let source := "module.exports = \x7b\n  triggers: \x7b\x7d,\n  searches: \x7b\x7d,\n\x7d;\n"
    let actions : List (ActionKind × String) :=
      [(.trigger, "user_list"), (.search, "userList"), (.trigger, "userList")]
    let final := lines (registerAll source actions).toList
    isName "user_list" ∧ actions.Nodup ∧ MentionsNone actions (lines source.toList) ∧
      final.countP (binds "userListTrigger".toList) = 2 ∧ final.countP (binds "userListSearch".toList) = 1 ∧
      final.countP (isLine "[userListTrigger.key]: userListTrigger,".toList) = 1 := by
  intro source actions final
  have hkeys : ∀ action ∈ actions, isName action.2 := by decide
  have hsections : HasSections actions (lines source.toList) := by decide
  have hnone : MentionsNone actions (lines source.toList) := by decide +kernel
  obtain ⟨hlisted, hbound, -⟩ := (registerAll_bindings source hkeys).2.2 (by decide) hsections hnone
  -- The two keys of triggers are one in camel case, and the key of the search has another ending.
  have hidents : identOf (.trigger, "user_list") = "userListTrigger" ∧
      identOf (.search, "userList") = "userListSearch" := by decide +kernel
  have hcounts : actions.countP (fun other => identOf other = "userListTrigger") = 2 ∧
      actions.countP (fun other => identOf other = "userListSearch") = 1 := by
    decide +kernel
  have hentry : (entryLine .trigger "user_list").toList =
      "[userListTrigger.key]: userListTrigger,".toList := by decide +kernel
  refine ⟨by decide, by decide, hnone, ?_, ?_, ?_⟩
  · have hcount := hbound (.trigger, "user_list") (by decide)
    rwa [hidents.1, hcounts.1] at hcount
  · have hcount := hbound (.search, "userList") (by decide)
    rwa [hidents.2, hcounts.2] at hcount
  · rw [← hentry]
    exact hlisted (.trigger, "user_list") (by decide)

/-- Two names of triggers that are one in camel case: their modules are bound to one identifier, and the
second is never listed. A key that starts with a digit after its underscore gives no variable's name. -/
theorem shared_binding :
    let source := "module.exports = \x7b\n  triggers: \x7b\n  \x7d,\n\x7d;\n"
    let actions := [(.trigger, "user_list"), (.trigger, "userList")]
    let final := lines (registerAll source actions).toList
    (∀ action ∈ actions, isName action.2) ∧ isName "_1" ∧ MentionsNone actions (lines source.toList) ∧
      moduleIdent .trigger "user_list" = moduleIdent .trigger "userList" ∧
      final.countP (binds "userListTrigger".toList) = 2 ∧
      final.countP (isLine (entryLine .trigger "userList").toList) = 1 ∧
      ¬ isVariableName (moduleIdent .trigger "_1") := by
  intro source actions final
  have hkeys : ∀ action ∈ actions, isName action.2 := by decide
  have hsections : HasSections actions (lines source.toList) := by decide
  refine ⟨hkeys, by decide, by decide +kernel, by decide +kernel, ?_, ?_, by decide +kernel⟩
  · show (lines (registerAll source actions).toList).countP _ = 2
    rw [countP_binds_registerAll hkeys (by decide) hsections (by decide +kernel)]
    decide +kernel
  · show (lines (registerAll source actions).toList).countP _ = 1
    rw [countP_isLine_registerAll hkeys hsections (.entry .trigger (by decide)),
      if_pos ⟨(.trigger, "userList"), by decide, .inr rfl⟩]
    decide +kernel

end ActionForge.EntryFile
