import ActionForge.Proofs.EntryFile.Registration

/-!
# Runs of registrations

What one registration does to the lines of the entry file (`Grows`) carries over to a run of them: the
sections of the file stay, every line of an action stays, and none is added twice. So whether an action can
be registered depends on the file at the start alone, and an action that has been registered stays registered
(`registerAll_accumulates`).
-/

namespace ActionForge.EntryFile

open Text

/-- The entry file after actions are registered one after the other. An action that has no section to be
listed in leaves the file as it is. -/
def registerAll (source : String) (actions : List (ActionKind × String)) : String :=
  actions.foldl (fun text action => (register text action.1 action.2).getD text) source

/-- A run is split at any of its actions: the rest of it starts from what that registration leaves. -/
theorem registerAll_append_cons (source : String) (earlier later : List (ActionKind × String))
    (kind : ActionKind) (key : String) :
    registerAll source (earlier ++ (kind, key) :: later) =
      registerAll ((register (registerAll source earlier) kind key).getD (registerAll source earlier))
        later := by
  rw [registerAll, List.foldl_append]
  rfl

/-! ## Identifiers in entries -/

/-- Entries of different kinds of actions differ. -/
theorem kind_eq_of_entryLine_eq {kind kind' : ActionKind} {key key' : String}
    (h : (entryLine kind key).toList = (entryLine kind' key').toList) : kind = kind' := by
  rw [toList_entryLine, toList_entryLine] at h
  -- The identifier stands twice in the entry, so its length is known from that of the entry.
  have hlength : (moduleIdent kind key).toList.length = (moduleIdent kind' key').toList.length := by
    have hall := congrArg List.length h
    simp only [List.length_append, List.length_cons] at hall
    omega
  obtain ⟨-, hbody⟩ := List.cons.inj (List.append_cancel_right h)
  exact kind_eq_of_moduleIdent_eq (String.toList_inj.1 (List.append_inj_left hbody hlength))

/-! ## Lines that grow -/

/-- The lines hold the sections and the lines of actions that they held, no line of an action was added to
another of the same text, and only actions whose section is there were listed. -/
structure Grows (lines grown : List Line) : Prop where
  headers : ∀ kind : ActionKind,
    grown.any (isHeader kind.sectionName.toList) = lines.any (isHeader kind.sectionName.toList)
  kept : ∀ text, Listing text → lines.countP (isLine text) ≤ grown.countP (isLine text)
  once : ∀ text, Listing text → grown.countP (isLine text) ≤ max 1 (lines.countP (isLine text))
  sections : ∀ (kind : ActionKind) (key : String), isName key →
    grown.any (isLine (entryLine kind key).toList) →
      lines.any (isLine (entryLine kind key).toList) ∨ lines.any (isHeader kind.sectionName.toList)

namespace Grows

/-- Lines that stay as they are have grown by nothing. -/
theorem refl (lines : List Line) : Grows lines lines where
  headers _ := rfl
  kept _ _ := Nat.le_refl _
  once _ _ := Nat.le_max_right _ _
  sections _ _ _ := .inl

variable {lines middle grown : List Line}

/-- Growing twice is growing. -/
theorem trans (h : Grows lines middle) (h' : Grows middle grown) : Grows lines grown where
  headers kind := (h'.headers kind).trans (h.headers kind)
  kept text htext := (h.kept text htext).trans (h'.kept text htext)
  once text htext := by
    have hfirst := h.once text htext
    have hsecond := h'.once text htext
    omega
  sections kind key hkey hany := by
    -- An entry that is new in the second step has its header in the middle, hence at the start.
    rcases h'.sections kind key hkey hany with hentry | hheader
    · exact h.sections kind key hkey hentry
    · exact .inr (h.headers kind ▸ hheader)

/-- A line of an action that was there is there after growing. -/
theorem any_isLine (h : Grows lines grown) {text : List Char} (htext : Listing text)
    (hany : lines.any (isLine text)) : grown.any (isLine text) :=
  any_iff_countP.2 (Nat.lt_of_lt_of_le (any_iff_countP.1 hany) (h.kept text htext))

/-- Adding a line of an action is growing, when an entry is added below its section's header only. -/
theorem of_adds {added : List Char} (h : Adds added lines grown)
    (hsection : ∀ (kind : ActionKind) (key : String), (entryLine kind key).toList = added →
      lines.any (isLine added) ∨ lines.any (isHeader kind.sectionName.toList)) : Grows lines grown where
  headers := h.headers
  kept text htext := by
    rw [h.counts text htext]
    split <;> omega
  once text htext := by
    rw [h.counts text htext]
    split <;> omega
  sections kind key hkey hany := by
    by_cases hadded : (entryLine kind key).toList = added
    · rw [hadded]
      exact hsection kind key hadded
    · rw [any_iff_countP, h.counts _ (.entry kind hkey), if_neg hadded, ← any_iff_countP] at hany
      exact .inl hany

end Grows

/-- Registering adds two lines of actions to the file and keeps the rest. -/
theorem grows_of_registerLines {kind : ActionKind} {key : String} (hkey : isName key)
    {lines grown : List Line} (h : registerLines kind key lines = some grown) :
    Grows lines grown ∧ grown.any (isLine (requireLine kind key).toList) ∧
      grown.any (isLine (entryLine kind key).toList) := by
  have hrequire : Listing (requireLine kind key).toList := .require kind hkey
  have hentry : Listing (entryLine kind key).toList := .entry kind hkey
  have hsuccess := (isSome_registerLines hkey).1 (Option.isSome_of_eq_some h)
  obtain ⟨required, hadds, hadds'⟩ := exists_adds_of_registerLines hkey h
  -- The first line is no entry, the second is an entry of this kind alone.
  have hgrows : Grows lines required :=
    .of_adds hadds fun kind' key' hsame => absurd hsame.symm (requireLine_ne_entryLine kind kind' key key')
  have hgrows' : Grows required grown := by
    refine .of_adds hadds' fun kind' key' hsame => ?_
    obtain rfl := kind_eq_of_entryLine_eq hsame
    rw [hgrows.headers]
    exact hsuccess.imp_left (hgrows.any_isLine hentry)
  have hrequired : required.any (isLine (requireLine kind key).toList) := by
    rw [any_iff_countP, hadds.counts _ hrequire, if_pos rfl]
    omega
  refine ⟨hgrows.trans hgrows', hgrows'.any_isLine hrequire hrequired, ?_⟩
  rw [any_iff_countP, hadds'.counts _ hentry, if_pos rfl]
  omega

/-! ## Runs -/

/-- What a run of registrations leaves of a text. -/
structure Kept (source text : String) : Prop where
  returns : returnsEndLines source.toList → returnsEndLines text.toList
  noReturn : '\r' ∉ source.toList → '\r' ∉ text.toList
  grows : returnsEndLines source.toList → Grows (lines source.toList) (lines text.toList)

/-- Registering keeps what is there, whether it succeeds or not. -/
theorem kept_register (kind : ActionKind) {key : String} (hkey : isName key) (source : String) :
    Kept source ((register source kind key).getD source) := by
  cases hregister : register source kind key with
  | none => exact ⟨id, id, fun _ => .refl _⟩
  | some text =>
    refine ⟨fun hreturns => ?_, fun hreturn => ?_, fun hreturns => ?_⟩
    · exact returnsEndLines_of_notMem (registerLines_of_register hkey hreturns hregister).2
    · exact (registerLines_of_register hkey (returnsEndLines_of_notMem hreturn) hregister).2
    · exact (grows_of_registerLines hkey (registerLines_of_register hkey hreturns hregister).1).1

/-- Hence a whole run keeps what is there, by induction on its actions. -/
theorem kept_registerAll (source : String) {actions : List (ActionKind × String)}
    (hkeys : ∀ action ∈ actions, isName action.2) : Kept source (registerAll source actions) := by
  induction actions generalizing source with
  | nil => exact ⟨id, id, fun _ => .refl _⟩
  | cons action rest ih =>
    obtain ⟨hkey, hrest⟩ := List.forall_mem_cons.1 hkeys
    have hstep := kept_register action.1 hkey source
    have hrun := ih ((register source action.1 action.2).getD source) hrest
    exact ⟨fun h => hrun.returns (hstep.returns h), fun h => hrun.noReturn (hstep.noReturn h),
      fun h => (hstep.grows h).trans (hrun.grows (hstep.returns h))⟩

/-- After an action was registered, both its lines are there and no returns, whatever else is registered. -/
theorem registered_registerAll {kind : ActionKind} {key : String} (hkey : isName key)
    {source text : String} (hreturns : returnsEndLines source.toList)
    (h : register source kind key = some text) {later : List (ActionKind × String)}
    (hlater : ∀ action ∈ later, isName action.2) :
    '\r' ∉ (registerAll text later).toList ∧
      (lines (registerAll text later).toList).any (isLine (requireLine kind key).toList) ∧
      (lines (registerAll text later).toList).any (isLine (entryLine kind key).toList) := by
  obtain ⟨hlines, hreturn⟩ := registerLines_of_register hkey hreturns h
  obtain ⟨-, hrequire, hentry⟩ := grows_of_registerLines hkey hlines
  have hkept := kept_registerAll text hlater
  have hgrows := hkept.grows (returnsEndLines_of_notMem hreturn)
  exact ⟨hkept.noReturn hreturn, hgrows.any_isLine (.require kind hkey) hrequire,
    hgrows.any_isLine (.entry kind hkey) hentry⟩

/-- Registrations accumulate: in a run of them, each succeeds exactly when the file at the start lists the
action or has its section, the lines of an action that was registered are there at the end, and to register
it again changes nothing and requires its module no second time. -/
theorem registerAll_accumulates {source : String} (hreturns : returnsEndLines source.toList)
    {earlier later : List (ActionKind × String)} {kind : ActionKind} {key : String}
    (hearlier : ∀ action ∈ earlier, isName action.2) (hkey : isName key)
    (hlater : ∀ action ∈ later, isName action.2) :
    ((register (registerAll source earlier) kind key).isSome ↔
      (lines source.toList).any (isLine (entryLine kind key).toList) ∨
        (lines source.toList).any (isHeader kind.sectionName.toList)) ∧
    ((register (registerAll source earlier) kind key).isSome →
      let final := registerAll source (earlier ++ (kind, key) :: later)
      (lines final.toList).any (isLine (requireLine kind key).toList) ∧
      (lines final.toList).any (isLine (entryLine kind key).toList) ∧
      register final kind key = some final ∧
      (lines final.toList).countP (isLine (requireLine kind key).toList) =
        max 1 ((lines source.toList).countP (isLine (requireLine kind key).toList))) := by
  have hkept := kept_registerAll source hearlier
  have hgrows := hkept.grows hreturns
  refine ⟨?_, fun hsome => ?_⟩
  · rw [isSome_register, isSome_registerLines hkey, hgrows.headers]
    constructor
    · -- An entry that an earlier registration put there has the header it was put below.
      rintro (hentry | hheader)
      · exact hgrows.sections kind key hkey hentry
      · exact .inr hheader
    · exact Or.imp_left (hgrows.any_isLine (.entry kind hkey))
  · obtain ⟨text, htext⟩ := Option.isSome_iff_exists.1 hsome
    have hrun : registerAll source (earlier ++ (kind, key) :: later) = registerAll text later := by
      rw [registerAll_append_cons, htext, Option.getD_some]
    obtain ⟨hreturn, hrequire, hentry⟩ :=
      registered_registerAll hkey (hkept.returns hreturns) htext hlater
    have hwhole : Grows (lines source.toList) (lines (registerAll text later).toList) := by
      have hkeys : ∀ action ∈ earlier ++ (kind, key) :: later, isName action.2 :=
        List.forall_mem_append.2 ⟨hearlier, List.forall_mem_cons.2 ⟨hkey, hlater⟩⟩
      exact hrun ▸ (kept_registerAll source hkeys).grows hreturns
    -- The line is there, no more often than once or than at the start, and no less often than then.
    have hpresent := any_iff_countP.1 hrequire
    have hleast := hwhole.kept _ (.require kind hkey)
    have hmost := hwhole.once _ (.require kind hkey)
    simp only [hrun]
    exact ⟨hrequire, hentry, register_of_any hreturn hrequire hentry, by omega⟩

/-- A file with carriage returns and a section in empty braces, to which `users` is added before `dragons`
and again after it. -/
theorem registerAll_accumulates_dragons :
    let source := "module.exports = \x7b\r\n  triggers: \x7b\x7d,\r\n\x7d;\r\n"
    let actions : List (ActionKind × String) :=
      [(.search, "users"), (.trigger, "users"), (.trigger, "dragons"), (.trigger, "users")]
    returnsEndLines source.toList ∧
      (register (registerAll source (actions.take 2)) .trigger "dragons").isSome ∧
      register (registerAll source actions) .trigger "dragons" = some (registerAll source actions) := by
  intro source actions
  have hreturns : returnsEndLines source.toList := by decide
  have hrun := @registerAll_accumulates source hreturns (actions.take 2) (actions.drop 3) .trigger
    "dragons" (by decide) (by decide) (by decide)
  have hsome := hrun.1.2 (.inr (by decide))
  exact ⟨hreturns, hsome, (hrun.2 hsome).2.2.1⟩

end ActionForge.EntryFile
