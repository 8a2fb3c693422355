import ActionForge.Proofs.Text.Lines

/-!
# Braces

Braces are counted as characters, wherever they stand. A text is balanced when every brace is closed and
none is closed before it is opened. A brace that is open in a text that closes it has its closing brace
behind a balanced content (`exists_closing`). Line ends and blanks count for nothing, so a text is balanced
when its lines are (`depthAfter?_lines`).
-/

namespace ActionForge.Text

/-- The number of open braces after a character; `none` when it closes a brace that is not open. -/
def braceStep (depth : Nat) (c : Char) : Option Nat :=
  if c = '\x7b' then some (depth + 1)
  else if c = '\x7d' then if depth = 0 then none else some (depth - 1)
  else some depth

/-- The number of open braces after a text; `none` when it closes a brace that is not open. -/
def depthAfter? (depth : Nat) (text : List Char) : Option Nat := text.foldlM braceStep depth

/-- Every brace of the text is closed, and none before it is opened. -/
def WellBraced (text : List Char) : Prop := depthAfter? 0 text = some 0

instance : DecidablePred WellBraced := fun text => inferInstanceAs (Decidable (depthAfter? 0 text = some 0))

/-- The text holds no brace. -/
def BraceFree (text : List Char) : Prop := ∀ c ∈ text, c ≠ '\x7b' ∧ c ≠ '\x7d'

/-- A character opens a brace, closes an open one, or is none of the two. -/
theorem braceStep_eq_some_iff {depth next : Nat} {c : Char} : braceStep depth c = some next ↔
    c = '\x7b' ∧ next = depth + 1 ∨ c = '\x7d' ∧ depth = next + 1 ∨
      (c ≠ '\x7b' ∧ c ≠ '\x7d') ∧ next = depth := by
  rw [braceStep]
  split
  · rename_i hc
    subst hc
    simp [eq_comm]
  · rename_i hopen
    split
    · rename_i hc
      subst hc
      split
      · simp
        omega
      · simp
        omega
    · rename_i hclose
      simp [hopen, hclose, eq_comm]

/-- The only failure is to close a brace where none is open. -/
theorem braceStep_eq_none_iff {depth : Nat} {c : Char} :
    braceStep depth c = none ↔ c = '\x7d' ∧ depth = 0 := by
  rw [braceStep]
  split
  · rename_i hc
    simp [hc]
  · split
    · rename_i hc
      simp [hc]
    · rename_i hc
      simp [hc]

/-- Braces are counted character by character. -/
theorem depthAfter?_cons (depth : Nat) (c : Char) (rest : List Char) :
    depthAfter? depth (c :: rest) = (braceStep depth c).bind fun inner => depthAfter? inner rest :=
  List.foldlM_cons

/-- The braces of a text are counted on in the text behind it. -/
theorem depthAfter?_append (depth : Nat) (text rest : List Char) :
    depthAfter? depth (text ++ rest) = (depthAfter? depth text).bind fun inner => depthAfter? inner rest :=
  List.foldlM_append

theorem depthAfter?_open (depth : Nat) (rest : List Char) :
    depthAfter? depth ('\x7b' :: rest) = depthAfter? (depth + 1) rest := rfl

/-- A text without braces changes no depth. -/
theorem depthAfter?_of_braceFree {text : List Char} (h : BraceFree text) (depth : Nat) :
    depthAfter? depth text = some depth := by
  induction text with
  | nil => rfl
  | cons c rest ih =>
    obtain ⟨hplain, hrest⟩ := List.forall_mem_cons.1 h
    rw [depthAfter?_cons, braceStep_eq_some_iff.2 (.inr (.inr ⟨hplain, rfl⟩))]
    exact ih hrest

/-- Braces around a text do not matter to what it closes. -/
theorem depthAfter?_add {depth inner : Nat} {text : List Char} (h : depthAfter? depth text = some inner)
    (outer : Nat) : depthAfter? (depth + outer) text = some (inner + outer) := by
  induction text generalizing depth with
  | nil => rw [← Option.some.inj h]; rfl
  | cons c rest ih =>
    rw [depthAfter?_cons] at h ⊢
    obtain ⟨next, hnext, hrest⟩ := Option.bind_eq_some_iff.1 h
    have hstep : braceStep (depth + outer) c = some (next + outer) := by
      rw [braceStep_eq_some_iff] at hnext ⊢
      obtain ⟨hc, hdepth⟩ | ⟨hc, hdepth⟩ | ⟨hc, hdepth⟩ := hnext
      · exact .inl ⟨hc, by omega⟩
      · exact .inr (.inl ⟨hc, by omega⟩)
      · exact .inr (.inr ⟨hc, by omega⟩)
    rw [hstep]
    exact ih hrest

/-- A balanced text changes no depth, wherever it stands. -/
theorem WellBraced.depthAfter? {text : List Char} (h : WellBraced text) (depth : Nat) :
    depthAfter? depth text = some depth := by
  have hadd := depthAfter?_add h depth
  rwa [Nat.zero_add] at hadd

theorem wellBraced_nil : WellBraced [] := rfl

/-- Some brace of the text closes one that was opened before it, and then the first that does stands behind
a balanced content. -/
theorem depthAfter?_eq_none_iff {text : List Char} : Text.depthAfter? 0 text = none ↔
    ∃ content rest, text = content ++ '\x7d' :: rest ∧ WellBraced content := by
  constructor
  · intro h
    -- The induction goes into the braces of the content, so some may be open at its start.
    suffices hinner : ∀ {text : List Char} {inner : Nat}, Text.depthAfter? inner text = none →
        ∃ content rest, text = content ++ '\x7d' :: rest ∧ Text.depthAfter? inner content = some 0 from
      hinner h
    intro text inner h
    induction text generalizing inner with
    | nil => cases h
    | cons c rest ih =>
      rw [depthAfter?_cons] at h
      cases hstep : braceStep inner c with
      | none =>
        obtain ⟨rfl, rfl⟩ := braceStep_eq_none_iff.1 hstep
        exact ⟨[], rest, rfl, rfl⟩
      | some next =>
        rw [hstep] at h
        obtain ⟨content, after, rfl, hcontent⟩ := ih h
        refine ⟨c :: content, after, rfl, ?_⟩
        rw [depthAfter?_cons, hstep]
        exact hcontent
  · rintro ⟨content, rest, rfl, hcontent⟩
    rw [depthAfter?_append, hcontent]
    rfl

/-- A brace that was opened before the text and is closed in it has its closing brace behind a balanced
content. -/
theorem exists_closing {depth outer : Nat} {text : List Char}
    (h : Text.depthAfter? (depth + 1) text = some outer) (hle : outer ≤ depth) :
    ∃ content rest, text = content ++ '\x7d' :: rest ∧ WellBraced content := by
  rw [← depthAfter?_eq_none_iff]
  -- Were the text without such a brace, the open braces around it would all stay open.
  cases hzero : Text.depthAfter? 0 text with
  | none => rfl
  | some inner =>
    have hadd := depthAfter?_add hzero (depth + 1)
    rw [Nat.zero_add, h] at hadd
    have hsame := Option.some.inj hadd
    omega

/-- A text that ends with an opening brace is not balanced. -/
theorem not_wellBraced_concat_open (text : List Char) : ¬ WellBraced (text ++ ['\x7b']) := by
  intro h
  rw [WellBraced, depthAfter?_append] at h
  obtain ⟨depth, -, hopen⟩ := Option.bind_eq_some_iff.1 h
  have hzero : depth + 1 = 0 := Option.some.inj hopen
  omega

/-! ## Blanks and line ends -/

/-- Blanks are no braces. -/
theorem AllBlank.braceFree {blanks : List Char} (h : AllBlank blanks) : BraceFree blanks := by
  intro c hc
  have hblank := h c hc
  constructor
  · rintro rfl
    cases hblank
  · rintro rfl
    cases hblank

/-- Blanks at the end of a text do not matter to the braces in it. -/
theorem depthAfter?_trimEnd (depth : Nat) (text : List Char) :
    depthAfter? depth (trimEnd text) = depthAfter? depth text := by
  obtain ⟨blanks, hblanks, htext⟩ := exists_trimEnd text
  conv_rhs => rw [htext, depthAfter?_append]
  cases depthAfter? depth (trimEnd text) with
  | none => rfl
  | some inner => exact (depthAfter?_of_braceFree hblanks.braceFree inner).symm

/-- Blanks at the ends of lines do not matter to the braces that the lines open and close. -/
theorem depthAfter?_flatten_trimEnd (depth : Nat) (ls : List (List Char)) :
    depthAfter? depth (ls.map trimEnd).flatten = depthAfter? depth ls.flatten := by
  induction ls generalizing depth with
  | nil => rfl
  | cons line rest ih =>
    rw [List.map_cons, List.flatten_cons, List.flatten_cons, depthAfter?_append, depthAfter?_append,
      depthAfter?_trimEnd]
    exact congrArg _ (funext ih)

/-- The lines of a text have its braces, those of what was already read first. -/
theorem depthAfter?_linesFrom (depth : Nat) (read text : List Char) :
    depthAfter? depth (linesFrom read text).flatten = depthAfter? depth (read.reverse ++ text) := by
  induction text generalizing depth read with
  | nil =>
    rw [linesFrom, List.append_nil]
    split
    · rename_i hread
      rw [List.isEmpty_iff.1 hread]
      rfl
    · rw [List.flatten_singleton]
  | cons c rest ih =>
    rw [linesFrom]
    split
    · rename_i hfeed
      subst hfeed
      -- The line feed is no brace, and neither is a return before it.
      rw [List.flatten_cons, depthAfter?_append, depthAfter?_append, ← depthAfter?_trimEnd,
        trimEnd_dropReturn, depthAfter?_trimEnd]
      exact congrArg _ (funext fun inner => ih inner [])
    · rw [ih, List.reverse_cons, List.append_assoc, List.singleton_append]

/-- The lines of a text open and close the braces that the text does. -/
theorem depthAfter?_lines (depth : Nat) (text : List Char) :
    depthAfter? depth (lines text).flatten = depthAfter? depth text :=
  depthAfter?_linesFrom depth [] text

end ActionForge.Text
