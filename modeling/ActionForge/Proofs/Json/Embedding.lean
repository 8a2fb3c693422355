import ActionForge.Proofs.Json.Reading
import ActionForge.Proofs.Text.Lines

/-!
# Embedding printed values

A value that is put into a larger text has the lines of its pretty text moved in, and for that the text is
split into lines, which takes off carriage returns, and joined again. No data is lost, since the printer
leaves no raw line break in a literal. `Layout` says how pretty text is laid out, by one induction over the
value. By it the embedded text is the pretty text with blanks after the line feeds that stand outside
literals (`toList_embedded`), and the scanner finds the same tokens in both, whatever the value is
(`tokens_embedded`).
-/

namespace ActionForge.Json

/-! ## The layout of pretty text -/

/-- The layout of pretty text: literals, printable characters between them, and new lines, of which one that
is not moved in at all has a closing bracket on it. -/
inductive Layout : List Char → Prop
  | nil : Layout []
  | plain {c : Char} {rest : List Char} (unquoted : c ≠ '"') (printable : 0x20 ≤ c.toNat)
      (h : Layout rest) : Layout (c :: rest)
  | literal (s : List Char) {rest : List Char} (h : Layout rest) : Layout (quotedChars s ++ rest)
  | inner (level : Nat) {rest : List Char} (h : Layout rest) : Layout (newLine (level + 1) ++ rest)
  | closing (level : Nat) {c : Char} {rest : List Char} (bracket : c = ']' ∨ c = '\x7d')
      (h : Layout rest) : Layout (newLine level ++ c :: rest)

/-- A number in front of a text in layout is made of plain characters. -/
theorem Layout.numeric {text rest : List Char} (htext : AllNumeric text) (h : Layout rest) :
    Layout (text ++ rest) := by
  induction text with
  | nil => exact h
  | cons c text ih =>
    obtain ⟨hc, htext⟩ := List.forall_mem_cons.1 htext
    have hplain : c ≠ '"' ∧ 0x20 ≤ c.toNat := by
      have hcases : (((c.isDigit ∨ c = '-') ∨ c = '+') ∨ c = '.') ∨ c = 'e' := by
        simpa [isNumeric] using hc
      rcases hcases with (((hdigit | rfl) | rfl) | rfl) | rfl
      · have hlow : 48 ≤ c.toNat := (show 48 ≤ c.toNat ∧ c.toNat ≤ 57 by
          simpa [Char.isDigit, UInt32.le_iff_toNat_le] using hdigit).1
        refine ⟨?_, Nat.le_trans (by decide) hlow⟩
        rintro rfl
        exact absurd hdigit (by decide)
      all_goals decide
    exact .plain hplain.1 hplain.2 (ih htext)

mutual

/-- The pretty text of a value is laid out as such in front of any text that is. -/
theorem layout_prettyChars (level : Nat) : (value : Json) → {rest : List Char} → Layout rest →
    Layout (value.prettyChars level ++ rest)
  | .null, _, h | .bool true, _, h | .bool false, _, h | .array [], _, h | .object [], _, h => by
    simp only [prettyChars, List.cons_append, List.nil_append]
    -- These texts have no literal and no new line.
    repeat refine .plain (by decide) (by decide) ?_
    exact h
  | .number n, _, h => .numeric (allNumeric_chars n) h
  | .text s, _, h => .literal s.toList h
  | .array (item :: items), _, h => by
    simp only [prettyChars, List.cons_append, List.append_assoc, List.nil_append]
    exact .plain (by decide) (by decide) (.inner level (layout_prettyChars (level + 1) item
      (layout_prettyItems level items (.closing level (.inl rfl) h))))
  | .object ((name, value) :: members), _, h => by
    simp only [prettyChars, List.cons_append, List.append_assoc, List.nil_append]
    exact .plain (by decide) (by decide) (.inner level (.literal name.toList
      (.plain (by decide) (by decide) (.plain (by decide) (by decide)
        (layout_prettyChars (level + 1) value
          (layout_prettyMembers level members (.closing level (.inr rfl) h)))))))

/-- The items after the first one are laid out on lines of their own. -/
theorem layout_prettyItems (level : Nat) : (items : List Json) → {rest : List Char} → Layout rest →
    Layout (prettyItems (level + 1) items ++ rest)
  | [], _, h => h
  | item :: items, _, h => by
    simp only [prettyItems, List.cons_append, List.append_assoc]
    exact .plain (by decide) (by decide) (.inner level (layout_prettyChars (level + 1) item
      (layout_prettyItems level items h)))

/-- The members after the first one are laid out on lines of their own. -/
theorem layout_prettyMembers (level : Nat) : (members : List (String × Json)) → {rest : List Char} →
    Layout rest → Layout (prettyMembers (level + 1) members ++ rest)
  | [], _, h => h
  | (name, value) :: members, _, h => by
    simp only [prettyMembers, List.cons_append, List.append_assoc, List.nil_append]
    exact .plain (by decide) (by decide) (.inner level (.literal name.toList
      (.plain (by decide) (by decide) (.plain (by decide) (by decide)
        (layout_prettyChars (level + 1) value (layout_prettyMembers level members h))))))

end

/-- Pretty text is laid out as such. -/
theorem layout_pretty (value : Json) : Layout (value.prettyChars 0) := by
  have h := layout_prettyChars 0 value .nil
  rwa [List.append_nil] at h

/-- A text in layout has no carriage return, so taking it apart into lines loses none. -/
theorem Layout.return_notMem {text : List Char} (h : Layout text) : '\r' ∉ text := by
  have hline : ∀ level, '\r' ∉ newLine level := by simp [newLine]
  have hliteral : ∀ s, '\r' ∉ quotedChars s := fun s hmem =>
    absurd (printable_of_mem_quotedChars hmem) (by decide)
  induction h with
  | nil => exact List.not_mem_nil
  | plain _ hprintable _ ih =>
    refine List.not_mem_cons_of_ne_of_not_mem (fun hc => ?_) ih
    rw [← hc] at hprintable
    exact absurd hprintable (by decide)
  | literal s _ ih => simp [hliteral, ih]
  | inner level _ ih => simp [hline, ih]
  | closing level hbracket _ ih => rcases hbracket with rfl | rfl <;> simp [hline, ih]

/-- No new line is the end of a text in layout. -/
theorem Layout.getLast?_ne {text : List Char} (h : Layout text) : text.getLast? ≠ some '\n' := by
  -- a rest that is not empty ends the text, and an empty one is ended by what stands before it
  have hends : ∀ {front rest : List Char} {c : Char}, front.getLast? = some c → c ≠ '\n' →
      rest.getLast? ≠ some '\n' → (front ++ rest).getLast? ≠ some '\n' := by
    intro front rest c hfront hc hrest
    by_cases hnil : rest = []
    · rw [hnil, List.append_nil, hfront]
      exact fun h => hc (Option.some.inj h)
    · rwa [List.getLast?_append_of_ne_nil _ hnil]
  induction h with
  | nil => exact fun h => absurd h (by decide)
  | @plain c rest _ hprintable _ ih =>
    have hc : c ≠ '\n' := by
      rintro rfl
      exact absurd hprintable (by decide)
    exact @hends [c] _ c rfl hc ih
  | literal s _ ih =>
    have hquote : (quotedChars s).getLast? = some '"' := by
      rw [quotedChars, ← List.cons_append, List.getLast?_concat]
    exact hends hquote (by decide) ih
  | inner level _ ih =>
    have hblank : (newLine (level + 1)).getLast? = some ' ' := by
      rw [newLine, Nat.mul_succ, List.replicate_succ', ← List.cons_append, List.getLast?_concat]
    exact hends hblank (by decide) ih
  | closing level hbracket _ ih =>
    rw [List.append_cons]
    exact hends List.getLast?_concat (by rcases hbracket with rfl | rfl <;> decide) ih

/-! ## The embedded text -/

/-- Joining lines that are moved in is moving in their join. -/
theorem movedIn_join (indent : Nat) {ls : List (List Char)} (h : ∀ line ∈ ls, '\n' ∉ line) :
    movedIn indent (Text.join false ls) =
      List.intercalate ('\n' :: List.replicate indent ' ') ls := by
  induction ls with
  | nil => rfl
  | cons line rest ih =>
    obtain ⟨hline, hrest⟩ := List.forall_mem_cons.1 h
    by_cases hnil : rest = []
    · subst hnil
      rw [Text.join, List.intercalate_singleton, List.intercalate_singleton]
      exact (movedIn_append ..).trans ((List.append_nil _).trans (movedIn_of_notMem indent hline))
    · have hfeed : ∀ text, movedIn indent ('\n' :: text) =
          '\n' :: (List.replicate indent ' ' ++ movedIn indent text) := fun _ => rfl
      rw [Text.join_cons false line hnil, movedIn_append, hfeed, ih hrest, movedIn_of_notMem indent hline]
      obtain ⟨next, more, rfl⟩ := List.exists_cons_of_ne_nil hnil
      rw [List.intercalate_cons_cons, List.append_assoc, List.cons_append]

/-- A new line is moved in by more blanks. -/
theorem movedIn_newLine (indent level : Nat) :
    movedIn indent (newLine level) =
      '\n' :: (List.replicate indent ' ' ++ List.replicate (2 * level) ' ') := by
  have hnone : '\n' ∉ List.replicate (2 * level) ' ' := by simp
  exact congrArg (fun text => '\n' :: (List.replicate indent ' ' ++ text)) (movedIn_of_notMem indent hnone)

/-- Taking a text in layout apart into lines and joining them loses no carriage return and no line feed. -/
theorem toList_embedded_eq (value : Json) (indent : Nat) :
    (value.embedded indent).toList = movedIn indent (value.prettyChars 0) := by
  have hlayout := layout_pretty value
  have hopen : Text.isClosed (value.prettyChars 0) = false :=
    decide_eq_false hlayout.getLast?_ne
  have hjoin := Text.join_lines hlayout.return_notMem
  rw [hopen] at hjoin
  rw [embedded, String.toList_ofList, ← movedIn_join indent fun _ => Text.notMem_of_mem_lines, hjoin]

/-- Where a character of a JSON text stands: outside the literals, in one, or after a backslash in one. -/
inductive Region where
  | outside
  | literal
  | escaped
  deriving DecidableEq, Repr

/-- Where the next character stands. -/
def Region.after : Region → Char → Region
  | .outside, c => if c = '"' then .literal else .outside
  | .literal, c => if c = '"' then .outside else if c = '\\' then .escaped else .literal
  | .escaped, _ => .literal

/-- Puts `indent` blanks after every line feed that stands outside the literals, and changes nothing else. -/
def spaced (indent : Nat) : Region → List Char → List Char
  | _, [] => []
  | region, c :: rest =>
    if region = .outside ∧ c = '\n' then '\n' :: (List.replicate indent ' ' ++ spaced indent .outside rest)
    else c :: spaced indent (region.after c) rest

/-- Nothing is put into a literal: an escape leads back into it, whatever it stands for. -/
theorem spaced_quotedChar (indent : Nat) (c : Char) (rest : List Char) :
    spaced indent .literal (quotedChar c ++ rest) = quotedChar c ++ spaced indent .literal rest := by
  have hplain : ∀ {d : Char}, d ≠ '"' → d ≠ '\\' → ∀ text,
      spaced indent .literal (d :: text) = d :: spaced indent .literal text := by
    intro d hquote hbackslash text
    rw [spaced, if_neg (by simp), Region.after, if_neg hquote, if_neg hbackslash]
  have hescape : ∀ d text,
      spaced indent .literal ('\\' :: d :: text) = '\\' :: d :: spaced indent .literal text := fun _ _ => rfl
  have hdigit : ∀ n text, spaced indent .literal (Text.hexDigit n :: text) =
      Text.hexDigit n :: spaced indent .literal text := by
    intro n text
    obtain ⟨hquote, hbackslash⟩ := forall_hexDigit (p := fun c => c ≠ '"' ∧ c ≠ '\\') (by decide) n
    exact hplain hquote hbackslash text
  have hzero := fun text => @hplain '0' (by decide) (by decide) text
  unfold quotedChar
  split_ifs with hquote hbackslash
  -- The short escapes come first, then the escapes with digits.
  iterate 7 exact hescape _ rest
  · simp only [List.cons_append, List.nil_append, hescape, hzero, hdigit]
  · exact hplain hquote hbackslash rest

/-- Nothing is put between the characters of a literal. -/
theorem spaced_flatMap_quotedChar (indent : Nat) (cs rest : List Char) :
    spaced indent .literal (cs.flatMap quotedChar ++ rest) =
      cs.flatMap quotedChar ++ spaced indent .literal rest := by
  induction cs with
  | nil => rfl
  | cons c cs ih => rw [List.flatMap_cons, List.append_assoc, spaced_quotedChar, ih, List.append_assoc]

/-- A literal is left as it is, and what follows stands outside it again. -/
theorem spaced_quotedChars (indent : Nat) (s rest : List Char) :
    spaced indent .outside (quotedChars s ++ rest) = quotedChars s ++ spaced indent .outside rest := by
  have hopen : ∀ text, spaced indent .outside ('"' :: text) = '"' :: spaced indent .literal text :=
    fun _ => rfl
  have hclose : ∀ text, spaced indent .literal ('"' :: text) = '"' :: spaced indent .outside text :=
    fun _ => rfl
  rw [quotedChars, List.cons_append, hopen, List.append_assoc, spaced_flatMap_quotedChar,
    List.singleton_append, hclose, List.cons_append, List.append_assoc, List.singleton_append]

/-- A new line outside the literals is moved in. -/
theorem spaced_newLine (indent level : Nat) (rest : List Char) :
    spaced indent .outside (newLine level ++ rest) =
      movedIn indent (newLine level) ++ spaced indent .outside rest := by
  have hblank : ∀ text, spaced indent .outside (' ' :: text) = ' ' :: spaced indent .outside text :=
    fun _ => rfl
  have hblanks : ∀ count text, spaced indent .outside (List.replicate count ' ' ++ text) =
      List.replicate count ' ' ++ spaced indent .outside text := by
    intro count text
    induction count with
    | zero => rfl
    | succ count ih => rw [List.replicate_succ, List.cons_append, hblank, ih, List.cons_append]
  have hfeed : ∀ text, spaced indent .outside ('\n' :: text) =
      '\n' :: (List.replicate indent ' ' ++ spaced indent .outside text) := fun _ => rfl
  rw [movedIn_newLine, newLine, List.cons_append, hfeed, hblanks, List.cons_append, List.append_assoc]

/-- In a text in layout no line feed stands in a literal. -/
theorem Layout.spaced_eq {text : List Char} (h : Layout text) (indent : Nat) :
    spaced indent .outside text = movedIn indent text := by
  have hplain : ∀ {c : Char}, c ≠ '"' → c ≠ '\n' → ∀ rest,
      spaced indent .outside (c :: rest) = c :: spaced indent .outside rest := by
    intro c hquote hfeed rest
    rw [spaced, if_neg (by simp [hfeed]), Region.after, if_neg hquote]
  induction h with
  | nil => rfl
  | @plain c rest hquote hprintable _ ih =>
    have hfeed : c ≠ '\n' := by
      rintro rfl
      exact absurd hprintable (by decide)
    rw [hplain hquote hfeed, movedIn_cons indent hfeed, ih]
  | literal s _ ih =>
    rw [spaced_quotedChars, movedIn_append, movedIn_of_notMem indent (newline_notMem_quotedChars s), ih]
  | inner level _ ih => rw [spaced_newLine, movedIn_append, ih]
  | @closing level c rest hbracket _ ih =>
    have hc : c ≠ '"' ∧ c ≠ '\n' := by rcases hbracket with rfl | rfl <;> decide
    rw [spaced_newLine, movedIn_append, hplain hc.1 hc.2, movedIn_cons indent hc.2, ih]

/-- The embedded text is the pretty text with blanks put in right after line feeds that stand outside the
literals, and with nothing else changed. -/
theorem toList_embedded (value : Json) (indent : Nat) :
    (value.embedded indent).toList = spaced indent .outside value.pretty.toList := by
  rw [toList_embedded_eq, pretty, String.toList_ofList, (layout_pretty value).spaced_eq]

/-! ## Tokens of the embedded text -/

/-- The scanner stands outside literals. No word that it waits for has a quote or a line feed in it. -/
inductive Mode.Outside : Mode → Prop
  | between : Outside .between
  | word {left : List Char} (token : Token) (quote : '"' ∉ left) (feed : '\n' ∉ left) :
    Outside (.word left token)
  | number (n : NumberText) : Outside (.number n)

/-- Reading a character that opens no literal depends only on how the scanner reads on outside literals. -/
theorem enter_congr {c : Char} (hquote : c ≠ '"') {go go' : Mode → List Token}
    (h : ∀ mode, mode.Outside → go mode = go' mode) : enter c go = enter c go' := by
  have hword : ∀ (left : List Char) token, '"' ∉ left → '\n' ∉ left →
      go (.word left token) = go' (.word left token) :=
    fun _ token hquote hfeed => h _ (.word token hquote hfeed)
  unfold enter
  rw [if_neg hquote, if_neg hquote, h _ .between, h _ (.number _), h _ (.number _),
    hword _ _ (by decide) (by decide), hword _ _ (by decide) (by decide), hword _ _ (by decide) (by decide)]

/-- A character other than a quote leaves the scanner outside the literals, so texts that are scanned alike
there may follow it. -/
theorem scan_cons_congr {c : Char} (hquote : c ≠ '"') {text text' : List Char}
    (h : ∀ mode, mode.Outside → scan mode text = scan mode text') {mode : Mode} (hmode : mode.Outside) :
    scan mode (c :: text) = scan mode (c :: text') := by
  have henter : (enter c fun mode => scan mode text) = enter c fun mode => scan mode text' :=
    enter_congr hquote h
  cases hmode with
  | between => exact henter
  | @word left token hquotes hfeeds =>
    -- A word that is complete is followed by whatever is entered next.
    cases left with
    | nil => exact congrArg (token :: ·) henter
    | cons expected left =>
      rw [scan, scan, h _ (.word token (fun hm => hquotes (List.mem_cons_of_mem _ hm))
        fun hm => hfeeds (List.mem_cons_of_mem _ hm))]
  | number n =>
    rw [scan, scan]
    cases n.step c with
    | more m => exact h _ (.number m)
    | finished => exact congrArg (Token.number n.value? :: ·) henter
    | refused => rfl

/-- A quote or a line feed ends what is being read outside literals, if it may stand there at all. -/
theorem scan_break {c : Char} (hc : c = '"' ∨ c = '\n') {text text' : List Char}
    (h : scan .between (c :: text) = scan .between (c :: text')) {mode : Mode} (hmode : mode.Outside) :
    scan mode (c :: text) = scan mode (c :: text') := by
  cases hmode with
  | between => exact h
  -- A word goes on only with its own letters, of which neither is one.
  | @word left token hquotes hfeeds =>
    cases left with
    | nil => exact congrArg (token :: ·) h
    | cons expected left =>
      have hne : c ≠ expected := by
        rintro rfl
        rcases hc with rfl | rfl
        · exact hquotes List.mem_cons_self
        · exact hfeeds List.mem_cons_self
      rw [scan, scan, if_neg hne, if_neg hne]
  | number n =>
    have hstep : n.step c = .finished ∨ n.step c = .refused := by
      unfold NumberText.step
      rcases hc with rfl | rfl <;> cases n.part <;> simp
    rw [scan, scan]
    rcases hstep with hstep | hstep <;> rw [hstep]
    exact congrArg (Token.number n.value? :: ·) h

/-- Blanks after a line feed outside literals do not change the tokens. -/
theorem Layout.scan_movedIn {text : List Char} (h : Layout text) (indent : Nat) {mode : Mode}
    (hmode : mode.Outside) : scan mode (movedIn indent text) = scan mode text := by
  have hfeed : ∀ level {rest : List Char}, scan .between (movedIn indent rest) = scan .between rest →
      ∀ {mode : Mode}, mode.Outside →
        scan mode (movedIn indent (newLine level) ++ movedIn indent rest) =
          scan mode (newLine level ++ rest) := by
    intro level rest hrest mode hmode
    have hplain := scan_newLine 0 level rest
    rw [movedIn_zero] at hplain
    refine scan_break (c := '\n') (.inr rfl) ?_ hmode
    exact (scan_newLine indent level (movedIn indent rest)).trans (hrest.trans hplain.symm)
  induction h generalizing mode with
  | nil => rfl
  | @plain c rest hquote hprintable _ ih =>
    have hc : c ≠ '\n' := by
      rintro rfl
      exact absurd hprintable (by decide)
    rw [movedIn_cons indent hc]
    -- The mode may change here, so the induction is over all modes outside literals.
    exact scan_cons_congr hquote (fun _ => ih) hmode
  | @literal s rest _ ih =>
    rw [movedIn_append, movedIn_of_notMem indent (newline_notMem_quotedChars s)]
    refine scan_break (.inl rfl) ?_ hmode
    have hquoted := scan_quotedChars (String.ofList s)
    rw [String.toList_ofList] at hquoted
    exact (hquoted _).trans ((congrArg _ (ih .between)).trans (hquoted _).symm)
  | inner level _ ih =>
    rw [movedIn_append]
    exact hfeed (level + 1) (ih .between) hmode
  | @closing level c rest hbracket _ ih =>
    have hc : c ≠ '"' ∧ c ≠ '\n' := by rcases hbracket with rfl | rfl <;> decide
    rw [movedIn_append]
    refine hfeed level ?_ hmode
    rw [movedIn_cons indent hc.2]
    exact scan_cons_congr hc.1 (fun _ => ih) .between

/-- Whatever the value is, its embedded text has the tokens of its pretty text. -/
theorem tokens_embedded (value : Json) (indent : Nat) :
    tokens (value.embedded indent).toList = tokens value.pretty.toList := by
  rw [toList_embedded_eq, pretty, String.toList_ofList]
  exact (layout_pretty value).scan_movedIn indent .between

/-- Whoever reads the embedded text finds what the pretty text holds. -/
theorem readWhole_embedded {α : Type} (read : Draft → Read α) (value : Json) (indent : Nat) :
    Draft.readWhole read (value.embedded indent) = Draft.readWhole read value.pretty := by
  rw [Draft.readWhole, Draft.readWhole, Draft.ofText, Draft.ofText, tokens_embedded]

/-! ## Values that are read back -/

/-- A value that its text gives back: objects have distinct names, and numbers are read back. -/
structure Legible (value : Json) : Prop where
  wellFormed : value.WellFormed
  numbers : value.NumbersReadBack

theorem legible_text (s : String) : (Json.text s).Legible := ⟨trivial, trivial⟩

theorem legible_bool (b : Bool) : (Json.bool b).Legible := ⟨trivial, trivial⟩

/-- An array is read back when its items are. -/
theorem legible_array_iff {items : List Json} :
    (Json.array items).Legible ↔ ∀ item ∈ items, item.Legible := by
  induction items with
  | nil => exact ⟨fun _ _ h => (List.not_mem_nil h).elim, fun _ => ⟨trivial, trivial⟩⟩
  | cons item rest ih =>
    rw [List.forall_mem_cons, ← ih]
    exact ⟨fun ⟨hformed, hnumbers⟩ => ⟨⟨hformed.1, hnumbers.1⟩, ⟨hformed.2, hnumbers.2⟩⟩,
      fun ⟨hitem, hrest⟩ => ⟨⟨hitem.1, hrest.1⟩, ⟨hitem.2, hrest.2⟩⟩⟩

/-- The numbers in members are read back when those in every value are. -/
theorem membersReadBack_iff {members : List (String × Json)} :
    MembersReadBack members ↔ ∀ member ∈ members, member.2.NumbersReadBack := by
  induction members with
  | nil => simp [MembersReadBack]
  | cons member rest ih =>
    obtain ⟨name, value⟩ := member
    simp [MembersReadBack, ih]

/-- An object is read back when its names are distinct and its values are read back. -/
theorem legible_object_iff {members : Entries Json} :
    (Json.object members).Legible ↔ members.Distinct ∧ ∀ member ∈ members, member.2.Legible := by
  constructor
  · rintro ⟨⟨hdistinct, hformed⟩, hnumbers⟩
    exact ⟨hdistinct, fun member hmember =>
      ⟨membersWellFormed_iff.1 hformed member hmember, membersReadBack_iff.1 hnumbers member hmember⟩⟩
  · rintro ⟨hdistinct, hmembers⟩
    exact ⟨⟨hdistinct, membersWellFormed_iff.2 fun member hmember => (hmembers member hmember).1⟩,
      membersReadBack_iff.2 fun member hmember => (hmembers member hmember).2⟩

variable {value : Json} {room : Nat}

/-- The embedded text of a value is read back, by a reader with room for it. -/
theorem readWhole_of_legible (h : value.Legible) (hdepth : value.depth ≤ room) (indent : Nat) :
    Draft.readWhole (Draft.readValue room) (value.embedded indent) = .ok value := by
  have htokens : tokens (value.embedded indent).toList = value.written := by
    -- Blanks before lines do not matter, so the tokens are those of the value itself.
    have hscan := @scan_movedIn indent 0 value h.numbers [] endsNumber_nil
    rw [List.append_nil] at hscan
    rw [toList_embedded_eq, tokens, hscan]
    exact List.append_nil _
  have hbuild := Draft.build_written value [] []
  rw [List.append_nil] at hbuild
  rw [Draft.readWhole, Draft.ofText, htokens, hbuild, Draft.deliver,
    readValue_draft value h.wellFormed hdepth]
  rfl

/-- Reads the value at the start of a text, whatever stands after it. -/
def readStart (room : Nat) (text : List Char) : Read Json :=
  (Draft.build (tokens text) .value []).1.readValue room

/-- In a larger text the value is read back where its embedded text starts. -/
theorem readStart_embedded (h : value.Legible) (hdepth : value.depth ≤ room) (indent : Nat)
    {rest : List Char} (hends : EndsNumber rest) :
    readStart room ((value.embedded indent).toList ++ rest) = .ok value := by
  rw [readStart, toList_embedded_eq, tokens, scan_movedIn indent 0 value h.numbers hends,
    Draft.build_written, Draft.deliver, readValue_draft value h.wellFormed hdepth]

end ActionForge.Json
