import Mathlib.Data.List.Basic
import ActionForge.Json.Printer
import ActionForge.Json.Token

/-!
# Scanning printed values

The pretty text of a value is scanned as the tokens of the value, `Json.written`, and nothing is left of
its line breaks and blanks. Texts come back whatever characters they hold: the printer writes out the
escapes of quotes, backslashes and control characters, and the scanner has no other rule for any character.
Numbers come back when the scanner inverts the printer on their own texts, and it does for whole ones. The
main statement, `scan_movedIn`, holds of the text with its lines moved in by any number of blanks, so of the
text as it stands in a file and as it stands in a script.
-/

namespace ActionForge

/-! ## Numbers that are read back -/

/-- The number's own text is scanned as the number. -/
def Number.ReadsBack (n : Number) : Prop := Json.tokens n.chars = [.number (some n)]

/-- An integer of 64 bits, signed or unsigned, or the zero that is written with a sign. -/
def Number.IsWhole : Number → Prop
  | .integer n => -(Nat.pow 2 63 : Int) ≤ n ∧ n < (Nat.pow 2 64 : Int)
  | .float x => x = .zero true

namespace Json

mutual

/-- All numbers in the value are whole. -/
def IsWhole : Json → Prop
  | .number n => n.IsWhole
  | .array items => ItemsWhole items
  | .object members => MembersWhole members
  | _ => True

/-- All numbers in the items are whole. -/
def ItemsWhole : List Json → Prop
  | [] => True
  | item :: rest => item.IsWhole ∧ ItemsWhole rest

/-- All numbers in the members are whole. -/
def MembersWhole : List (String × Json) → Prop
  | [] => True
  | (_, value) :: rest => value.IsWhole ∧ MembersWhole rest

end

/-- All numbers in the members are whole when those in every value are. -/
theorem membersWhole_iff {members : List (String × Json)} :
    MembersWhole members ↔ ∀ member ∈ members, member.2.IsWhole := by
  induction members with
  | nil => simp [MembersWhole]
  | cons member rest ih =>
    obtain ⟨name, value⟩ := member
    simp [MembersWhole, ih]

mutual

/-- All numbers in the value are read back from their texts. -/
def NumbersReadBack : Json → Prop
  | .number n => n.ReadsBack
  | .array items => ItemsReadBack items
  | .object members => MembersReadBack members
  | _ => True

/-- All numbers in the items are read back. -/
def ItemsReadBack : List Json → Prop
  | [] => True
  | item :: rest => item.NumbersReadBack ∧ ItemsReadBack rest

/-- All numbers in the members are read back. -/
def MembersReadBack : List (String × Json) → Prop
  | [] => True
  | (_, value) :: rest => value.NumbersReadBack ∧ MembersReadBack rest

end

/-! ## Tokens of values -/

mutual

/-- The tokens of a value. -/
def written : Json → List Token
  | .null => [.null]
  | .bool b => [.bool b]
  | .number n => [.number (some n)]
  | .text s => [.text (some s)]
  | .array [] => [.opening .square, .closing .square]
  | .array (item :: rest) => .opening .square :: (item.written ++ writtenItems rest)
  | .object [] => [.opening .curly, .closing .curly]
  | .object ((name, value) :: rest) =>
    .opening .curly :: .text (some name) :: .colon :: (value.written ++ writtenMembers rest)

/-- The tokens after an item: the other items, each after a comma, and the closing bracket. -/
def writtenItems : List Json → List Token
  | [] => [.closing .square]
  | item :: rest => .comma :: (item.written ++ writtenItems rest)

/-- The tokens after a member: the other members, each after a comma, and the closing bracket. -/
def writtenMembers : List (String × Json) → List Token
  | [] => [.closing .curly]
  | (name, value) :: rest =>
    .comma :: .text (some name) :: .colon :: (value.written ++ writtenMembers rest)

end

/-! ## Blanks -/

/-- Blanks between tokens are passed over. -/
theorem scan_blanks {blanks : List Char} (h : ∀ c ∈ blanks, isSpace c) (rest : List Char) :
    scan .between (blanks ++ rest) = scan .between rest := by
  induction blanks with
  | nil => rfl
  | cons c blanks ih =>
    rw [List.cons_append, scan, enter, if_pos (h c List.mem_cons_self),
      ih fun d hd => h d (List.mem_cons_of_mem c hd)]

/-- Where a word ends, scanning goes on with what follows. -/
theorem scan_word (token : Token) (rest : List Char) :
    scan (.word [] token) rest = token :: scan .between rest := by
  cases rest <;> rfl

/-! ## Texts -/

/-- The two digits of a control character's code are read as the halves of the code. -/
theorem hexValue?_hexDigit {n : Nat} (h : n < 0x20) :
    Text.hexValue? (Text.hexDigit (n / 16)) = some (n / 16) ∧
      Text.hexValue? (Text.hexDigit n) = some (n % 16) := by
  revert n
  decide

/-- Four characters have four bytes at least, so no escape of four digits is cut off. -/
theorem hasFourBytes_cons (a b c d : Char) (rest : List Char) :
    hasFourBytes (a :: b :: c :: d :: rest) := by
  have hsize : ∀ c : Char, 1 ≤ c.utf8Size := Char.utf8Size_pos
  simp only [hasFourBytes, List.take_succ_cons, List.take_zero, Text.byteLength, decide_eq_true_eq]
  have := hsize a
  have := hsize b
  have := hsize c
  have := hsize d
  omega

/-- A control character is read back from the digits of its code. -/
theorem scan_control {c : Char} (h : c.toNat < 0x20) (read rest : List Char) :
    scan (.text read true) ('\\' :: 'u' :: '0' :: '0' :: Text.hexDigit (c.toNat / 16) ::
      Text.hexDigit c.toNat :: rest) = scan (.text (c :: read) true) rest := by
  obtain ⟨hhigh, hlow⟩ := hexValue?_hexDigit h
  have hzero : Text.hexValue? '0' = some 0 := by decide
  have hvalue : (c.toNat / 16) * 16 + c.toNat % 16 = c.toNat := by omega
  have hafter : afterHex read true none c.toNat = .text (c :: read) true := by
    rw [afterHex, if_neg (by omega), if_neg (by omega), Char.ofNat_toNat]
  simp only [scan, inText, hasFourBytes_cons, hzero, hhigh, hlow]
  simp [hvalue, hafter]

/-- Every character is read back from the way it is quoted. -/
theorem scan_quotedChar (c : Char) (read rest : List Char) :
    scan (.text read true) (quotedChar c ++ rest) = scan (.text (c :: read) true) rest := by
  unfold quotedChar
  -- The quote, the backslash and the characters with a short escape, in the order in which they are tried.
  split
  · subst_vars; rfl
  split
  · subst_vars; rfl
  split
  · subst_vars; rfl
  split
  · subst_vars; rfl
  split
  · subst_vars; rfl
  split
  · rename_i h
    have hc : c = Char.ofNat 8 := by rw [← h, Char.ofNat_toNat]
    subst hc
    rfl
  split
  · rename_i h
    have hc : c = Char.ofNat 12 := by rw [← h, Char.ofNat_toNat]
    subst hc
    rfl
  split
  · rename_i h
    exact scan_control h read rest
  · rename_i hquote hbackslash _ _ _ _ _ hcontrol
    rw [List.singleton_append, scan, inText, if_neg hquote, if_neg hbackslash, if_neg hcontrol]

/-- The characters of a text are read back one after the other. -/
theorem scan_flatMap_quotedChar (cs read rest : List Char) :
    scan (.text read true) (cs.flatMap quotedChar ++ rest) = scan (.text (cs.reverse ++ read) true) rest := by
  induction cs generalizing read with
  | nil => rfl
  | cons c cs ih =>
    rw [List.flatMap_cons, List.append_assoc, scan_quotedChar, ih, List.reverse_cons, List.append_assoc,
      List.singleton_append]

/-- A quoted text is scanned as the text. -/
theorem scan_quotedChars (s : String) (rest : List Char) :
    scan .between (quotedChars s.toList ++ rest) = .text (some s) :: scan .between rest := by
  have henter : ∀ rest, scan .between ('"' :: rest) = scan (.text [] true) rest := fun _ => rfl
  have hend : ∀ read rest, scan (.text read true) ('"' :: rest) =
      .text (some (String.ofList read.reverse)) :: scan .between rest := fun _ _ => rfl
  rw [quotedChars, List.cons_append, henter, List.append_assoc, scan_flatMap_quotedChar,
    List.singleton_append, hend, List.append_nil, List.reverse_reverse, String.ofList_toList]

/-! ## Numbers -/

/-- What follows cannot carry a number on. -/
def EndsNumber (rest : List Char) : Prop :=
  ∀ c, rest.head? = some c → c.isDigit = false ∧ c ≠ '.' ∧ c ≠ 'e' ∧ c ≠ 'E'

theorem endsNumber_nil : EndsNumber [] := nofun

/-- A character ends a number when it is none that numbers go on with. -/
theorem endsNumber_cons {c : Char} (h : c.isDigit = false ∧ c ≠ '.' ∧ c ≠ 'e' ∧ c ≠ 'E')
    (rest : List Char) : EndsNumber (c :: rest) := by
  intro d hd
  obtain rfl : c = d := Option.some.inj hd
  exact h

/-- A complete number is over where nothing carries it on. -/
theorem scan_number_end {n : NumberText} (hcomplete : n.isComplete) {rest : List Char}
    (h : EndsNumber rest) : scan (.number n) rest = .number n.value? :: scan .between rest := by
  cases rest with
  | nil => simp only [scan, if_pos hcomplete]
  | cons c rest =>
    obtain ⟨hdigit, hpoint, he, hE⟩ := h c rfl
    have hstep : n.step c = .finished := by
      unfold NumberText.step
      cases hpart : n.part <;> simp_all [NumberText.isComplete]
    simp only [scan, hstep]

/-- Digits behind the first are added to the whole part. -/
theorem scan_digits {digits : List Char} (h : ∀ c ∈ digits, c.isDigit) (n : NumberText)
    (hpart : n.part = .whole) (rest : List Char) :
    scan (.number n) (digits ++ rest) =
      scan (.number { n with whole := (digits.map Text.digitValue).reverse ++ n.whole }) rest := by
  induction digits generalizing n with
  | nil => rfl
  | cons c digits ih =>
    have hstep : n.step c = .more { n with whole := Text.digitValue c :: n.whole } := by
      rw [NumberText.step, hpart]
      simp [h c List.mem_cons_self]
    rw [List.cons_append, scan, hstep]
    refine (ih (fun d hd => h d (List.mem_cons_of_mem c hd))
      { n with whole := Text.digitValue c :: n.whole } hpart).trans ?_
    simp

/-- Digits fit as long as the number they make does. -/
theorem takeFitting_of_lt {limit : Nat} {digits : List Nat} {significand : Nat}
    (h : digits.foldl (fun n d => n * 10 + d) significand < limit) :
    takeFitting limit significand digits = (digits.foldl (fun n d => n * 10 + d) significand, []) := by
  induction digits generalizing significand with
  | nil => rfl
  | cons d digits ih =>
    have hgrows : ∀ (digits : List Nat) (n : Nat), n ≤ digits.foldl (fun n d => n * 10 + d) n := by
      intro digits
      induction digits with
      | nil => exact fun n => Nat.le_refl n
      | cons d digits ih => exact fun n => Nat.le_trans (by omega) (ih (n * 10 + d))
    have hd : significand * 10 + d < limit := Nat.lt_of_le_of_lt (hgrows digits _) h
    rw [takeFitting, if_pos hd, ih h, List.foldl_cons]

/-- A number is the value of its digits. -/
theorem foldl_digitValue (n : Nat) :
    ((Nat.toDigits 10 n).map Text.digitValue).foldl (fun n d => n * 10 + d) 0 = n := by
  have hstep : (fun (sum : Nat) (c : Char) => sum * 10 + Text.digitValue c) =
      fun sum c => 10 * sum + (c.toNat - '0'.toNat) := by
    funext sum c
    rw [Text.digitValue, Nat.mul_comm]
  rw [List.foldl_map, hstep]
  exact Nat.ofDigitChars_toDigits (by decide) (by decide)

/-- Every number begins with a digit. -/
theorem exists_toDigits_cons (n : Nat) : ∃ c digits, Nat.toDigits 10 n = c :: digits ∧ c.isDigit := by
  cases hdigits : Nat.toDigits 10 n with
  | nil => exact absurd hdigits Nat.toDigits_ne_nil
  | cons c digits =>
    have hmem : c ∈ Nat.toDigits 10 n := hdigits ▸ List.mem_cons_self
    exact ⟨c, digits, rfl, Nat.isDigit_of_mem_toDigits (by decide) (Nat.le_refl 10) hmem⟩

/-- Only the number zero starts with the digit zero. -/
theorem head_toDigits_ne {n : Nat} (h : n ≠ 0) {c : Char} {digits : List Char}
    (hdigits : Nat.toDigits 10 n = c :: digits) : c ≠ '0' := by
  induction n using Nat.strongRecOn generalizing c digits with
  | ind n ih =>
    -- The first digit of a long number is that of its tenth part, which is not zero either.
    by_cases hn : n < 10
    · have hdigit : ∀ d < 10, d ≠ 0 → Nat.digitChar d ≠ '0' := by decide
      rw [Nat.toDigits_of_lt_base hn, List.cons.injEq] at hdigits
      exact hdigits.1 ▸ hdigit n hn h
    · rw [Nat.toDigits_of_base_le (by decide) (by omega)] at hdigits
      obtain ⟨d, front, hfront, -⟩ := exists_toDigits_cons (n / 10)
      rw [hfront, List.cons_append, List.cons.injEq] at hdigits
      rw [← hdigits.1]
      exact ih (n / 10) (by omega) (by omega) hfront

/-- The value of an integer of 64 bits that was read digit by digit. -/
theorem value?_digits (part : NumberPart) {negative : Bool} {n : Nat} (h : n < Nat.pow 2 64)
    (hnegative : negative → n ≠ 0 ∧ n ≤ Nat.pow 2 63) :
    NumberText.value?
        { part, negative, whole := ((Nat.toDigits 10 n).map Text.digitValue).reverse } =
      some (.integer (if negative then -(n : Int) else n)) := by
  have hlt : ((Nat.toDigits 10 n).map Text.digitValue).foldl (fun n d => n * 10 + d) 0 < Nat.pow 2 64 := by
    rwa [foldl_digitValue]
  have hfits := takeFitting_of_lt hlt
  rw [foldl_digitValue] at hfits
  simp only [NumberText.value?, List.reverse_reverse, hfits]
  cases negative with
  | false => simp
  | true =>
    obtain ⟨hne, hle⟩ := hnegative rfl
    rw [if_pos (by simpa [hne] using hle)]

/-- The digits of an integer are read, from the first digit on, up to their end. -/
theorem scan_ofDigit {n : Nat} {c : Char} {digits : List Char} (hdigits : Nat.toDigits 10 n = c :: digits)
    {negative : Bool} (h : n < Nat.pow 2 64) (hnegative : negative → n ≠ 0 ∧ n ≤ Nat.pow 2 63)
    {rest : List Char}
    (hends : EndsNumber rest) :
    scan (.number (.ofDigit negative c)) (digits ++ rest) =
      .number (some (.integer (if negative then -(n : Int) else n))) :: scan .between rest := by
  have hvalue := fun part => value?_digits part h hnegative
  rw [hdigits] at hvalue
  -- The digit zero cannot be followed by others, so zero is complete at once.
  by_cases hzero : n = 0
  · subst hzero
    obtain ⟨rfl, rfl⟩ : '0' = c ∧ [] = digits := List.cons.injEq .. ▸ hdigits
    rw [List.nil_append, scan_number_end rfl hends]
    exact congrArg (Token.number · :: _) (hvalue .zero)
  · have hc : c ≠ '0' := head_toDigits_ne hzero hdigits
    have hdigit : ∀ d ∈ digits, d.isDigit := fun d hd =>
      Nat.isDigit_of_mem_toDigits (by decide) (Nat.le_refl 10) (hdigits ▸ List.mem_cons_of_mem c hd)
    have hstart : NumberText.ofDigit negative c =
        { part := .whole, negative, whole := [Text.digitValue c] } := by
      rw [NumberText.ofDigit, if_neg hc]
    rw [hstart, scan_digits hdigit _ rfl, scan_number_end rfl hends]
    have hwhole : (digits.map Text.digitValue).reverse ++ [Text.digitValue c] =
        ((c :: digits).map Text.digitValue).reverse := by simp
    rw [hwhole]
    exact congrArg (Token.number · :: _) (hvalue .whole)

/-- A digit between tokens begins a number. -/
theorem enter_digit {c : Char} (h : c.isDigit) (go : Mode → List Token) :
    enter c go = go (.number (.ofDigit false c)) := by
  have hne : ∀ d : Char, d.isDigit = false → c ≠ d := fun d hd e => by simp [← e, h] at hd
  have hspace : isSpace c = false := by
    simp [isSpace, hne ' ' (by decide), hne '\t' (by decide), hne '\n' (by decide), hne '\r' (by decide)]
  rw [enter, hspace]
  simp [h, hne '[' (by decide), hne ']' (by decide), hne '\x7b' (by decide), hne '\x7d' (by decide),
    hne ',' (by decide), hne ':' (by decide), hne '"' (by decide), hne 'n' (by decide),
    hne 't' (by decide), hne 'f' (by decide), hne '-' (by decide)]

/-- A whole number is scanned as the number. -/
theorem scan_whole {n : Number} (h : n.IsWhole) {rest : List Char} (hends : EndsNumber rest) :
    scan .between (n.chars ++ rest) = .number (some n) :: scan .between rest := by
  cases n with
  | float x =>
    obtain rfl : x = .zero true := h
    have hscan : scan .between ((Binary64.zero true).text ++ rest) =
        scan (.number { part := .fraction, negative := true, whole := [0], fraction := [0] }) rest := rfl
    rw [Number.chars, hscan, scan_number_end rfl hends]
    rfl
  | integer n =>
    obtain ⟨hlow, hhigh⟩ := h
    cases n with
    | ofNat n =>
      obtain ⟨c, digits, hdigits, hdigit⟩ := exists_toDigits_cons n
      have hfits : n < Nat.pow 2 64 := Int.ofNat_lt.1 hhigh
      rw [Number.chars, integerChars, hdigits, List.cons_append, scan, enter_digit hdigit,
        scan_ofDigit hdigits hfits (by simp) hends]
      rfl
    | negSucc n =>
      obtain ⟨c, digits, hdigits, hdigit⟩ := exists_toDigits_cons (n + 1)
      -- A negative number has a sign bit less for its digits.
      have hsmall : n + 1 ≤ Nat.pow 2 63 := Int.ofNat_le.1 (Int.neg_le_neg_iff.1 hlow)
      have hfits : n + 1 < Nat.pow 2 64 := Nat.lt_of_le_of_lt hsmall (by decide)
      have hsign : ∀ rest, scan .between ('-' :: c :: rest) =
          scan (.number (.ofDigit true c)) rest := by
        intro rest
        have henter : scan .between ('-' :: c :: rest) =
            scan (.number { part := .sign, negative := true }) (c :: rest) := rfl
        rw [henter, scan, NumberText.step, if_pos hdigit]
      rw [Number.chars, integerChars, hdigits, List.cons_append, List.cons_append, hsign,
        scan_ofDigit hdigits hfits (fun _ => ⟨Nat.succ_ne_zero n, hsmall⟩) hends]
      rfl

/-- A whole number is read back from its own text. -/
theorem readsBack_of_isWhole {n : Number} (h : n.IsWhole) : n.ReadsBack := by
  have hscan := @scan_whole n h [] endsNumber_nil
  rwa [List.append_nil] at hscan

/-! ## Characters of numbers -/

/-- Characters of which numbers are written. -/
def isNumeric (c : Char) : Bool := c.isDigit || c = '-' || c = '+' || c = '.' || c = 'e'

/-- The text has only characters of numbers. -/
def AllNumeric (text : List Char) : Prop := ∀ c ∈ text, isNumeric c

instance (text : List Char) : Decidable (AllNumeric text) :=
  decidable_of_iff (text.all isNumeric) List.all_eq_true

/-- Numeric texts may be put together. -/
theorem allNumeric_append {first second : List Char} (h : AllNumeric first) (h' : AllNumeric second) :
    AllNumeric (first ++ second) := List.forall_mem_append.2 ⟨h, h'⟩

/-- The digits of a number are numeric. -/
theorem allNumeric_toDigits (n : Nat) : AllNumeric (Nat.toDigits 10 n) := by
  intro c hc
  simp [isNumeric, Nat.isDigit_of_mem_toDigits (by decide) (Nat.le_refl 10) hc]

theorem allNumeric_zeros (count : Nat) : AllNumeric (List.replicate count '0') := by
  intro c hc
  rw [List.eq_of_mem_replicate hc]
  rfl

/-- Digits around a decimal point are numeric. -/
theorem allNumeric_positional {digits : List Char} (h : AllNumeric digits) (lead : Int) :
    AllNumeric (Binary64.positional digits lead) := by
  rw [Binary64.positional]
  split
  · exact allNumeric_append (allNumeric_append (by decide) (allNumeric_zeros _)) h
  · have htake : ∀ count, AllNumeric (digits.take count) := fun _ c hc => h c (List.mem_of_mem_take hc)
    have hdrop : ∀ count, AllNumeric (digits.drop count) := fun _ c hc => h c (List.mem_of_mem_drop hc)
    refine allNumeric_append (allNumeric_append (allNumeric_append (htake _) (allNumeric_zeros _))
      (by decide)) ?_
    split
    · decide
    · exact hdrop _

/-- Digits with an exponent are numeric. -/
theorem allNumeric_scientific {digits : List Char} (h : AllNumeric digits) (lead : Int) :
    AllNumeric (Binary64.scientific digits lead) := by
  rw [Binary64.scientific]
  refine allNumeric_append (allNumeric_append (allNumeric_append ?_ ?_) ?_) (allNumeric_toDigits _)
  · exact fun c hc => h c (List.mem_of_mem_take hc)
  · split
    · exact fun c hc => by cases hc
    · exact List.forall_mem_cons.2 ⟨rfl, fun c hc => h c (List.mem_of_mem_drop hc)⟩
  · split <;> decide

/-- A number is written with characters of numbers alone. -/
theorem allNumeric_chars (n : Number) : AllNumeric n.chars := by
  cases n with
  | integer n =>
    cases n with
    | ofNat n => exact allNumeric_toDigits n
    | negSucc n => exact List.forall_mem_cons.2 ⟨rfl, allNumeric_toDigits (n + 1)⟩
  | float x =>
    rw [Number.chars, Binary64.text]
    -- A sign may stand in front; zero has a form of its own.
    refine allNumeric_append (by split <;> decide) ?_
    split
    · decide
    · dsimp only
      split
      · exact allNumeric_positional (allNumeric_toDigits _) _
      · exact allNumeric_scientific (allNumeric_toDigits _) _

/-- A number stands on one line. -/
theorem newline_notMem_chars (n : Number) : '\n' ∉ n.chars :=
  fun h => absurd (allNumeric_chars n '\n' h) (by decide)

/-! ## Numbers in a text -/

/-- A number that was begun leaves a token, if only one for what is malformed. -/
theorem scan_number_ne_nil (n : NumberText) (text : List Char) : scan (.number n) text ≠ [] := by
  induction text generalizing n with
  | nil =>
    rw [scan]
    split <;> exact List.cons_ne_nil _ _
  | cons c rest ih =>
    rw [scan]
    split
    · exact ih _
    · exact List.cons_ne_nil _ _
    · exact List.cons_ne_nil _ _

/-- Where a number may start, every character of a number starts one or breaks the text off. -/
theorem enter_numeric {c : Char} (h : isNumeric c) :
    (∃ n, ∀ go : Mode → List Token, enter c go = go (.number n)) ∨
      ∀ go : Mode → List Token, enter c go = [.broken .malformed .malformed] := by
  have hcases : (((c.isDigit ∨ c = '-') ∨ c = '+') ∨ c = '.') ∨ c = 'e' := by simpa [isNumeric] using h
  rcases hcases with (((hdigit | rfl) | rfl) | rfl) | rfl
  · exact .inl ⟨_, enter_digit hdigit⟩
  · exact .inl ⟨_, fun _ => rfl⟩
  · exact .inr fun _ => rfl
  · exact .inr fun _ => rfl
  · exact .inr fun _ => rfl

/-- What is read of a number when its text ends is read of it where nothing carries it on. -/
theorem scan_number_append {text : List Char} (htext : AllNumeric text) {n : NumberText}
    {value : Option Number} (h : scan (.number n) text = [.number value]) {rest : List Char}
    (hends : EndsNumber rest) : scan (.number n) (text ++ rest) = .number value :: scan .between rest := by
  induction text generalizing n with
  | nil =>
    rw [scan] at h
    split at h
    · rename_i hcomplete
      obtain rfl : n.value? = value := by simpa using h
      exact scan_number_end hcomplete hends
    · -- An incomplete number at the end of a text is no number.
      simp at h
  | cons c text ih =>
    obtain ⟨hc, htext⟩ := List.forall_mem_cons.1 htext
    rw [scan] at h
    rw [List.cons_append, scan]
    cases hstep : n.step c with
    | more m =>
      simp only [hstep] at h ⊢
      exact ih htext h
    | finished =>
      -- nothing may follow the number, but a character of a number leaves something
      simp only [hstep] at h
      obtain ⟨-, hnil⟩ := List.cons.inj h
      rcases enter_numeric hc with ⟨m, henter⟩ | henter
      · rw [henter] at hnil
        exact absurd hnil (scan_number_ne_nil m text)
      · rw [henter] at hnil
        cases hnil
    | refused =>
      simp only [hstep] at h
      cases h

/-- A number that is read back is scanned as the number wherever nothing carries it on. -/
theorem scan_number {n : Number} (h : n.ReadsBack) {rest : List Char} (hends : EndsNumber rest) :
    scan .between (n.chars ++ rest) = .number (some n) :: scan .between rest := by
  have hchars := allNumeric_chars n
  rw [Number.ReadsBack, tokens] at h
  generalize n.chars = text at h hchars
  cases text with
  | nil => cases h
  | cons c text =>
    obtain ⟨hc, htext⟩ := List.forall_mem_cons.1 hchars
    rw [scan] at h
    rw [List.cons_append, scan]
    rcases enter_numeric hc with ⟨m, henter⟩ | henter
    · rw [henter] at h ⊢
      exact scan_number_append htext h hends
    · rw [henter] at h
      cases h

/-! ## Lines moved in -/

/-- Moves every line but the first in by `indent` blanks. -/
def movedIn (indent : Nat) (text : List Char) : List Char :=
  text.flatMap fun c => if c = '\n' then '\n' :: List.replicate indent ' ' else [c]

/-- Two texts are moved in one by one. -/
theorem movedIn_append (indent : Nat) (first second : List Char) :
    movedIn indent (first ++ second) = movedIn indent first ++ movedIn indent second :=
  List.flatMap_append

/-- A text on one line stays where it is. -/
theorem movedIn_of_notMem (indent : Nat) {text : List Char} (h : '\n' ∉ text) :
    movedIn indent text = text := by
  induction text with
  | nil => rfl
  | cons c rest ih =>
    have hc : c ≠ '\n' := fun e => h (e ▸ List.mem_cons_self)
    have hrest : movedIn indent rest = rest := ih fun hm => h (List.mem_cons_of_mem c hm)
    rw [movedIn] at hrest ⊢
    rw [List.flatMap_cons, if_neg hc, hrest, List.singleton_append]

/-- Without an indent, lines stay where they are. -/
theorem movedIn_zero (text : List Char) : movedIn 0 text = text := by
  have hsame : (fun c => if c = '\n' then '\n' :: List.replicate 0 ' ' else [c]) = fun c : Char => [c] := by
    funext c
    split
    · subst_vars; rfl
    · rfl
  rw [movedIn, hsame, List.flatMap_singleton']

/-- A new line, moved in or not, is blank. -/
theorem scan_newLine (indent level : Nat) (rest : List Char) :
    scan .between (movedIn indent (newLine level) ++ rest) = scan .between rest := by
  refine scan_blanks (fun c hc => ?_) rest
  obtain ⟨d, hd, hc⟩ := List.mem_flatMap.1 hc
  rcases List.mem_cons.1 hd with rfl | hd
  · rw [if_pos rfl] at hc
    rcases List.mem_cons.1 hc with rfl | hc
    · rfl
    · rw [List.eq_of_mem_replicate hc]
      rfl
  · obtain rfl := List.eq_of_mem_replicate hd
    obtain rfl : c = ' ' := by simpa using hc
    rfl

theorem movedIn_nil (indent : Nat) : movedIn indent [] = [] := rfl

/-- A character that ends no line is kept. -/
theorem movedIn_cons (indent : Nat) {c : Char} (h : c ≠ '\n') (text : List Char) :
    movedIn indent (c :: text) = c :: movedIn indent text := by
  rw [movedIn, List.flatMap_cons, if_neg h, List.singleton_append, movedIn]

/-! ## Lines of texts -/

/-- What holds of the sixteen digits holds of the digit of every number. -/
theorem forall_hexDigit {p : Char → Prop} (h : ∀ n < 16, p (Text.hexDigit n)) (n : Nat) :
    p (Text.hexDigit n) := by
  have hmod : Text.hexDigit n = Text.hexDigit (n % 16) := by
    rw [Text.hexDigit, Text.hexDigit, Nat.mod_mod]
  exact hmod ▸ h (n % 16) (Nat.mod_lt n (by decide))

/-- The digits of an escape are no control characters. -/
theorem printable_hexDigit (n : Nat) : 0x20 ≤ (Text.hexDigit n).toNat :=
  forall_hexDigit (p := fun c => 0x20 ≤ c.toNat) (by decide) n

/-- A quoted text holds no control characters, since they are written as escapes. -/
theorem printable_of_mem_quotedChars {cs : List Char} {c : Char} (h : c ∈ quotedChars cs) :
    0x20 ≤ c.toNat := by
  have hchar : ∀ d, ∀ c ∈ quotedChar d, 0x20 ≤ c.toNat := by
    intro d
    unfold quotedChar
    -- Every branch but the last writes an escape, and the last one is for what is not a control character.
    split_ifs with _ _ _ _ _ _ _ hcontrol
    all_goals simp [printable_hexDigit]
    exact Nat.le_of_not_lt hcontrol
  rcases List.mem_cons.1 h with rfl | h
  · decide
  rcases List.mem_append.1 h with h | h
  · obtain ⟨d, -, hd⟩ := List.mem_flatMap.1 h
    exact hchar d c hd
  · obtain rfl := List.mem_singleton.1 h
    decide

/-- A quoted text is on one line, since line feeds are escaped in it. -/
theorem newline_notMem_quotedChars (cs : List Char) : '\n' ∉ quotedChars cs :=
  fun h => absurd (printable_of_mem_quotedChars h) (by decide)

/-! ## Values -/

/-- A new line ends a number. -/
theorem endsNumber_newLine (indent level : Nat) (rest : List Char) :
    EndsNumber (movedIn indent (newLine level) ++ rest) :=
  endsNumber_cons (c := '\n') (by decide) _

/-- After an item come a comma or a new line, and neither carries a number on. -/
theorem endsNumber_items (indent level outer : Nat) (items : List Json) (rest : List Char) :
    EndsNumber (movedIn indent (prettyItems level items) ++ (movedIn indent (newLine outer) ++ rest)) := by
  cases items with
  | nil => exact endsNumber_newLine indent outer rest
  | cons item items => exact endsNumber_cons (c := ',') (by decide) _

/-- After a member come a comma or a new line, and neither carries a number on. -/
theorem endsNumber_members (indent level outer : Nat) (members : List (String × Json))
    (rest : List Char) :
    EndsNumber (movedIn indent (prettyMembers level members) ++
      (movedIn indent (newLine outer) ++ rest)) := by
  cases members with
  | nil => exact endsNumber_newLine indent outer rest
  | cons member members => exact endsNumber_cons (c := ',') (by decide) _

/-- A name and the colon after it. -/
theorem scan_name (indent : Nat) (name : String) (rest : List Char) :
    scan .between (movedIn indent (quotedChars name.toList) ++ ':' :: ' ' :: rest) =
      .text (some name) :: .colon :: scan .between rest := by
  have hcolon : scan .between (':' :: ' ' :: rest) = .colon :: scan .between rest := rfl
  rw [movedIn_of_notMem indent (newline_notMem_quotedChars name.toList), scan_quotedChars, hcolon]

mutual

/-- The pretty text of a value is scanned as the tokens of the value, wherever its lines are moved in. -/
theorem scan_movedIn (indent level : Nat) : (value : Json) → value.NumbersReadBack → {rest : List Char} →
    EndsNumber rest →
    scan .between (movedIn indent (value.prettyChars level) ++ rest) = value.written ++ scan .between rest
  | .null, _, rest, _ => scan_word .null rest
  | .bool true, _, rest, _ => scan_word (.bool true) rest
  | .bool false, _, rest, _ => scan_word (.bool false) rest
  | .number n, h, rest, hends => by
    rw [prettyChars, movedIn_of_notMem indent (newline_notMem_chars n), scan_number h hends]
    rfl
  | .text s, _, rest, _ => by
    rw [prettyChars, movedIn_of_notMem indent (newline_notMem_quotedChars s.toList), scan_quotedChars]
    rfl
  | .array [], _, _, _ => rfl
  | .array (item :: items), h, rest, _ => by
    have hopen : ∀ rest, scan .between ('[' :: rest) = .opening .square :: scan .between rest :=
      fun _ => rfl
    have hitem := scan_movedIn indent (level + 1) item h.1
      (endsNumber_items indent (level + 1) level items (']' :: rest))
    simp (disch := decide) only [prettyChars, movedIn_cons, movedIn_nil, movedIn_append,
      List.append_assoc, List.cons_append, List.nil_append, hopen, scan_newLine, hitem,
      scan_movedInItems indent (level + 1) level items h.2, written]
  | .object [], _, _, _ => rfl
  | .object ((name, value) :: members), h, rest, _ => by
    -- The bracket and its line feed come first, then the first member, and then the others with the closing
    -- line.
    have hopen : ∀ rest, scan .between ('\x7b' :: rest) = .opening .curly :: scan .between rest :=
      fun _ => rfl
    have hvalue := scan_movedIn indent (level + 1) value h.1
      (endsNumber_members indent (level + 1) level members ('\x7d' :: rest))
    simp (disch := decide) only [prettyChars, movedIn_cons, movedIn_nil, movedIn_append,
      List.append_assoc, List.cons_append, List.nil_append, hopen, scan_newLine, scan_name, hvalue,
      scan_movedInMembers indent (level + 1) level members h.2, written]

/-- The items after the first are scanned up to the bracket that closes the array. -/
theorem scan_movedInItems (indent level outer : Nat) : (items : List Json) → ItemsReadBack items →
    (rest : List Char) →
    scan .between (movedIn indent (prettyItems level items) ++
        (movedIn indent (newLine outer) ++ ']' :: rest)) = writtenItems items ++ scan .between rest
  | [], _, rest => scan_newLine indent outer (']' :: rest)
  | item :: items, h, rest => by
    have hcomma : ∀ rest, scan .between (',' :: rest) = .comma :: scan .between rest := fun _ => rfl
    have hitem := scan_movedIn indent level item h.1
      (endsNumber_items indent level outer items (']' :: rest))
    simp (disch := decide) only [prettyItems, movedIn_cons, movedIn_append, List.append_assoc,
      List.cons_append, hcomma, scan_newLine, hitem, scan_movedInItems indent level outer items h.2,
      writtenItems]

/-- The members after the first are scanned up to the bracket that closes the object. -/
theorem scan_movedInMembers (indent level outer : Nat) : (members : List (String × Json)) →
    MembersReadBack members → (rest : List Char) →
    scan .between (movedIn indent (prettyMembers level members) ++
        (movedIn indent (newLine outer) ++ '\x7d' :: rest)) =
      writtenMembers members ++ scan .between rest
  | [], _, rest => scan_newLine indent outer ('\x7d' :: rest)
  | (name, value) :: members, h, rest => by
    have hcomma : ∀ rest, scan .between (',' :: rest) = .comma :: scan .between rest := fun _ => rfl
    have hvalue := scan_movedIn indent level value h.1
      (endsNumber_members indent level outer members ('\x7d' :: rest))
    simp (disch := decide) only [prettyMembers, movedIn_cons, movedIn_append, List.append_assoc,
      List.cons_append, List.nil_append, hcomma, scan_newLine, scan_name, hvalue,
      scan_movedInMembers indent level outer members h.2, writtenMembers]

end

mutual

/-- A value with whole numbers is one whose numbers are read back. -/
theorem numbersReadBack_of_isWhole : (value : Json) → value.IsWhole → value.NumbersReadBack
  | .null, _ | .bool _, _ | .text _, _ => trivial
  | .number _, h => readsBack_of_isWhole h
  | .array items, h => itemsReadBack_of_whole items h
  | .object members, h => membersReadBack_of_whole members h

/-- Items with whole numbers are read back. -/
theorem itemsReadBack_of_whole : (items : List Json) → ItemsWhole items → ItemsReadBack items
  | [], _ => trivial
  | item :: items, h => ⟨numbersReadBack_of_isWhole item h.1, itemsReadBack_of_whole items h.2⟩

/-- Members with whole numbers are read back. -/
theorem membersReadBack_of_whole : (members : List (String × Json)) → MembersWhole members →
    MembersReadBack members
  | [], _ => trivial
  | (_, value) :: members, h =>
    ⟨numbersReadBack_of_isWhole value h.1, membersReadBack_of_whole members h.2⟩

end

/-- The tokens of a pretty text with blanks after it. -/
theorem tokens_pretty {value : Json} (h : value.IsWhole) {blanks : List Char}
    (hblanks : ∀ c ∈ blanks, isSpace c) : tokens (value.pretty.toList ++ blanks) = value.written := by
  have hspace : ∀ c, isSpace c → c.isDigit = false ∧ c ≠ '.' ∧ c ≠ 'e' ∧ c ≠ 'E' := by
    intro c hc
    have hcases : ((c = ' ' ∨ c = '\t') ∨ c = '\n') ∨ c = '\r' := by simpa [isSpace] using hc
    rcases hcases with ((rfl | rfl) | rfl) | rfl <;> decide
  have hends : EndsNumber blanks := fun c hc => hspace c (hblanks c (List.mem_of_mem_head? hc))
  have hscan := scan_movedIn 0 0 value (numbersReadBack_of_isWhole value h) hends
  have hnil := scan_blanks hblanks []
  rw [List.append_nil] at hnil
  rw [movedIn_zero, hnil] at hscan
  rw [tokens, pretty, String.toList_ofList, hscan, scan, List.append_nil]

end Json

end ActionForge
