import Mathlib.Data.Bool.AllAny
import ActionForge.Proofs.Name
import ActionForge.Sdl.Token

/-!
# Cutting texts into tokens

`Lexes room text tokens` says that a text falls into the given tokens when `room` brackets may still be
opened, wherever it starts. The laws add a token, or a blank, in front of such a text. A name and a
number reach as far as they can, so what follows them matters; marks and quoted texts end by themselves.
-/

namespace ActionForge.Sdl

/-- The text falls into these tokens. -/
def Lexes (room : Nat) (text : List Char) (tokens : List Token) : Prop :=
  ∀ fuel p, text.length < fuel → (tokensFrom fuel room p text).map Lexeme.token = tokens

/-- What a text falls into are its tokens. -/
theorem Lexes.tokens_eq {text : String} {found : List Token}
    (h : Lexes nestingLimit text.toList found) : (tokens text).map Lexeme.token = found :=
  h _ _ (Nat.lt_succ_self _)

/-- An empty text falls into the token that ends texts. -/
theorem lexes_nil (room : Nat) : Lexes room [] [.done] := by
  intro fuel p _
  cases fuel <;> rfl

/-! ## Blanks -/

/-- A blank or a line feed before a text adds no token. -/
theorem Lexes.blank {room : Nat} {text : List Char} {tokens : List Token} (h : Lexes room text tokens)
    {c : Char} (hc : c = ' ' ∨ c = '\n') : Lexes room (c :: text) tokens := by
  intro fuel p hfuel
  obtain ⟨next, hskip⟩ : ∃ next, skipIgnored false p (c :: text) = skipIgnored false next text := by
    rcases hc with rfl | rfl
    · exact ⟨p.right 1, rfl⟩
    · exact ⟨p.down, rfl⟩
  rw [List.length_cons] at hfuel
  obtain ⟨fuel, rfl⟩ : ∃ smaller, fuel = smaller + 1 := ⟨fuel - 1, by omega⟩
  have hsame : tokensFrom (fuel + 1) room p (c :: text) = tokensFrom (fuel + 1) room next text := by
    simp only [tokensFrom, hskip]
  rw [hsame]
  exact h (fuel + 1) next (by omega)

/-- Blanks before a text add no token, however many there are. -/
theorem Lexes.blanks {room : Nat} {text : List Char} {tokens : List Token} (h : Lexes room text tokens)
    (count : Nat) : Lexes room (List.replicate count ' ' ++ text) tokens := by
  induction count with
  | zero => exact h
  | succ count ih => exact ih.blank (.inl rfl)

/-! ## Tokens -/

/-- Characters that are passed over before a token. -/
def ignored (c : Char) : Bool :=
  c = '#' || c = '\n' || c = '\t' || c = ' ' || c = ',' || c = '\r' || c.toNat = 0xFEFF

/-- Nothing is passed over before a character that is not ignored. -/
theorem skipIgnored_of_not_ignored {c : Char} (h : ignored c = false) (p : Position)
    (text : List Char) : skipIgnored false p (c :: text) = (c :: text, p) := by
  simp only [ignored, Bool.or_eq_false_iff, decide_eq_false_iff_not] at h
  obtain ⟨⟨⟨⟨⟨⟨hhash, hline⟩, htab⟩, hblank⟩, hcomma⟩, hreturn⟩, hmark⟩ := h
  simp [skipIgnored, hhash, hline, htab, hblank, hcomma, hreturn, hmark]

/-- A token in front of a text, which takes no more than what stands before the text. -/
theorem Lexes.cons {room room' : Nat} {c : Char} {text rest : List Char} {token : Token}
    {tokens : List Token} (h : Lexes room' rest tokens) (hc : ignored c = false)
    (hnext : ∀ p, ∃ next, nextToken p (c :: text) = some (token, rest, next))
    (hroom : roomAfter room token = some room') (hlength : rest.length ≤ text.length) :
    Lexes room (c :: text) (token :: tokens) := by
  intro fuel p hfuel
  obtain ⟨next, hnext⟩ := hnext p
  rw [List.length_cons] at hfuel
  obtain ⟨fuel, rfl⟩ : ∃ smaller, fuel = smaller + 1 := ⟨fuel - 1, by omega⟩
  have hstep : tokensFrom (fuel + 1) room p (c :: text) =
      ⟨token, p⟩ :: tokensFrom fuel room' next rest := by
    simp [tokensFrom, skipIgnored_of_not_ignored hc, hnext, hroom]
  rw [hstep, List.map_cons, h fuel next (by omega)]

/-- Characters of names are not ignored. -/
theorem ignored_of_continuesName {c : Char} (h : continuesName c) : ignored c = false := by
  have hlt := toNat_lt_of_continuesName h
  simp only [ignored, Bool.or_eq_false_iff, decide_eq_false_iff_not]
  refine ⟨⟨⟨⟨⟨⟨?_, ?_⟩, ?_⟩, ?_⟩, ?_⟩, ?_⟩, by omega⟩ <;>
    · rintro rfl
      exact absurd h (by decide)

/-- A name reaches up to the first character that cannot carry it on. -/
theorem Lexes.name {room : Nat} {c : Char} {text : List Char} {tokens : List Token}
    (h : Lexes room (c :: text) tokens) (hc : continuesName c = false) {name : String}
    (hname : isName name) : Lexes room (name.toList ++ c :: text) (.name name :: tokens) := by
  obtain ⟨first, rest, htext, hfirst, hrest⟩ := isName_iff.1 hname
  have htake : (rest ++ c :: text).takeWhile continuesName = rest := by
    rw [List.takeWhile_append_of_pos hrest, List.takeWhile_cons_of_neg (by simp [hc]), List.append_nil]
  have hdrop : (rest ++ c :: text).dropWhile continuesName = c :: text := by
    rw [List.dropWhile_append_of_pos hrest, List.dropWhile_cons_of_neg (by simp [hc])]
  have hself : String.ofList (first :: rest) = name := by rw [← htext, String.ofList_toList]
  rw [htext, List.cons_append]
  refine h.cons (ignored_of_continuesName (continuesName_of_startsName hfirst)) (fun p => ?_) rfl
    (by simp)
  refine ⟨p.right (first :: rest).length, ?_⟩
  simp only [nextToken, if_pos hfirst, htake, hdrop, hself]

/-- A mark that opens or closes nothing. -/
theorem Lexes.mark {room room' : Nat} {text : List Char} {tokens : List Token}
    (h : Lexes room' text tokens) {mark : Char} (hmark : mark ∈ marks)
    (hroom : roomAfter room (.punctuation mark) = some room') :
    Lexes room (mark :: text) (.punctuation mark :: tokens) := by
  have hmarks : ∀ c ∈ marks, ignored c = false ∧ startsName c = false :=
    List.all_iff_forall_prop.1 (by decide)
  obtain ⟨hignored, hstarts⟩ := hmarks mark hmark
  refine h.cons hignored (fun p => ⟨p.right 1, ?_⟩) hroom (Nat.le_refl _)
  simp [nextToken, hstarts, hmark]

/-- The digits are those of ASCII, so they can be gone through. -/
theorem mem_digits_of_isDigit {c : Char} (h : c.isDigit) :
    c ∈ ['0', '1', '2', '3', '4', '5', '6', '7', '8', '9'] := by
  -- Of the characters below 128 each can be tried.
  have hascii : ∀ n < 128, (Char.ofNat n).isDigit →
      Char.ofNat n ∈ ['0', '1', '2', '3', '4', '5', '6', '7', '8', '9'] := by decide
  have hname : continuesName c := by simp [continuesName, Char.isAlphanum, h]
  have hc := hascii c.toNat (toNat_lt_of_continuesName hname)
  rw [Char.ofNat_toNat] at hc
  exact hc h

/-- What a text that starts with a digit needs to know of the digit. -/
theorem digit_spec {c : Char} (h : c.isDigit) :
    ignored c = false ∧ startsName c = false ∧ c ∉ marks ∧ c ≠ '.' ∧ c ≠ '"' ∧
      c ≠ '\n' ∧ c ≠ '\\' ∧ numberToken [c] = .integer [c] := by
  have hall : ∀ d ∈ ['0', '1', '2', '3', '4', '5', '6', '7', '8', '9'],
      ignored d = false ∧ startsName d = false ∧ d ∉ marks ∧ d ≠ '.' ∧ d ≠ '"' ∧
        d ≠ '\n' ∧ d ≠ '\\' ∧ numberToken [d] = .integer [d] :=
    List.all_iff_forall_prop.1 (by decide)
  exact hall c (mem_digits_of_isDigit h)

/-- A digit is a number when what follows ends numbers. -/
theorem Lexes.digit {room : Nat} {c : Char} {text : List Char} {tokens : List Token}
    (h : Lexes room (c :: text) tokens) (hc : endsNumber c) {digit : Char} (hdigit : digit.isDigit) :
    Lexes room (digit :: c :: text) (.integer [digit] :: tokens) := by
  obtain ⟨hignored, hstarts, hmarks, hpoint, -, -, -, hnumber⟩ := digit_spec hdigit
  refine h.cons hignored (fun p => ⟨p.right 1, ?_⟩) rfl (by simp)
  simp [nextToken, hstarts, hmarks, hpoint, hdigit, hc, hnumber]

/-- A quoted digit is a token by itself, whatever follows it. -/
theorem Lexes.quotedDigit {room : Nat} {text : List Char} {tokens : List Token}
    (h : Lexes room text tokens) {digit : Char} (hdigit : digit.isDigit) :
    Lexes room ('"' :: digit :: '"' :: text) (.quoted [digit] :: tokens) := by
  obtain ⟨-, -, -, -, hquote, hline, hslash, -⟩ := digit_spec hdigit
  refine h.cons (by decide) (fun p => ⟨p.right 3, ?_⟩) rfl (by simp; omega)
  have htake : takeQuoted [] false (digit :: '"' :: text) = some ([digit], text) := by
    simp [takeQuoted, hquote, hline, hslash]
  have hstarts : startsName '"' = false := by decide
  have hmark : marks.contains '"' = false := by decide
  have hnumber : ('"' = '-' || '"'.isDigit) = false := by decide
  have hpoint : ¬ '"' = '.' := by decide
  -- A text that begins with a digit is none of those in triple quotes.
  simp only [nextToken, hstarts, hmark, hnumber, hpoint, Bool.false_eq_true, if_false, if_true]
  split
  · rename_i heq
    exact absurd (List.cons.inj heq).1 hquote
  · rw [htake]
    rfl

end ActionForge.Sdl
