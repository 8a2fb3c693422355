import ActionForge.Proofs.Text.Width

/-!
# What clipping keeps, and how wide it is

A text is clipped when it is too wide as a whole, but what is kept of it is found character by character, and
the two measures differ: inside a text a control takes a column, and a selector can make the character before
it wider, while neither has columns of its own. So `clip_bounded` gives the limit with a column more for each of
these that is kept. A text without them stays within the limit; one of short lines need not (`clip_exceeds`).
Measures are parameters here, and what is used of them is `Ruler.Bounded`.
-/

namespace ActionForge.Text

/-! ## What is kept -/

/-- The longest beginning of a text whose characters leave a column free within a limit. -/
structure Ruler.IsCut (ruler : Ruler) (limit : Nat) (text kept : List Char) : Prop where
  begins : kept <+: text
  fits : ruler.total kept + 1 ≤ limit
  longest : ∀ longer, longer <+: text → ruler.total longer + 1 ≤ limit → longer <+: kept

/-- What is taken from the start is the longest beginning that leaves a column free. -/
theorem isCut_takeColumns (ruler : Ruler) {room : Nat} (hroom : 1 ≤ room) (cs : List Char) :
    ruler.IsCut room cs (takeColumns ruler room cs) := by
  -- Each character that is taken leaves less room for the rest.
  induction cs generalizing room with
  | nil =>
    refine ⟨List.nil_prefix, ?_, fun longer hlonger _ => hlonger⟩
    show 0 + 1 ≤ room
    omega
  | cons c rest ih =>
    rw [takeColumns]
    split
    · rename_i hc
      have hrest : 1 ≤ room - ruler.columns c := by omega
      obtain ⟨hbegins, hfits, hlongest⟩ := ih hrest
      refine ⟨(List.prefix_cons_inj c).2 hbegins, ?_, fun longer hlonger htotal => ?_⟩
      · rw [Ruler.total]
        omega
      · cases longer with
        | nil => exact List.nil_prefix
        | cons d longer =>
          obtain ⟨rfl, hrest'⟩ := List.cons_prefix_cons.1 hlonger
          rw [Ruler.total] at htotal
          exact (List.prefix_cons_inj d).2 (hlongest longer hrest' (by omega))
    · rename_i hc
      refine ⟨List.nil_prefix, ?_, fun longer hlonger htotal => ?_⟩
      · show 0 + 1 ≤ room
        omega
      · cases longer with
        | nil => exact List.nil_prefix
        | cons d longer =>
          -- The first character of a longer beginning is the one that finds no room.
          obtain ⟨rfl, -⟩ := List.cons_prefix_cons.1 hlonger
          rw [Ruler.total] at htotal
          omega

/-- What is kept takes the limit at most, but for the controls in it and the characters that widen others. -/
theorem Ruler.Bounded.text_cut_le {ruler : Ruler} {widens : Char → Bool} (h : ruler.Bounded widens)
    {limit : Nat} {text kept : List Char} (hcut : ruler.IsCut limit text kept) :
    ruler.text (kept ++ ['…']) ≤ limit + ruler.controls kept + kept.countP widens := by
  have hle := h.text_le (kept ++ ['…'])
  have hellipsis : ruler.allowance widens ['…'] = 1 := by
    rw [Ruler.allowance_cons, h.ellipsis, h.plain]
    rfl
  rw [Ruler.allowance_append, hellipsis, Ruler.allowance] at hle
  have hfits := hcut.fits
  omega

/-! ## Clipping -/

/-- What is clipped is the text without blanks at its ends, if that fits, and otherwise an ellipsis after the
longest beginning that leaves a column free for it, character by character. It takes the limit at most, but for
a column for each control and each character that widens another among what is kept. -/
theorem clip_bounded {ruler : Ruler} {widens : Char → Bool} (h : ruler.Bounded widens) {limit : Nat}
    (hlimit : 1 ≤ limit) (cs : List Char) :
    (ruler.text (trim cs) ≤ limit ∧ clip ruler limit cs = trim cs ∨
      limit < ruler.text (trim cs) ∧ ∃ kept, ruler.IsCut limit (trim cs) kept ∧
        clip ruler limit cs = kept ++ ['…'] ∧
        ruler.text (clip ruler limit cs) ≤ limit + ruler.controls kept + kept.countP widens) ∧
      ((∀ c ∈ trim cs, (ruler.char? c).isSome ∧ widens c = false) →
        ruler.text (clip ruler limit cs) ≤ limit) := by
  by_cases hfits : ruler.text (trim cs) ≤ limit
  · have hclip : clip ruler limit cs = trim cs := if_pos hfits
    rw [hclip]
    exact ⟨.inl ⟨hfits, rfl⟩, fun _ => hfits⟩
  · have hclip : clip ruler limit cs = takeColumns ruler limit (trim cs) ++ ['…'] := if_neg hfits
    have hcut := isCut_takeColumns ruler hlimit (trim cs)
    have hle := h.text_cut_le hcut
    rw [hclip]
    refine ⟨.inr ⟨Nat.lt_of_not_le hfits, _, hcut, rfl, hle⟩, fun hplain => ?_⟩
    -- What is kept is a beginning of the text, so it has no controls if the text has none.
    have hcontrols : ruler.controls (takeColumns ruler limit (trim cs)) = 0 := by
      refine List.countP_eq_zero.2 fun c hc => ?_
      have hsome := (hplain c (hcut.begins.subset hc)).1
      simpa [Option.isSome_iff_ne_none] using hsome
    have hwidens : (takeColumns ruler limit (trim cs)).countP widens = 0 := by
      refine List.countP_eq_zero.2 fun c hc => ?_
      simp [(hplain c (hcut.begins.subset hc)).2]
    omega

/-- Of two words in wide signs, five columns hold the first and an ellipsis. -/
theorem clip_bounded_rocket :
    display.Bounded isWidening ∧ 1 ≤ 5 ∧
      (∀ c ∈ trim [' ', '火', '箭', '火', '箭', '\n'],
        (display.char? c).isSome ∧ isWidening c = false) ∧
      clip display 5 [' ', '火', '箭', '火', '箭', '\n'] = ['火', '箭', '…'] ∧
      display.text (clip display 5 [' ', '火', '箭', '火', '箭', '\n']) ≤ 5 := by
  have hall : (trim [' ', '火', '箭', '火', '箭', '\n']).all fun c =>
      (display.char? c).isSome && !isWidening c := by decide +kernel
  have hplain : ∀ c ∈ trim [' ', '火', '箭', '火', '箭', '\n'],
      (display.char? c).isSome ∧ isWidening c = false := by
    intro c hc
    simpa using List.all_eq_true.1 hall c hc
  exact ⟨display_bounded, by decide, hplain, by decide +kernel,
    (clip_bounded display_bounded (by decide) _).2 hplain⟩

/-- The line ends of a text of short lines count when it is measured and not when it is cut, so nothing of it
is cut and the ellipsis makes it wider still. -/
theorem clip_exceeds :
    clip display 40 ((List.replicate 25 'a').intersperse '\n') =
        (List.replicate 25 'a').intersperse '\n' ++ ['…'] ∧
      40 < display.text (clip display 40 ((List.replicate 25 'a').intersperse '\n')) := by
  decide +kernel

end ActionForge.Text
