import Mathlib.Data.List.Chain
import Mathlib.Data.List.TakeWhile
import ActionForge.Text.Width

/-!
# How wide a text can be

The columns of a text are not the sum of the columns of its characters: inside a text a control takes a column,
and a selector can make the character before it wider, while neither has columns of its own. `Ruler.Bounded`
says of a measure that this is all that a text can have beyond its characters. The columns on a display are such
a measure (`display_bounded`). Ligatures only make a text less wide; a flag that is taken apart again gets back
what it gave before, and `Opening.due` counts that.
-/

namespace ActionForge.Text

/-! ## Measures of texts -/

namespace Ruler

/-- The columns of the characters, each by itself. -/
def total (ruler : Ruler) : List Char → Nat
  | [] => 0
  | c :: cs => ruler.columns c + ruler.total cs

/-- How many controls there are. -/
def controls (ruler : Ruler) (cs : List Char) : Nat := cs.countP fun c => (ruler.char? c).isNone

/-- The columns of the characters, with one more for each control and each character that widens another. -/
def allowance (ruler : Ruler) (widens : Char → Bool) (cs : List Char) : Nat :=
  ruler.total cs + ruler.controls cs + cs.countP widens

/-- A text takes no more columns than its characters allow, where `widens` marks those that make the character
before them wider. An ellipsis takes one column and widens nothing. -/
structure Bounded (ruler : Ruler) (widens : Char → Bool) : Prop where
  ellipsis : ruler.char? '…' = some 1
  plain : widens '…' = false
  text_le : ∀ cs, ruler.text cs ≤ ruler.allowance widens cs

variable (ruler : Ruler) (widens : Char → Bool)

/-- The first character counts as a control if it has no width. -/
theorem controls_cons (c : Char) (cs : List Char) :
    ruler.controls (c :: cs) = ruler.controls cs + if (ruler.char? c).isNone then 1 else 0 :=
  List.countP_cons

/-- The first character is allowed its columns, one for being a control and one for widening. -/
theorem allowance_cons (c : Char) (cs : List Char) :
    ruler.allowance widens (c :: cs) =
      (ruler.char? c).getD 1 + (if widens c then 1 else 0) + ruler.allowance widens cs := by
  rw [allowance, total, controls_cons, List.countP_cons, allowance, columns]
  cases ruler.char? c with
  | none => simp; omega
  | some n => simp; omega

/-- Texts that are put together are allowed what each of them is. -/
theorem allowance_append (cs more : List Char) :
    ruler.allowance widens (cs ++ more) = ruler.allowance widens cs + ruler.allowance widens more := by
  induction cs with
  | nil => simp [allowance, total, controls]
  | cons c rest ih =>
    rw [List.cons_append, allowance_cons, allowance_cons, ih]
    omega

end Ruler

/-! ## The columns on a display -/

/-- No range of a table meets one of another. Both tables are gone through once, as they are in order. -/
def Ranges.apart : Ranges → Ranges → Bool
  | [], _ => true
  | range :: rest, second =>
    let later := second.dropWhile fun other => other.2 < range.1
    (later.head?.all fun other => range.2 < other.1) && apart rest later

/-- The ranges of a table begin in increasing order. -/
def Ranges.Ordered (ranges : Ranges) : Prop := List.IsChain (fun first second => first.1 ≤ second.1) ranges

instance (ranges : Ranges) : Decidable ranges.Ordered :=
  inferInstanceAs (Decidable (List.IsChain _ ranges))

/-- A code point is in a table when one of the ranges has it. -/
theorem Ranges.has_iff {ranges : Ranges} {code : Nat} :
    ranges.has code ↔ ∃ range ∈ ranges, range.1 ≤ code ∧ code ≤ range.2 := by
  simp [Ranges.has]

/-- In an ordered table no range begins before an earlier one. -/
theorem Ranges.Ordered.pairwise {ranges : Ranges} (h : ranges.Ordered) :
    ranges.Pairwise fun first second => first.1 ≤ second.1 := by
  have htrans : IsTrans (Nat × Nat) fun first second => first.1 ≤ second.1 := ⟨fun _ _ _ => Nat.le_trans⟩
  exact List.isChain_iff_pairwise.1 h

/-- What one of two tables that do not meet has, the other has not. -/
theorem Ranges.not_has_of_apart {first second : Ranges} (hfirst : first.Ordered) (hsecond : second.Ordered)
    (h : apart first second) {code : Nat} (hcode : first.has code) : ¬ second.has code := by
  intro hmeets
  have hpairs := hfirst.pairwise
  have hpairs' := hsecond.pairwise
  clear hfirst hsecond
  obtain ⟨other, hother, hle, hle'⟩ := has_iff.1 hmeets
  -- The induction is on the first table; what is left of the second is where `apart` has got to.
  induction first generalizing second with
  | nil => simp [Ranges.has] at hcode
  | cons range rest ih =>
    obtain ⟨hrange, hrest⟩ := List.pairwise_cons.1 hpairs
    rw [apart, Bool.and_eq_true] at h
    obtain ⟨hhead, htail⟩ := h
    obtain ⟨found, hfound, hlow, hhigh⟩ := has_iff.1 hcode
    -- The ranges that are passed over end before any range of `first` that is still to come.
    have hbegin : range.1 ≤ found.1 := by
      rcases List.mem_cons.1 hfound with rfl | hfound
      · exact Nat.le_refl _
      · exact hrange found hfound
    have hlater : other ∈ second.dropWhile fun other => other.2 < range.1 := by
      have hsplit : other ∈ (second.takeWhile fun other => other.2 < range.1) ++
          second.dropWhile fun other => other.2 < range.1 := by rwa [List.takeWhile_append_dropWhile]
      rcases List.mem_append.1 hsplit with hpassed | hlater
      · have hend : other.2 < range.1 := by simpa using List.mem_takeWhile_imp hpassed
        omega
      · exact hlater
    have hordered := hpairs'.sublist (List.dropWhile_sublist fun other => other.2 < range.1)
    rcases List.mem_cons.1 hfound with rfl | hfound
    · cases hsuffix : second.dropWhile fun other => other.2 < found.1 with
      | nil =>
        rw [hsuffix] at hlater
        exact List.not_mem_nil hlater
      | cons next others =>
        rw [hsuffix] at hhead hlater hordered
        have hnext : found.2 < next.1 := by simpa using hhead
        rcases List.mem_cons.1 hlater with rfl | hlater
        · omega
        · have hstart := List.rel_of_pairwise_cons hordered hlater
          omega
    · exact ih htail (has_iff.2 ⟨found, hfound, hlow, hhigh⟩) (has_iff.2 ⟨other, hlater, hle, hle'⟩) hrest
        hordered hlater

/-- The marks stand in order. -/
theorem extendingTable_ordered : extendingTable.Ordered := by decide +kernel

/-- The characters without a width stand in order. -/
theorem widthlessTable_ordered : widthlessTable.Ordered := by decide +kernel

/-- Every character that a selector may follow, ASCII apart, is printable and has a width. -/
theorem selectableTable_apart :
    selectableTable.Ordered ∧ (∀ range ∈ selectableTable, 0xA0 ≤ range.1) ∧
      selectableTable.apart extendingTable ∧ selectableTable.apart widthlessTable := by
  decide +kernel

/-- What holds of all values that stand with tables holds of the value for a code point. -/
theorem Ranges.forall_value? {α : Type} {P : α → Prop} {entries : List (Ranges × α)} {code : Nat} {value : α}
    (hall : ∀ entry ∈ entries, P entry.2) (h : value? entries code = some value) : P value := by
  obtain ⟨entry, hentry, rfl⟩ := Option.map_eq_some_iff.1 h
  exact hall entry (List.mem_of_find?_eq_some hentry)

/-- A character that is neither a mark nor without a width takes a column at least. -/
theorem tableWidth_pos {code : Nat} (hextending : extendingTable.has code = false)
    (hwidthless : widthlessTable.has code = false) : 1 ≤ tableWidth code := by
  have hall : ∀ entry ∈ ownWidths, 1 ≤ entry.2 := by decide
  rw [tableWidth, hextending, hwidthless]
  cases hown : Ranges.value? ownWidths code with
  | some columns => exact Ranges.forall_value? hall hown
  | none => cases wideTable.has code <;> simp

/-- No character takes columns away by itself. -/
theorem ownColumns_nonneg (c : Char) : 0 ≤ ownColumns c :=
  Int.natCast_nonneg _

/-- A character that a selector may follow takes a column by itself. -/
theorem ownColumns_of_isSelectable {c : Char} (h : isSelectable c) : 1 ≤ ownColumns c := by
  rw [isSelectable] at h
  have hcolumns : 1 ≤ (charWidth? c).getD 1 := by
    rw [charWidth?]
    split at h
    · -- An ASCII character takes one column, also if it is a control.
      rename_i hascii
      split
      · exact Nat.le_refl 1
      · split
        · exact Nat.le_refl 1
        · rw [if_pos (by omega)]
          exact Nat.le_refl 1
    · obtain ⟨hordered, hprintable, hextending, hwidthless⟩ := selectableTable_apart
      obtain ⟨range, hrange, hlow, -⟩ := Ranges.has_iff.1 h
      have hcode : 0xA0 ≤ c.toNat := Nat.le_trans (hprintable range hrange) hlow
      rw [if_neg (by omega), if_neg (by omega), if_neg (by omega)]
      refine tableWidth_pos ?_ ?_
      · simpa using Ranges.not_has_of_apart hordered extendingTable_ordered hextending h
      · simpa using Ranges.not_has_of_apart hordered widthlessTable_ordered hwidthless h
  rw [ownColumns]
  omega

/-- A pictograph that can be drawn as a plain sign takes a column by itself. -/
theorem ownColumns_of_isNarrowable {c : Char} (h : isNarrowable c) : 1 ≤ ownColumns c := by
  rw [isNarrowable, Bool.and_eq_true, Bool.and_eq_true] at h
  refine ownColumns_of_isSelectable ?_
  rw [isSelectable]
  split
  · rename_i hascii
    obtain ⟨range, hrange, hlow, -⟩ := Ranges.has_iff.1 h.1.1
    have hcode := selectableTable_apart.2.1 range hrange
    omega
  · exact h.1.1

/-- A quotation mark takes a column by itself. -/
theorem ownColumns_of_isQuotation {c : Char} (h : isQuotation c) : 1 ≤ ownColumns c := by
  simp only [isQuotation, Bool.or_eq_true, decide_eq_true_eq] at h
  rcases h with ((rfl | rfl) | rfl) | rfl <;> decide +kernel

/-! ## Ligatures -/

namespace Opening

/-- The columns that the beginning of a text has given up and may get back: pairs of regional indicators are
flags only as long as no single one comes before them. -/
def due : Opening → Int
  | .joinedFlags => 2
  | _ => 0

/-- A beginning never has to give columns back. -/
theorem due_nonneg (opening : Opening) : 0 ≤ opening.due := by
  unfold due
  split <;> decide

/-- A plain beginning has given up no columns. -/
@[simp]
theorem due_plain : due .plain = 0 := rfl

/-- A picture has given up no columns that it could get back. -/
@[simp]
theorem due_picture : due .picture = 0 := rfl

/-- A joiner leaves nothing to get back. -/
theorem due_behindJoiner (opening : Opening) : (opening.behindJoiner?.getD .plain).due = 0 := by
  cases opening <;> rfl

/-- A selector leaves nothing to get back. -/
theorem due_behindSelector (opening : Opening) (selector : Selector) :
    (opening.behindSelector selector).due = 0 := by
  cases opening <;> cases selector <;> rfl

/-- A single character leaves nothing to get back. -/
theorem due_of (c : Char) : (of c).due = 0 := by
  have hall : ∀ entry ∈ openings, entry.2.due = 0 := by decide
  rw [of]
  cases h : Ranges.value? openings c.toNat with
  | none => rfl
  | some opening => exact Ranges.forall_value? (P := fun opening => opening.due = 0) hall h

end Opening

/-- What a ligature takes beyond the columns of the character was due to it. -/
theorem change_le_of_mem_ligatures {ligature : Ligature} (h : ligature ∈ ligatures) :
    ligature.change.getD 0 + ligature.result.due ≤ ligature.opening.due := by
  have hall : ∀ ligature ∈ ligatures,
      ligature.change.getD 0 + ligature.result.due ≤ ligature.opening.due := by decide
  exact hall ligature h

/-- A ligature with a text takes no more beyond the columns of its character than was due to the text. -/
theorem Opening.change_le {opening : Opening} {c : Char} {ligature : Ligature}
    (h : opening.ligature? c = some ligature) :
    ligature.change.getD 0 + ligature.result.due ≤ opening.due := by
  have hopening : ligature.opening = opening := by
    have hfound := List.find?_some h
    simp only [Bool.and_eq_true, decide_eq_true_eq] at hfound
    exact hfound.1
  rw [← hopening]
  exact change_le_of_mem_ligatures (List.mem_of_find?_eq_some h)

/-- A character takes no more than its own columns and what it gets back. -/
theorem Opening.put_le (opening : Opening) (c : Char) :
    (opening.put c).1 + (opening.put c).2.due ≤ opening.due + ownColumns c := by
  have hdue := opening.due_nonneg
  have hown := ownColumns_nonneg c
  rw [Opening.put]
  split_ifs with hjoiner hinvisible htransparent
  · rw [due_behindJoiner]
    omega
  · simp only
    omega
  · simp only
    omega
  · -- Only a ligature can take more than the columns of its character.
    cases hligature : opening.ligature? c with
    | none =>
      simp only [due_of]
      omega
    | some ligature =>
      have hle := change_le hligature
      dsimp only
      cases hchange : ligature.change with
      | none =>
        rw [hchange, Option.getD_none] at hle
        simp only [Option.map_none, Option.getD_none]
        omega
      | some change =>
        rw [hchange, Option.getD_some] at hle
        simp only [Option.map_some, Option.getD_some]
        omega

/-! ## Selectors -/

/-- A selector that can make the sign before it wider. -/
def isWidening (c : Char) : Bool := Selector.of? c = some .picture || Selector.of? c = some .full

/-- The column that a selector may give to the sign before it. -/
def Selector.due : Selector → Int
  | .plain => 0
  | .picture | .full => 1

/-- What a selector may give is what its character is counted for. -/
theorem Selector.due_of? {c : Char} {selector : Selector} (h : of? c = some selector) :
    selector.due = if isWidening c then 1 else 0 := by
  rw [isWidening, h]
  cases selector <;> rfl

namespace Lead

/-- The columns that may come with the characters before a text. -/
def due (lead : Lead) : Int := lead.opening.due + (lead.selector.elim 0 Selector.due)

/-- Less may come to a character that the selector is not for. -/
theorem due_unselected_le (lead : Lead) : lead.unselected.due ≤ lead.due := by
  have hselector : 0 ≤ lead.selector.elim 0 Selector.due := by
    rcases lead.selector with _ | _ | _ | _ <;> decide
  have hopening := lead.opening.due_nonneg
  rw [unselected, due]
  split
  · omega
  · rw [Opening.due_plain]
    omega

/-- A selected sign has two columns at most, one of its own and one from the selector. -/
theorem selected_le {lead : Lead} {c : Char} {columns : Int} {opening : Opening}
    (h : lead.selected? c = some (columns, opening)) : columns + opening.due ≤ lead.due + ownColumns c := by
  have hopening := lead.opening.due_nonneg
  rw [selected?] at h
  rw [due]
  cases hselector : lead.selector with
  | none =>
    rw [hselector] at h
    cases h
  | some selector =>
    rw [hselector] at h
    -- Whatever a selector is for has a column of its own, which the selected sign takes over.
    cases selector with
    | picture =>
      obtain ⟨hc, hresult⟩ := Option.ite_none_right_eq_some.1 h
      cases hresult
      have hown := ownColumns_of_isSelectable hc
      simp only [Option.elim_some, Selector.due, Opening.due_picture]
      split <;> omega
    | plain =>
      obtain ⟨hc, hresult⟩ := Option.ite_none_right_eq_some.1 h
      cases hresult
      have hown := ownColumns_of_isNarrowable hc
      simp only [Option.elim_some, Selector.due, Opening.due_plain]
      omega
    | full =>
      obtain ⟨hc, hresult⟩ := Option.ite_none_right_eq_some.1 h
      cases hresult
      have hown := ownColumns_of_isQuotation hc
      simp only [Option.elim_some, Selector.due, Opening.due_plain]
      omega

/-- What a character takes and what may still come is covered by its own columns, by what could come before, and
by a column if it is a selector that widens. -/
theorem put_le (lead : Lead) (c : Char) :
    (lead.put c).1 + (lead.put c).2.due ≤ lead.due + ownColumns c + if isWidening c then 1 else 0 := by
  have hwidening : (0 : Int) ≤ if isWidening c then 1 else 0 := by split <;> decide
  have hunselected := lead.due_unselected_le
  rw [Lead.put]
  cases hselected : lead.selected? c with
  | some result =>
    have hle := selected_le hselected
    simp only [due, Option.elim_none] at hle ⊢
    omega
  | none =>
    cases hselector : Selector.of? c with
    | some selector =>
      -- A selector takes no column, and is counted for the one that it may give.
      have hown := ownColumns_nonneg c
      have hnonneg := lead.unselected.due_nonneg
      simp only [due, Option.elim_some, Opening.due_behindSelector, Selector.due_of? hselector]
      rw [due] at hunselected
      omega
    | none =>
      have hle := lead.unselected.put_le c
      simp only [due, Option.elim_none] at hunselected ⊢
      omega

end Lead

/-! ## Texts -/

/-- The columns that the characters of a text allow on a display. -/
def allowed (cs : List Char) : Nat := display.allowance isWidening cs

/-- The first character allows its own columns, and one more if it is a selector that widens. -/
theorem allowed_cons (c : Char) (cs : List Char) :
    (allowed (c :: cs) : Int) = ownColumns c + (if isWidening c then 1 else 0) + allowed cs := by
  rw [allowed, Ruler.allowance_cons, ownColumns, allowed]
  show ((((charWidth? c).getD 1 + _ : Nat) + _ : Nat) : Int) = _
  split <;> simp

/-- The whole text, character by character from its end. -/
theorem measure_le (cs : List Char) : (measure cs).1 + (measure cs).2.due ≤ allowed cs := by
  induction cs with
  | nil => decide
  | cons c rest ih =>
    have hput := (measure rest).2.put_le c
    rw [allowed_cons]
    show (measure rest).1 + ((measure rest).2.put c).1 + ((measure rest).2.put c).2.due ≤ _
    omega

/-- No text has to give columns back to what comes before it. -/
theorem Lead.due_nonneg (lead : Lead) : 0 ≤ lead.due :=
  Int.le_trans lead.unselected.due_nonneg lead.due_unselected_le

/-- On a display a text has no columns but those of its characters, controls and selectors. -/
theorem display_bounded : display.Bounded isWidening where
  ellipsis := by decide +kernel
  plain := by decide
  text_le cs := by
    have hle := measure_le cs
    have hdue := (measure cs).2.due_nonneg
    show (measure cs).1.toNat ≤ allowed cs
    omega

end ActionForge.Text
