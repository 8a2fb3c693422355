import ActionForge.Json.Reader
import ActionForge.Proofs.Checked
import ActionForge.Proofs.Entries
import ActionForge.Proofs.Json.Scanning

/-!
# Reading printed values

The tokens of a value build the draft `Json.draft`, in which every container is closed, and a reader of that
draft gets the value back when its members are distinct and its containers nest no deeper than there is room
for (`readValue_draft`). Whatever text a value was read from, it has distinct members and keeps within that
room (`regular_of_readValue`), so it can be printed and read again.
-/

namespace ActionForge.Json

/-! ## Drafts of values -/

mutual

/-- The draft of a value. -/
def draft : Json → Draft
  | .null => .null
  | .bool b => .bool b
  | .number n => .number (some n)
  | .text s => .text (some s)
  | .array items => .array (draftItems items) .closed
  | .object members => .object (draftMembers members) .closed

/-- The drafts of items. -/
def draftItems : List Json → List Draft
  | [] => []
  | item :: rest => item.draft :: draftItems rest

/-- The drafts of members. -/
def draftMembers : List (String × Json) → List (Option String × Draft)
  | [] => []
  | (name, value) :: rest => (some name, value.draft) :: draftMembers rest

end

namespace Draft

/-- No value starts with a bracket that closes an array, so an item is built like any value. -/
theorem build_item (value : Json) (rest : List Token) (read : List Draft) (fresh : Bool)
    (frames : List Frame) :
    build (value.written ++ rest) (.item read fresh) frames =
      build (value.written ++ rest) .value (.array read :: frames) := by
  match value with
  | .null | .bool _ | .number _ | .text _ => rfl
  | .array [] | .array (_ :: _) => rfl
  | .object [] | .object (_ :: _) => rfl

mutual

/-- The tokens of a value build its draft, inside whatever containers are open. -/
theorem build_written : (value : Json) → (frames : List Frame) → (rest : List Token) →
    build (value.written ++ rest) .value frames = deliver value.draft frames rest (build rest)
  | .null, _, _ | .bool _, _, _ | .number _, _, _ | .text _, _, _ => rfl
  | .array [], _, _ => rfl
  | .array (item :: items), frames, rest => by
    have hopen : ∀ tokens, build (.opening .square :: tokens) .value frames =
        build tokens (.item [] true) frames := fun _ => rfl
    rw [written, List.cons_append, hopen, List.append_assoc, build_item, build_written item]
    exact build_writtenItems items [item.draft] frames rest
  | .object [], _, _ => rfl
  | .object ((name, value) :: members), frames, rest => by
    -- An object starts with its first name, whose value is read with the object left open.
    have hopen : ∀ tokens, build (.opening .curly :: .text (some name) :: .colon :: tokens) .value frames =
        build tokens .value (.object [] (some name) :: frames) := fun _ => rfl
    rw [written, List.cons_append, List.cons_append, List.cons_append, hopen, List.append_assoc,
      build_written value]
    exact build_writtenMembers members [(some name, value.draft)] frames rest

/-- The tokens after an item end the array that holds the items read so far and the others. -/
theorem build_writtenItems : (items : List Json) → (read : List Draft) → (frames : List Frame) →
    (rest : List Token) →
    build (writtenItems items ++ rest) (.afterItem read) frames =
      deliver (.array (read.reverse ++ draftItems items) .closed) frames rest (build rest)
  | [], read, frames, rest => by
    rw [draftItems, List.append_nil]
    rfl
  | item :: items, read, frames, rest => by
    have hcomma : ∀ tokens, build (.comma :: tokens) (.afterItem read) frames =
        build tokens (.item read false) frames := fun _ => rfl
    rw [writtenItems, List.cons_append, hcomma, List.append_assoc, build_item, build_written item]
    refine (build_writtenItems items (item.draft :: read) frames rest).trans ?_
    rw [List.reverse_cons, List.append_assoc, List.singleton_append, draftItems]

/-- The tokens after a member end the object that holds the members read so far and the others. -/
theorem build_writtenMembers : (members : List (String × Json)) →
    (read : List (Option String × Draft)) → (frames : List Frame) → (rest : List Token) →
    build (writtenMembers members ++ rest) (.afterMember read) frames =
      deliver (.object (read.reverse ++ draftMembers members) .closed) frames rest (build rest)
  | [], read, frames, rest => by
    rw [draftMembers, List.append_nil]
    rfl
  | (name, value) :: members, read, frames, rest => by
    have hcomma : ∀ tokens,
        build (.comma :: .text (some name) :: .colon :: tokens) (.afterMember read) frames =
          build tokens .value (.object read (some name) :: frames) := fun _ => rfl
    rw [writtenMembers, List.cons_append, List.cons_append, List.cons_append, hcomma, List.append_assoc,
      build_written value]
    refine (build_writtenMembers members ((some name, value.draft) :: read) frames rest).trans ?_
    rw [List.reverse_cons, List.append_assoc, List.singleton_append, draftMembers]

end

/-- A pretty text, with blanks after it, has the draft of its value and nothing more. -/
theorem ofText_pretty {value : Json} (h : value.IsWhole) {blanks : String}
    (hblanks : ∀ c ∈ blanks.toList, isSpace c) : ofText (value.pretty ++ blanks) = (value.draft, []) := by
  have hbuild := build_written value [] []
  rw [List.append_nil] at hbuild
  rw [ofText, String.toList_append, tokens_pretty h hblanks, hbuild, deliver]

end Draft

/-! ## Values that are read back -/

mutual

/-- How deep containers nest in the value. -/
def depth : Json → Nat
  | .array items => itemsDepth items + 1
  | .object members => membersDepth members + 1
  | _ => 0

/-- How deep containers nest in the items. -/
def itemsDepth : List Json → Nat
  | [] => 0
  | item :: rest => max item.depth (itemsDepth rest)

/-- How deep containers nest in the members' values. -/
def membersDepth : List (String × Json) → Nat
  | [] => 0
  | (_, value) :: rest => max value.depth (membersDepth rest)

end

open Draft (readValue readItems readMembers)

mutual

/-- The draft of a value with distinct members is read as the value, if there is room for it. -/
theorem readValue_draft : (value : Json) → {room : Nat} → value.WellFormed → value.depth ≤ room →
    readValue room value.draft = .ok value
  | .null, _, _, _ | .bool _, _, _, _ | .number _, _, _, _ | .text _, _, _, _ => rfl
  | .array items, 0, _, hdepth => absurd hdepth (by simp [depth])
  | .array items, room + 1, h, hdepth => by
    have hitems := readItems_draftItems items h (Nat.le_of_succ_le_succ hdepth)
    rw [draft, readValue, hitems]
    rfl
  | .object members, 0, _, hdepth => absurd hdepth (by simp [depth])
  | .object members, room + 1, h, hdepth => by
    have hmembers := readMembers_draftMembers members h.2 (Nat.le_of_succ_le_succ hdepth)
    rw [draft, readValue, hmembers]
    -- The members are put one by one, which leaves distinct ones as they are.
    show Except.ok (Json.object (Entries.ofList members)) = _
    rw [Entries.ofList_of_nodup h.1]

/-- The drafts of items are read as the items. -/
theorem readItems_draftItems : (items : List Json) → {room : Nat} → ItemsWellFormed items →
    itemsDepth items ≤ room → readItems room (draftItems items) = .ok items
  | [], _, _, _ => rfl
  | item :: items, _, h, hdepth => by
    have hitem := readValue_draft item h.1 (Nat.le_trans (Nat.le_max_left ..) hdepth)
    have hitems := readItems_draftItems items h.2 (Nat.le_trans (Nat.le_max_right ..) hdepth)
    rw [draftItems, readItems, hitem, hitems]
    rfl

/-- The drafts of members are read as the members. -/
theorem readMembers_draftMembers : (members : List (String × Json)) → {room : Nat} →
    MembersWellFormed members → membersDepth members ≤ room →
    readMembers room (draftMembers members) = .ok members
  | [], _, _, _ => rfl
  | (name, value) :: members, _, h, hdepth => by
    have hvalue := readValue_draft value h.1 (Nat.le_trans (Nat.le_max_left ..) hdepth)
    have hmembers := readMembers_draftMembers members h.2 (Nat.le_trans (Nat.le_max_right ..) hdepth)
    rw [draftMembers, readMembers, hvalue, hmembers]
    rfl

end

/-! ## Values that were read -/

/-- A value has distinct members and keeps within the room. -/
def Regular (room : Nat) (value : Json) : Prop := value.WellFormed ∧ value.depth ≤ room

/-- Members are well-formed when every value is. -/
theorem membersWellFormed_iff {members : List (String × Json)} :
    MembersWellFormed members ↔ ∀ member ∈ members, member.2.WellFormed := by
  induction members with
  | nil => simp [MembersWellFormed]
  | cons member rest ih =>
    obtain ⟨name, value⟩ := member
    simp [MembersWellFormed, ih]

/-- Members keep within a room when every value does. -/
theorem membersDepth_le_iff {members : List (String × Json)} {room : Nat} :
    membersDepth members ≤ room ↔ ∀ member ∈ members, member.2.depth ≤ room := by
  induction members with
  | nil => simp [membersDepth]
  | cons member rest ih =>
    obtain ⟨name, value⟩ := member
    rw [membersDepth, Nat.max_le, ih]
    simp

/-- Merging repeated members keeps an object within the room and makes it regular. -/
theorem regular_ofList {room : Nat} {pairs : List (String × Json)}
    (h : ∀ pair ∈ pairs, pair.2.Regular room) :
    (Json.object (Entries.ofList pairs)).Regular (room + 1) := by
  -- What is left under a name is one of the pairs with the name.
  have hmem : ∀ member ∈ Entries.ofList pairs, member.2.Regular room := by
    rintro ⟨name, value⟩ hmember
    obtain ⟨pair, hpair, rfl⟩ := Option.map_eq_some_iff.1 ((Entries.mem_ofList_iff ..).1 hmember)
    exact h pair (List.mem_reverse.1 (List.mem_of_find?_eq_some hpair))
  refine ⟨⟨Entries.distinct_ofList pairs, ?_⟩, Nat.succ_le_succ ?_⟩
  · exact membersWellFormed_iff.2 fun member hmember => (hmem member hmember).1
  · exact membersDepth_le_iff.2 fun member hmember => (hmem member hmember).2

mutual

/-- Whatever a value was read from, it has distinct members and keeps within the room. -/
theorem regular_of_readValue : (d : Draft) → {room : Nat} → {value : Json} →
    readValue room d = .ok value → value.Regular room
  | .null, _, _, h | .bool _, _, _, h | .number (some _), _, _, h | .text (some _), _, _, h => by
    cases h
    exact ⟨trivial, Nat.zero_le _⟩
  | .number none, _, _, h | .text none, _, _, h | .broken _ _, _, _, h => by cases h
  | .array _ _, 0, _, h | .object _ _, 0, _, h => by cases h
  | .array items ending, room + 1, value, h => by
    obtain ⟨values, hvalues, h⟩ := bind_eq_ok_iff.1 h
    obtain ⟨-, -, h⟩ := bind_eq_ok_iff.1 h
    cases h
    obtain ⟨hformed, hdepth⟩ := regular_of_readItems items hvalues
    exact ⟨hformed, Nat.succ_le_succ hdepth⟩
  | .object members ending, room + 1, value, h => by
    obtain ⟨pairs, hpairs, h⟩ := bind_eq_ok_iff.1 h
    obtain ⟨-, -, h⟩ := bind_eq_ok_iff.1 h
    cases h
    -- The names of an object may repeat in the text; putting them merges the repeated ones.
    exact regular_ofList (regular_of_readMembers members hpairs)

/-- What was read as items has distinct members in every item. -/
theorem regular_of_readItems : (items : List Draft) → {room : Nat} → {values : List Json} →
    readItems room items = .ok values → ItemsWellFormed values ∧ itemsDepth values ≤ room
  | [], _, _, h => by
    cases h
    exact ⟨trivial, Nat.zero_le _⟩
  | item :: items, _, _, h => by
    obtain ⟨value, hvalue, h⟩ := bind_eq_ok_iff.1 h
    obtain ⟨values, hvalues, h⟩ := bind_eq_ok_iff.1 h
    cases h
    obtain ⟨hformed, hdepth⟩ := regular_of_readValue item hvalue
    obtain ⟨hformed', hdepth'⟩ := regular_of_readItems items hvalues
    exact ⟨⟨hformed, hformed'⟩, Nat.max_le.2 ⟨hdepth, hdepth'⟩⟩

/-- What was read as members has distinct members in every value; the names may still repeat. -/
theorem regular_of_readMembers : (members : List (Option String × Draft)) → {room : Nat} →
    {pairs : List (String × Json)} → readMembers room members = .ok pairs →
    ∀ pair ∈ pairs, pair.2.Regular room
  | [], _, _, h => by
    cases h
    simp
  | (none, _) :: _, _, _, h => by cases h
  | (some name, d) :: members, _, _, h => by
    obtain ⟨value, hvalue, h⟩ := bind_eq_ok_iff.1 h
    obtain ⟨pairs, hpairs, h⟩ := bind_eq_ok_iff.1 h
    cases h
    intro pair hpair
    rcases List.mem_cons.1 hpair with rfl | hpair
    · exact regular_of_readValue d hvalue
    · exact regular_of_readMembers members hpairs pair hpair

end

/-! ## Maps and records -/

namespace Draft

/-- A draft of the wrong kind is never read. -/
theorem ne_mismatch {α : Type} {d : Draft} {expected : String} {value : α} :
    d.mismatch expected ≠ .ok value := by
  intro h
  obtain ⟨found, -, h⟩ := bind_eq_ok_iff.1 h
  cases h

/-- A map that was read has distinct names. -/
theorem distinct_of_readMap {β : Type} {read : Draft → Read β} {d : Draft} {entries : Entries β}
    (h : readMap read d = .ok entries) : entries.Distinct := by
  cases d with
  | object members ending =>
    obtain ⟨pairs, -, h⟩ := bind_eq_ok_iff.1 h
    obtain ⟨-, -, h⟩ := bind_eq_ok_iff.1 h
    cases h
    exact Entries.distinct_ofList pairs
  | _ => exact absurd h ne_mismatch

/-- Distinct entries whose values are read back are read back as a map. -/
theorem readMap_draft {β : Type} {read : Draft → Read β} {entries : Entries β} (encode : β → Json)
    (hdistinct : entries.Distinct)
    (h : ∀ entry ∈ entries, read (encode entry.2).draft = .ok entry.2) :
    readMap read (Json.object (entries.map fun entry => (entry.1, encode entry.2))).draft =
      .ok entries := by
  have hpairs : ∀ entries : Entries β, (∀ entry ∈ entries, read (encode entry.2).draft = .ok entry.2) →
      readPairs read (draftMembers (entries.map fun entry => (entry.1, encode entry.2))) = .ok entries := by
    intro entries h
    induction entries with
    | nil => rfl
    | cons entry rest ih =>
      rw [List.map_cons, draftMembers, readPairs, h entry List.mem_cons_self,
        ih fun other hother => h other (List.mem_cons_of_mem entry hother)]
      rfl
  rw [draft, readMap, hpairs entries h]
  show Except.ok (Entries.ofList entries) = _
  rw [Entries.ofList_of_nodup hdistinct]

section Records

variable {σ : Type} {P : σ → Prop} {step : σ → String → Draft → Read σ}

/-- What every member keeps is kept through all members of an object, known or not. -/
theorem readNamed_invariant (hstep : ∀ s name d s', P s → step s name d = .ok s' → P s')
    {names : List String} {members : List (Option String × Draft)} {seen : List String} {s s' : σ}
    (hs : P s) (h : readNamed names step seen s members = .ok s') : P s' := by
  -- The invariant goes from one member to the next; which names were seen plays no part in it.
  induction members generalizing seen s with
  | nil =>
    cases h
    exact hs
  | cons member rest ih =>
    obtain ⟨name?, d⟩ := member
    cases name? with
    | none => cases h
    | some name =>
      rw [readNamed] at h
      split at h
      · split at h
        · cases h
        · obtain ⟨next, hnext, h⟩ := bind_eq_ok_iff.1 h
          exact ih (hstep s name d next hs hnext) h
      · -- An unknown member is passed over.
        obtain ⟨-, -, h⟩ := bind_eq_ok_iff.1 h
        exact ih hs h

/-- What every member keeps is kept through the items that stand for members. -/
theorem readListed_invariant (hstep : ∀ s name d s', P s → step s name d = .ok s' → P s')
    {ending : Ending} {names : List String} {items : List Draft} {s s' : σ} (hs : P s)
    (h : readListed step ending names s items = .ok s') : P s' := by
  induction items generalizing names s with
  | nil =>
    cases names <;>
    · obtain ⟨-, -, h⟩ := bind_eq_ok_iff.1 h
      cases h
      exact hs
  | cons d rest ih =>
    -- Items stand for the names in their order, so each is a step under its own name.
    cases names with
    | nil => cases h
    | cons name names =>
      obtain ⟨next, hnext, h⟩ := bind_eq_ok_iff.1 h
      exact ih (hstep s name d next hs hnext) h

/-- What the defaults of a record have and the reader of a member keeps, a record has that was read, from
an object or from an array. -/
theorem readRecord_invariant {title : String} {names : List String} {start s : σ} {d : Draft}
    (hstart : P start) (hstep : ∀ s name d s', P s → step s name d = .ok s' → P s')
    (h : readRecord title names step start d = .ok s) : P s := by
  cases d with
  | object members ending =>
    obtain ⟨s', hs', h⟩ := bind_eq_ok_iff.1 h
    obtain ⟨-, -, h⟩ := bind_eq_ok_iff.1 h
    cases h
    exact readNamed_invariant hstep hstart hs'
  | array items ending => exact readListed_invariant hstep hstart h
  | _ => exact absurd h ne_mismatch

end Records

end Draft

end ActionForge.Json
