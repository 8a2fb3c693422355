import Mathlib.Data.List.Nodup
import ActionForge.Entries

/-!
# Laws of entries

What a look-up finds after pairs were put, and that the names stay distinct. Of several pairs for one
name the last one counts, in the place of the first. Putting entries into others is laying them over the
others, which `Overlaid` describes by names and values alone.
-/

namespace ActionForge.Entries

variable {β γ : Type}

/-! ## Looking up -/

/-- The first entry of a name is found. -/
theorem get?_append (first second : Entries β) (name : String) :
    get? (first ++ second) name = (first.get? name).or (second.get? name) := by
  induction first with
  | nil => rfl
  | cons entry rest ih =>
    obtain ⟨other, value⟩ := entry
    rw [List.cons_append, get?, get?, ih]
    split <;> rfl

/-! ## Putting one pair -/

/-- A pair adds its name at the end, unless the name is there already. -/
theorem keys_put (entries : Entries β) (key : String) (value : β) :
    (entries.put key value).keys =
      if key ∈ entries.keys then entries.keys else entries.keys ++ [key] := by
  induction entries with
  | nil => simp [put, keys]
  | cons entry rest ih =>
    obtain ⟨name, old⟩ := entry
    by_cases h : name = key
    · subst h
      simp [put, keys]
    · have hkey : ¬ key = name := fun e => h e.symm
      simp only [put, if_neg h, keys, List.map_cons] at ih ⊢
      rw [ih]
      by_cases hm : key ∈ rest.map Prod.fst <;> simp [hm, hkey]

/-- Putting a pair keeps the names distinct. -/
theorem distinct_put {entries : Entries β} (h : entries.Distinct) (key : String) (value : β) :
    (entries.put key value).Distinct := by
  rw [Distinct, keys_put]
  split
  · exact h
  · rename_i hkey
    rw [List.nodup_append]
    refine ⟨h, List.nodup_singleton key, ?_⟩
    intro name hname other hother
    rw [List.mem_singleton] at hother
    exact fun e => hkey (hother ▸ e ▸ hname)

/-- A pair for a new name goes to the end. -/
theorem put_of_notMem {entries : Entries β} {key : String} (h : key ∉ entries.keys) (value : β) :
    entries.put key value = entries ++ [(key, value)] := by
  induction entries with
  | nil => rfl
  | cons entry rest ih =>
    obtain ⟨name, old⟩ := entry
    have hname : name ≠ key := fun e => h (by simp [keys, e])
    have hrest : key ∉ keys rest := fun hm => h (by simpa [keys] using Or.inr hm)
    simp only [put, if_neg hname, ih hrest, List.cons_append]

/-- The pair that was put is found under its name, and every other name as before. -/
theorem get?_put (entries : Entries β) (key name : String) (value : β) :
    (entries.put key value).get? name = if key = name then some value else entries.get? name := by
  induction entries with
  | nil => simp [put, get?]
  | cons entry rest ih =>
    obtain ⟨other, old⟩ := entry
    by_cases h : other = key
    · subst h
      by_cases hn : other = name <;> simp [put, get?, hn]
    · simp only [put, if_neg h, get?]
      rw [ih]
      by_cases hn : other = name
      · have hk : ¬ key = name := fun e => h (hn.trans e.symm)
        simp [hn, hk]
      · simp [hn]

/-- Putting a pair goes along with a change of all values. -/
theorem map_put (f : β → γ) (entries : Entries β) (key : String) (value : β) :
    (entries.put key value).map (fun entry => (entry.1, f entry.2)) =
      put (entries.map fun entry => (entry.1, f entry.2)) key (f value) := by
  induction entries with
  | nil => rfl
  | cons entry rest ih =>
    obtain ⟨name, old⟩ := entry
    by_cases h : name = key
    · simp [put, h]
    · simp [put, h, ih]

/-- What holds of the old values and of the new one holds of all values. -/
theorem forall_put {p : β → Prop} {entries : Entries β} (h : ∀ entry ∈ entries, p entry.2) (key : String)
    {value : β} (hvalue : p value) : ∀ entry ∈ entries.put key value, p entry.2 := by
  induction entries with
  | nil => simpa [put] using hvalue
  | cons entry rest ih =>
    obtain ⟨hentry, hrest⟩ := List.forall_mem_cons.1 h
    obtain ⟨name, old⟩ := entry
    rw [put]
    split
    · exact List.forall_mem_cons.2 ⟨hvalue, hrest⟩
    · exact List.forall_mem_cons.2 ⟨hentry, ih hrest⟩

/-! ## Putting pairs one after the other -/

@[simp]
theorem putAll_nil (entries : Entries β) : entries.putAll [] = entries := rfl

@[simp]
theorem putAll_cons (entries : Entries β) (pair : String × β) (pairs : List (String × β)) :
    entries.putAll (pair :: pairs) = (entries.put pair.1 pair.2).putAll pairs := rfl

/-- Names stay distinct whatever is put. -/
theorem distinct_putAll {entries : Entries β} (h : entries.Distinct) (pairs : List (String × β)) :
    (entries.putAll pairs).Distinct := by
  induction pairs generalizing entries with
  | nil => exact h
  | cons pair rest ih => exact ih (distinct_put h pair.1 pair.2)

/-- What holds of the old values and of all new ones holds of all values. -/
theorem forall_putAll {p : β → Prop} {entries : Entries β} (h : ∀ entry ∈ entries, p entry.2)
    {pairs : List (String × β)} (hpairs : ∀ pair ∈ pairs, p pair.2) :
    ∀ entry ∈ entries.putAll pairs, p entry.2 := by
  induction pairs generalizing entries with
  | nil => exact h
  | cons pair rest ih =>
    obtain ⟨hpair, hrest⟩ := List.forall_mem_cons.1 hpairs
    exact ih (forall_put h pair.1 hpair) hrest

/-- New names follow the old ones, each where it first came. -/
theorem keys_putAll (entries : Entries β) (pairs : List (String × β)) :
    (entries.putAll pairs).keys =
      entries.keys ++ ((pairs.map Prod.fst).filter (· ∉ entries.keys)).eraseDups := by
  induction pairs generalizing entries with
  | nil => simp
  | cons pair rest ih =>
    rw [putAll_cons, ih, keys_put, List.map_cons, List.filter_cons]
    by_cases h : pair.1 ∈ entries.keys
    · simp [h]
    · -- The first pair's name is old for the rest, so the rest does not add it again.
      have hrest : (rest.map Prod.fst).filter (· ∉ entries.keys ++ [pair.1]) =
          ((rest.map Prod.fst).filter (· ∉ entries.keys)).filter (fun name => !name == pair.1) := by
        rw [List.filter_filter]
        refine List.filter_congr fun name _ => ?_
        by_cases hname : name = pair.1 <;> simp [hname]
      rw [if_neg h, if_pos (by simpa using h), hrest, List.eraseDups_cons, List.append_assoc,
        List.singleton_append]

/-- The names are those of the pairs, each where it first came. -/
theorem keys_ofList (pairs : List (String × β)) :
    (ofList pairs).keys = (pairs.map Prod.fst).eraseDups := by
  rw [ofList, keys_putAll]
  simp [keys]

/-- Entries made from pairs have distinct names, also where the pairs repeat some. -/
theorem distinct_ofList (pairs : List (String × β)) : (ofList pairs).Distinct := by
  have hempty : Distinct ([] : Entries β) := List.nodup_nil
  exact distinct_putAll hempty pairs

/-- Pairs with new and distinct names are added as they are. -/
theorem putAll_of_nodup {entries : Entries β} {pairs : List (String × β)}
    (hpairs : (pairs.map Prod.fst).Nodup) (hnew : ∀ pair ∈ pairs, pair.1 ∉ entries.keys) :
    entries.putAll pairs = entries ++ pairs := by
  induction pairs generalizing entries with
  | nil => simp
  | cons pair rest ih =>
    obtain ⟨hpair, hrest⟩ := List.nodup_cons.1 hpairs
    rw [putAll_cons, put_of_notMem (hnew pair List.mem_cons_self), ih hrest]
    · simp
    · -- The head was put at the end, and its name is not among those of the rest.
      intro other hother
      have hne : other.1 ≠ pair.1 := fun e => hpair (e ▸ List.mem_map_of_mem hother)
      have hold : other.1 ∉ entries.keys := hnew other (List.mem_cons_of_mem _ hother)
      rw [keys, List.map_append, List.mem_append, not_or]
      exact ⟨hold, by simpa using hne⟩

/-- Pairs with distinct names are entries already. -/
theorem ofList_of_nodup {pairs : List (String × β)} (h : (pairs.map Prod.fst).Nodup) :
    ofList pairs = pairs :=
  putAll_of_nodup h fun _ _ => List.not_mem_nil

/-- Of the pairs for one name the last one is found. -/
theorem get?_putAll (entries : Entries β) (pairs : List (String × β)) (name : String) :
    (entries.putAll pairs).get? name =
      ((pairs.reverse.find? fun pair => pair.1 = name).map Prod.snd).or (entries.get? name) := by
  induction pairs generalizing entries with
  | nil => simp
  | cons pair rest ih =>
    rw [putAll_cons, ih, get?_put, List.reverse_cons, List.find?_append]
    cases rest.reverse.find? (fun pair => pair.1 = name) with
    | some found => simp
    | none => by_cases h : pair.1 = name <;> simp [h]

/-- Entries made from pairs give the last value for a name. -/
theorem get?_ofList (pairs : List (String × β)) (name : String) :
    (ofList pairs).get? name = (pairs.reverse.find? fun pair => pair.1 = name).map Prod.snd := by
  rw [ofList, get?_putAll]
  simp [get?]

/-- Putting pairs goes along with a change of all values. -/
theorem map_putAll (f : β → γ) (entries : Entries β) (pairs : List (String × β)) :
    (entries.putAll pairs).map (fun entry => (entry.1, f entry.2)) =
      putAll (entries.map fun entry => (entry.1, f entry.2))
        (pairs.map fun pair => (pair.1, f pair.2)) := by
  induction pairs generalizing entries with
  | nil => rfl
  | cons pair rest ih => rw [putAll_cons, ih, map_put]; rfl

/-- Making entries of pairs goes along with a change of all values. -/
theorem map_ofList (f : β → γ) (pairs : List (String × β)) :
    (ofList pairs).map (fun entry => (entry.1, f entry.2)) =
      ofList (pairs.map fun pair => (pair.1, f pair.2)) :=
  map_putAll f [] pairs

/-! ## Entries and look-ups -/

/-- With distinct names, every entry is the one that its name finds. -/
theorem get?_eq_some_iff {entries : Entries β} (h : entries.Distinct) (name : String) (value : β) :
    entries.get? name = some value ↔ (name, value) ∈ entries := by
  induction entries with
  | nil => simp [get?]
  | cons entry rest ih =>
    obtain ⟨other, old⟩ := entry
    obtain ⟨hother, hrest⟩ := List.nodup_cons.1 h
    by_cases hn : other = name
    · subst hn
      have hnot : (other, value) ∉ rest := fun hm => hother (List.mem_map.2 ⟨_, hm, rfl⟩)
      simp [get?, hnot, eq_comm]
    · have hn' : ¬ name = other := fun e => hn e.symm
      simp [get?, hn, hn', ih hrest]

/-- An entry made from pairs is the last pair of its name. -/
theorem mem_ofList_iff (pairs : List (String × β)) (name : String) (value : β) :
    (name, value) ∈ ofList pairs ↔
      (pairs.reverse.find? fun pair => pair.1 = name).map Prod.snd = some value := by
  rw [← get?_eq_some_iff (distinct_ofList pairs), get?_ofList]

/-- Of several items under one name the last one counts. -/
theorem mem_ofList_map_iff {α : Type} (key : α → String) (value : α → β) {items : List α} {name : String}
    {found : β} :
    (name, found) ∈ ofList (items.map fun item => (key item, value item)) ↔
      ∃ before item after, items = before ++ item :: after ∧ key item = name ∧ value item = found ∧
        ∀ later ∈ after, key later ≠ name := by
  rw [mem_ofList_iff, ← List.map_reverse, List.find?_map, Option.map_map, Option.map_eq_some_iff]
  constructor
  · rintro ⟨item, hitem, hvalue⟩
    obtain ⟨hkey, before, after, hitems, hbefore⟩ := List.find?_eq_some_iff_append.1 hitem
    refine ⟨after.reverse, item, before.reverse, ?_, by simpa using hkey, hvalue, by simpa using hbefore⟩
    -- The last item of the name is the first one from the end.
    rw [← List.reverse_inj, hitems]
    simp
  · rintro ⟨before, item, after, rfl, hkey, hvalue, hafter⟩
    refine ⟨item, List.find?_eq_some_iff_append.2 ⟨by simpa using hkey, ?_⟩, hvalue⟩
    exact ⟨after.reverse, before.reverse, by simp, by simpa using hafter⟩

/-! ## Entries laid over others -/

/-- Entries that are laid over others: the names are those below, in their places, and then the other names
above; a value from above counts where there is one. -/
structure Overlaid (below above entries : Entries β) : Prop where
  distinct : entries.Distinct
  keys : entries.keys = below.keys ++ above.keys.filter (· ∉ below.keys)
  values : ∀ name, entries.get? name = (above.get? name).or (below.get? name)

/-- The names are those that a look-up finds. -/
theorem mem_keys_iff {entries : Entries β} {name : String} :
    name ∈ entries.keys ↔ (entries.get? name).isSome := by
  induction entries with
  | nil => simp [keys, get?]
  | cons entry rest ih =>
    obtain ⟨other, value⟩ := entry
    rw [keys, List.map_cons, List.mem_cons, get?, ← keys, ih]
    by_cases h : other = name
    · simp [h]
    · simp [h, Ne.symm h]

/-- Entries are known by their names, in order, and by their values. -/
theorem eq_of_keys_of_get? {first second : Entries β} (h : first.Distinct) (hkeys : first.keys = second.keys)
    (hvalues : ∀ name, first.get? name = second.get? name) : first = second := by
  have hdistinct : second.Distinct := by rwa [Distinct, ← hkeys]
  induction first generalizing second with
  | nil => cases second with
    | nil => rfl
    | cons entry rest => cases hkeys
  | cons entry rest ih =>
    cases second with
    | nil => cases hkeys
    | cons entry' rest' =>
      obtain ⟨name, value⟩ := entry
      obtain ⟨name', value'⟩ := entry'
      obtain ⟨hname, hrest⟩ := List.cons.inj hkeys
      obtain rfl : name = name' := hname
      have hvalue : value = value' := by simpa [get?] using hvalues name
      obtain ⟨hnot, hd⟩ := List.nodup_cons.1 h
      obtain ⟨hnot', hd'⟩ := List.nodup_cons.1 hdistinct
      rw [hvalue, ih hd hrest (fun other => ?_) hd']
      -- Neither rest has the name of the head; under all other names the heads are passed over.
      by_cases hother : name = other
      · subst hother
        have hnone : ∀ {entries : Entries β}, name ∉ entries.keys → entries.get? name = none := by
          intro entries hmem
          rwa [mem_keys_iff, Option.not_isSome_iff_eq_none] at hmem
        rw [hnone hnot, hnone hnot']
      · simpa [get?, hother] using hvalues other

/-- Entries are known by their names, in order, and by what they hold. -/
theorem eq_of_keys_of_mem {first second : Entries β} (h : first.Distinct)
    (hkeys : first.keys = second.keys) (hmem : ∀ name value, (name, value) ∈ first ↔ (name, value) ∈ second) :
    first = second := by
  have h' : second.Distinct := by rwa [Distinct, ← hkeys]
  refine eq_of_keys_of_get? h hkeys fun name => Option.ext fun value => ?_
  rw [get?_eq_some_iff h, get?_eq_some_iff h', hmem]

namespace Overlaid

variable {below above entries : Entries β}

/-- Only one list of entries is laid over others as described. -/
theorem unique {entries' : Entries β} (h : Overlaid below above entries)
    (h' : Overlaid below above entries') : entries = entries' :=
  eq_of_keys_of_get? h.distinct (h.keys.trans h'.keys.symm)
    fun name => (h.values name).trans (h'.values name).symm

/-- Laying the result over what was below changes nothing any more. -/
theorem again (h : Overlaid below above entries) : Overlaid below entries entries where
  distinct := h.distinct
  keys := by
    have hnone : below.keys.filter (· ∉ below.keys) = [] := List.filter_eq_nil_iff.2 (by simp)
    rw [h.keys, List.filter_append, hnone, List.nil_append, List.filter_filter]
    simp
  values name := by
    rw [h.values]
    cases above.get? name <;> simp

/-- Laying over the result what was above changes nothing any more. -/
theorem absorb (h : Overlaid below above entries) : Overlaid entries above entries where
  distinct := h.distinct
  keys := by
    have hnone : above.keys.filter (· ∉ entries.keys) = [] := by
      refine List.filter_eq_nil_iff.2 fun name hname => ?_
      have hmem : name ∈ entries.keys := by
        rw [mem_keys_iff] at hname ⊢
        rw [h.values, Option.isSome_or, hname, Bool.true_or]
      simpa using hmem
    rw [hnone, List.append_nil]
  values name := by
    rw [h.values]
    cases above.get? name <;> simp

end Overlaid

/-- Putting entries with distinct names one after the other lays them over the others. -/
theorem overlaid_putAll {below above : Entries β} (hbelow : below.Distinct) (habove : above.Distinct) :
    Overlaid below above (below.putAll above) := by
  induction above generalizing below with
  | nil => exact ⟨hbelow, by simp [keys], fun name => by simp [get?]⟩
  | cons pair rest ih =>
    obtain ⟨name, value⟩ := pair
    obtain ⟨hname, hrest⟩ := List.nodup_cons.1 habove
    have hname : name ∉ keys rest := hname
    have hput := ih (distinct_put hbelow name value) hrest
    refine ⟨hput.distinct, ?_, fun other => ?_⟩
    · have hcons : keys ((name, value) :: rest) = name :: keys rest := rfl
      rw [putAll_cons, hput.keys, keys_put, hcons, List.filter_cons]
      by_cases hmem : name ∈ below.keys
      · simp [hmem]
      · -- The name that was just put is not among those still to come.
        have hsame : (keys rest).filter (· ∉ below.keys ++ [name]) =
            (keys rest).filter (· ∉ below.keys) := by
          refine List.filter_congr fun other hother => ?_
          have hne : other ≠ name := fun h => hname (h ▸ hother)
          simp [hne]
        rw [if_neg hmem, hsame, if_pos (by simpa using hmem), List.append_assoc, List.singleton_append]
    · rw [putAll_cons, hput.values, get?_put, get?]
      by_cases hother : name = other
      · subst hother
        rw [mem_keys_iff, Option.not_isSome_iff_eq_none] at hname
        simp [hname]
      · simp [hother]

end ActionForge.Entries
