/-!
# Entries in order of first insertion

`Entries β` pairs names with values and remembers the order in which names first came. `put` gives a
known name its new value in the old place and puts a new name last.
-/

namespace ActionForge

/-- Named values, in the order in which the names first came. -/
abbrev Entries (β : Type) := List (String × β)

namespace Entries

variable {β : Type}

/-- The names, in order. -/
def keys (entries : Entries β) : List String := entries.map Prod.fst

/-- The value of a name. -/
def get? : Entries β → String → Option β
  | [], _ => none
  | (name, value) :: rest, key => if name = key then some value else get? rest key

/-- Gives `key` the value: in place when the name is known, at the end when it is new. -/
def put : Entries β → String → β → Entries β
  | [], key, value => [(key, value)]
  | (name, old) :: rest, key, value =>
    if name = key then (key, value) :: rest else (name, old) :: put rest key value

/-- Puts every pair in turn, so that of two values for one name the later counts. -/
def putAll (entries : Entries β) (pairs : List (String × β)) : Entries β :=
  pairs.foldl (fun entries pair => entries.put pair.1 pair.2) entries

/-- The entries that result from putting the pairs one after the other. -/
def ofList (pairs : List (String × β)) : Entries β := putAll [] pairs

/-- No name comes twice. -/
def Distinct (entries : Entries β) : Prop := entries.keys.Nodup

instance (entries : Entries β) : Decidable entries.Distinct :=
  inferInstanceAs (Decidable entries.keys.Nodup)

end Entries

end ActionForge
