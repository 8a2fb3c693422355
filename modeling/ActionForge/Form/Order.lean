import ActionForge.Form.Basic

/-!
# Order of form fields

Fields are sorted among their siblings by their local names, with the field `id` first. The local name
is the key without the part that repeats the parent's key. The sort keeps fields with equal names in
the order they came in.
-/

namespace ActionForge

/-! ## Stable sorting -/

section Sorting

variable {α : Type}

/-- Puts an item before the first one that may follow it. -/
def insertBy (le : α → α → Bool) (item : α) : List α → List α
  | [] => [item]
  | other :: rest => if le item other then item :: other :: rest else other :: insertBy le item rest

/-- Sorts a list by insertion from its end, so that equal items keep their order. -/
def sortBy (le : α → α → Bool) : List α → List α
  | [] => []
  | item :: rest => insertBy le item (sortBy le rest)

end Sorting

/-! ## Local names -/

/-- Takes a beginning off a text. -/
def dropStart? : List Char → List Char → Option (List Char)
  | [], text => some text
  | c :: start, d :: text => if c = d then dropStart? start text else none
  | _ :: _, [] => none

/-- Takes a parent's key and the separator after it off a child's key. -/
def withoutParent? (parent key : List Char) : Option (List Char) := do
  let rest ← dropStart? parent key
  (dropStart? ['_', '_'] rest).or (dropStart? ['.'] rest)

/-- The name of a field among its siblings. -/
def localName (parent : Option String) (key : String) : String :=
  match parent.bind fun parent => withoutParent? parent.toList key.toList with
  | some name => String.ofList name
  | none => key

/-- Whether a name may come before another: `id` comes first, then names go by code points. -/
def nameLe (first second : String) : Bool :=
  first == idKey || (second != idKey && decide (first ≤ second))

/-- Sorts siblings, given what their keys are. -/
def sortSiblings {α : Type} (key : α → String) (parent : Option String) (fields : List α) : List α :=
  sortBy (fun first second => nameLe (localName parent (key first)) (localName parent (key second)))
    fields

mutual

/-- Sorts what lies below a field. -/
def InputField.sortChildren : InputField → InputField
  | ⟨spec, children⟩ => ⟨spec, sortSiblings (·.key) (some spec.key) (sortAllChildren children)⟩

/-- Sorts what lies below each of the fields. -/
def sortAllChildren : List InputField → List InputField
  | [] => []
  | field :: rest => field.sortChildren :: sortAllChildren rest

end

/-- Sorts the fields below a parent, and all that lies below them. -/
def sortInputGroup (parent : Option String) (sort : Bool) (fields : List InputField) :
    List InputField :=
  if sort then sortSiblings (·.key) parent (sortAllChildren fields) else fields

/-- Sorts a form. -/
def sortInputs (sort : Bool) (fields : List InputField) : List InputField :=
  sortInputGroup none sort fields

/-- Sorts output fields. -/
def sortOutputs (sort : Bool) (fields : List OutputField) : List OutputField :=
  if sort then sortSiblings (·.key) none fields else fields

end ActionForge
