import ActionForge.Decimal.Binary64
import ActionForge.Entries

/-!
# JSON values

Objects keep their members in order. A number is an integer of 64 bits, signed or unsigned, or a
`Binary64`; which of the two it is shows in its text.
-/

namespace ActionForge

/-- A number of a JSON text. -/
inductive Number where
  | integer (n : Int)
  | float (x : Binary64)
  deriving DecidableEq, Repr

/-- A JSON value. -/
inductive Json where
  | null
  | bool (b : Bool)
  | number (n : Number)
  | text (s : String)
  | array (items : List Json)
  | object (members : List (String × Json))
  deriving Repr

namespace Json

/-- An integer value. -/
def integer (n : Int) : Json := .number (.integer n)

/-- The member of an object with the given name. -/
def member? : Json → String → Option Json
  | .object members, name => Entries.get? members name
  | _, _ => none

/-- Whether the value is an object. -/
def isObject : Json → Bool
  | .object _ => true
  | _ => false

/-- Whether the value is a text, a number or a Boolean. -/
def isScalar : Json → Bool
  | .text _ | .number _ | .bool _ => true
  | _ => false

/-- The text of a text value. -/
def text? : Json → Option String
  | .text s => some s
  | _ => none

/-- The items of an array. -/
def items? : Json → Option (List Json)
  | .array items => some items
  | _ => none

mutual

/-- No object in the value names a member twice. -/
def WellFormed : Json → Prop
  | .array items => ItemsWellFormed items
  | .object members => Entries.Distinct members ∧ MembersWellFormed members
  | _ => True

/-- Every item is well-formed. -/
def ItemsWellFormed : List Json → Prop
  | [] => True
  | item :: rest => item.WellFormed ∧ ItemsWellFormed rest

/-- Every member's value is well-formed. -/
def MembersWellFormed : List (String × Json) → Prop
  | [] => True
  | (_, value) :: rest => value.WellFormed ∧ MembersWellFormed rest

end

end Json

end ActionForge
