import ActionForge.Json.Basic
import ActionForge.Proofs.Script.Syntax

/-!
# Values of expressions

Values are those that JSON has, with the undefined value, with objects whose prototype was set, and with
what objects get from the language itself. An evaluation gives a value or stops: at a type error, at a
variable without a value, or where it leaves what is described here, which is the members of texts, of
arrays and of functions.
-/

namespace ActionForge.Script

/-- A value. An object without a prototype of its own has the standard one. `builtin` is what objects get
under a name from that prototype. -/
inductive Value where
  | undefined
  | null
  | bool (b : Bool)
  | number (n : Number)
  | text (s : String)
  | array (items : List Value)
  | object (prototype : Option Value) (members : List (String × Value))
  | builtin (name : String)

/-- Why an evaluation stops without a value. -/
inductive Stop where
  | typeError
  | unbound
  | beyond
  deriving DecidableEq, Repr

/-- The members of the standard prototype. -/
def standardMembers : List String :=
  ["__defineGetter__", "__defineSetter__", "__lookupGetter__", "__lookupSetter__", "__proto__",
    "constructor", "hasOwnProperty", "isPrototypeOf", "propertyIsEnumerable", "toLocaleString", "toString",
    "valueOf"]

namespace Value

/-- A plain object. -/
def record (members : Entries Value) : Value := .object none members

/-- The member of a record, its own one before one of the standard prototype. -/
def recordMember (members : Entries Value) (name : String) : Value :=
  match members.get? name with
  | some value => value
  | none => if name ∈ standardMembers then .builtin name else .undefined

/-- The member of a value. -/
def member (name : String) : Value → Except Stop Value
  | .undefined | .null => .error .typeError
  | .object none members => .ok (recordMember members name)
  | .object (some _) members =>
    match Entries.get? members name with
    | some value => .ok value
    | none => .error .beyond
  | .bool _ | .number _ | .text _ | .array _ | .builtin _ => .error .beyond

/-- The items that a call of `map` goes through. No value but an array has such a method, except for one
that gets it from its prototype. -/
def mapItems : Value → Except Stop (List Value)
  | .array items => .ok items
  | .object (some _) _ | .builtin _ => .error .beyond
  -- No other member that a record has under this name is a function.
  | .object none members =>
    match Entries.get? members "map" with
    | some (.builtin _) => .error .beyond
    | _ => .error .typeError
  | .undefined | .null | .bool _ | .number _ | .text _ => .error .typeError

/-- The members that a spread of the value adds to an object. -/
def spreadMembers : Value → Except Stop (Entries Value)
  | .object _ members => .ok members
  | .array items => .ok (items.zipIdx.map fun (item, index) => (toString index, item))
  | .text _ => .error .beyond
  | .undefined | .null | .bool _ | .number _ | .builtin _ => .ok []

/-- The prototype that an object has after its prototype was set to a value. -/
def setPrototype (old : Option Value) : Value → Option Value
  | .undefined | .bool _ | .number _ | .text _ => old
  | value => some value

/-- Whether the value passes a test. -/
def isTruthy : Value → Bool
  | .undefined | .null | .bool false => false
  | .number n => n ≠ .integer 0 && n ≠ .float (.zero false) && n ≠ .float (.zero true)
  | .text s => s ≠ ""
  | .bool true | .array _ | .object .. | .builtin _ => true

/-- Whether the value is an array. -/
def isArray : Value → Bool
  | .array _ => true
  | _ => false

end Value

/-! ## Evaluation -/

mutual

/-- The value of an expression whose variables have the given values. -/
def Expression.eval : Expression → Entries Value → Except Stop Value
  | .variable name, scope =>
    match scope.get? name with
    | some value => .ok value
    | none => .error .unbound
  | .member target name, scope => do
    let found ← target.eval scope
    found.member name
  | .array items, scope => do
    let values ← evalItems items scope
    return .array values
  | .object parts, scope => evalParts parts none [] scope
  | .conditional test yes no, scope => do
    let found ← test.eval scope
    if found.isTruthy then yes.eval scope else no.eval scope
  | .mapped target parameter body, scope => do
    let found ← target.eval scope
    let items ← found.mapItems
    let values ← items.mapM fun item => body.eval (scope.put parameter item)
    return .array values

/-- The values of items, the first one first. -/
def evalItems : List Expression → Entries Value → Except Stop (List Value)
  | [], _ => .ok []
  | item :: rest, scope => do
    let value ← item.eval scope
    let values ← evalItems rest scope
    return value :: values

/-- The object that its parts make of a prototype and members. -/
def evalParts : List Part → Option Value → Entries Value → Entries Value → Except Stop Value
  | [], prototype, members, _ => .ok (.object prototype members)
  | .spread source :: rest, prototype, members, scope => do
    let found ← source.eval scope
    let added ← found.spreadMembers
    evalParts rest prototype (members.putAll added) scope
  | .named name value :: rest, prototype, members, scope => do
    let found ← value.eval scope
    -- A name like this, written out before a colon, sets the prototype and makes no member.
    if name = "__proto__" then evalParts rest (found.setPrototype prototype) members scope
    else evalParts rest prototype (members.put name found) scope

end

/-- The value of a text whose variables have the given values. -/
def evaluate (text : String) (scope : Entries Value) : Except Stop Value :=
  match read text with
  | some expression => expression.eval scope
  | none => .error .beyond

end ActionForge.Script
