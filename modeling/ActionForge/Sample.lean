import ActionForge.ActionError
import ActionForge.Form.Basic
import ActionForge.Settings
import ActionForge.Text.Case

/-!
# Sample data

Every field of a form and of its records gets a sample value: the first choice of an enum, else the value
of a rule in the settings that applies to its key, else a value that its type suggests. Rules compare keys
without regard to case; rules for whole keys come first, then those for beginnings, then those for ends.
-/

namespace ActionForge

/-- A sample value. `now` stands for the time at which it is written. -/
inductive SampleValue where
  | text (s : String)
  | integer (n : Int)
  | number (x : Binary64)
  | bool (b : Bool)
  | given (value : Json)
  | now
  | record (members : List (String × SampleValue))
  deriving Repr

/-- Sample values by field key. -/
abbrev SampleData := Entries SampleValue

mutual

/-- The value as JSON, with `time` where the time belongs. -/
def SampleValue.toJson (time : String) : SampleValue → Json
  | .text s => .text s
  | .integer n => .integer n
  | .number x => .number (.float x)
  | .bool b => .bool b
  | .given value => value
  | .now => .text time
  | .record members => .object (sampleMembers time members)

/-- The members as JSON. -/
def sampleMembers (time : String) : List (String × SampleValue) → List (String × Json)
  | [] => []
  | (key, value) :: rest => (key, value.toJson time) :: sampleMembers time rest

end

/-- Sample data as JSON. -/
def SampleData.toJson (time : String) (data : SampleData) : Json := .object (sampleMembers time data)

/-- The first rule that applies to a key in small letters. -/
def SampleRules.find? (rules : SampleRules) (key : List Char) : Option Json :=
  let firstOf (entries : Entries Json) (applies : List Char → Bool) : Option Json :=
    (entries.find? fun entry => applies (Text.lowercase entry.1).toList).map Prod.snd
  (firstOf rules.exact fun pattern => pattern == key).or
    ((firstOf rules.startingWith fun pattern => pattern.isPrefixOf key).or
      (firstOf rules.endingWith fun pattern => pattern.isSuffixOf key))

/-- The value that the type of a field suggests. -/
def typeSample (key : String) (type : FieldType) : Except ActionError SampleValue :=
  match type with
  | .string | .text | .password | .code => .ok (.text (if key == idKey then "1" else "Something"))
  | .number => .ok (.number ⟨false, Nat.pow 2 52, -52⟩)
  | .integer => .ok (.integer 1)
  | .boolean => .ok (.bool true)
  | .datetime => .ok .now
  | .file | .copy => .error (.noSample key type)

/-- The sample value of one field. -/
def sampleValue (rules : SampleRules) (key : String) (type : FieldType) (choices : List String) :
    Except ActionError SampleValue :=
  match choices with
  | choice :: _ => .ok (.text choice)
  | [] =>
    match rules.find? (Text.lowercase key).toList with
    | some value => .ok (.given value)
    | none => typeSample key type

mutual

/-- The sample values of the fields, one after the other. Fields with neither children nor a type have
none. -/
def samplePairs (rules : SampleRules) :
    List InputField → Except ActionError (List (String × SampleValue))
  | [] => .ok []
  | field :: rest => do
    let value ← fieldSample rules field
    let rest ← samplePairs rules rest
    return match value with
      | some value => (field.key, value) :: rest
      | none => rest

/-- The sample value of a field, if it has one. -/
def fieldSample (rules : SampleRules) : InputField → Except ActionError (Option SampleValue)
  | ⟨spec, []⟩ =>
    match spec.type with
    | some type => some <$> sampleValue rules spec.key type spec.choices
    | none => .ok none
  | ⟨_, child :: rest⟩ => do
    let value ← fieldSample rules child
    let others ← samplePairs rules rest
    let pairs := match value with
      | some value => (child.key, value) :: others
      | none => others
    return some (.record (Entries.ofList pairs))

end

/-- Sample data for a form. -/
def sampleInputs (rules : SampleRules) (fields : List InputField) : Except ActionError SampleData := do
  return Entries.ofList (← samplePairs rules fields)

/-- The sample value of an output field under its key. -/
def outputSample (rules : SampleRules) (field : OutputField) :
    Except ActionError (String × SampleValue) := do
  return (field.key, ← sampleValue rules field.key field.type [])

/-- Sample data for records. -/
def sampleOutputs (rules : SampleRules) (fields : List OutputField) :
    Except ActionError SampleData := do
  return Entries.ofList (← fields.mapM (outputSample rules))

end ActionForge
