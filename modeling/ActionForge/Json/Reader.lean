import ActionForge.Json.Draft
import ActionForge.Json.Printer
import ActionForge.Text.Shown

/-!
# Reading JSON

Readers ask a draft for what they expect and fail with a `Fault`: the text breaks off, it is no JSON, or a
value is not of the kind that is wanted. A reader goes through the draft in the order of the text, so the
first fault is the one reported. In a free map a repeated name counts once, with its last value in its
first place; in a record it is a fault.
-/

namespace ActionForge.Json

/-! ## Faults -/

/-- What was found where something else was wanted. -/
inductive Found where
  | null
  | bool (b : Bool)
  | number (n : Number)
  | text (s : String)
  | sequence
  | map
  deriving DecidableEq, Repr

/-- Names what was found. -/
def Found.describe : Found → String
  | .null => "null"
  | .bool true => "boolean `true`"
  | .bool false => "boolean `false`"
  | .number (.integer n) => "integer `" ++ String.ofList (integerChars n) ++ "`"
  | .number (.float x) => "floating point `" ++ String.ofList x.text ++ "`"
  | .text s => "string " ++ Text.shown s
  | .sequence => "sequence"
  | .map => "map"

/-- Why a JSON text or value cannot be read. -/
inductive Fault where
  | broken (how : Break)
  | invalidType (found : Found) (expected : String)
  | invalidValue (found : Found) (expected : String)
  | invalidLength (length : Nat) (expected : String)
  | unknownVariant (name : String) (expected : List String)
  | missingMember (name : String)
  | repeatedMember (name : String)
  deriving DecidableEq, Repr

/-- A name between backquotes. -/
def ticked (name : String) : String := "`" ++ name ++ "`"

/-- The wording of a fault. -/
def Fault.message : Fault → String
  | .broken .truncated => "unexpected end of text"
  | .broken .malformed => "not JSON"
  | .invalidType found expected => "invalid type: " ++ found.describe ++ ", expected " ++ expected
  | .invalidValue found expected => "invalid value: " ++ found.describe ++ ", expected " ++ expected
  | .invalidLength length expected =>
    "invalid length " ++ toString length ++ ", expected " ++ expected
  | .unknownVariant name expected =>
    "unknown variant " ++ ticked name ++ ", expected one of " ++
      String.intercalate ", " (expected.map ticked)
  | .missingMember name => "missing field " ++ ticked name
  | .repeatedMember name => "duplicate field " ++ ticked name

/-- The result of a reader. -/
abbrev Read (α : Type) := Except Fault α

/-- How the members of a record are called in messages: a record of the given name, with so many members. -/
def recordOf (title : String) : String := "struct " ++ title

/-- The expectation that an array spells out every member of a record. -/
def recordOfLength (title : String) (count : Nat) : String :=
  recordOf title ++ " with " ++ toString count ++ (if count = 1 then " element" else " elements")

/-! ## Readers of drafts -/

/-- What a reader of every item or member learns at the end of the container. -/
def Ending.read : Ending → Read Unit
  | .closed => .ok ()
  | .cut _ => .error (.broken .truncated)
  | .unexpected => .error (.broken .malformed)
  | .unnamed (.brokenText read _) => .error (.broken read)
  | .unnamed _ => .error (.broken .malformed)

/-- What a reader that wants nothing more learns where the container goes on or ends: a comma is out of
place even where the text ends after it. -/
def Ending.readFull : Ending → Read Unit
  | .cut true | .unnamed _ => .error (.broken .malformed)
  | ending => ending.read

/-- What a reader that passes over the container learns at its end. -/
def Ending.skip : Ending → Read Unit
  | .unnamed (.brokenText _ skip) => .error (.broken skip)
  | ending => ending.read

namespace Draft

mutual

/-- Passes over a value. -/
def skip : Draft → Read Unit
  | .array items ending => do skipItems items; ending.skip
  | .object members ending => do skipMembers members; ending.skip
  | .broken _ how => .error (.broken how)
  | _ => .ok ()

/-- Passes over items. -/
def skipItems : List Draft → Read Unit
  | [] => .ok ()
  | item :: rest => do item.skip; skipItems rest

/-- Passes over members. -/
def skipMembers : List (Option String × Draft) → Read Unit
  | [] => .ok ()
  | (_, value) :: rest => do value.skip; skipMembers rest

end

/-- What the draft holds, for a message. Scalars are read to their end before they are named. -/
def found : Draft → Read Found
  | .null => .ok .null
  | .bool b => .ok (.bool b)
  | .number (some n) => .ok (.number n)
  | .text (some s) => .ok (.text s)
  | .number none | .text none => .error (.broken .malformed)
  | .array _ _ => .ok .sequence
  | .object _ _ => .ok .map
  | .broken how _ => .error (.broken how)

/-- Fails because the draft is not what is expected. -/
def mismatch {α : Type} (d : Draft) (expected : String) : Read α := do
  .error (.invalidType (← d.found) expected)

/-- Reads a text. -/
def readText : Draft → Read String
  | .text (some s) => .ok s
  | d => d.mismatch "a string"

/-- Reads a Boolean. -/
def readBool : Draft → Read Bool
  | .bool b => .ok b
  | d => d.mismatch "a boolean"

mutual

/-- Reads any value in which containers nest at most `room` deep. -/
def readValue (room : Nat) : Draft → Read Json
  | .null => .ok .null
  | .bool b => .ok (.bool b)
  | .number (some n) => .ok (.number n)
  | .text (some s) => .ok (.text s)
  | .number none | .text none => .error (.broken .malformed)
  | .array items ending =>
    match room with
    | 0 => .error (.broken .malformed)
    | room + 1 => do
      let items ← readItems room items
      ending.read
      .ok (.array items)
  | .object members ending =>
    match room with
    | 0 => .error (.broken .malformed)
    | room + 1 => do
      let members ← readMembers room members
      ending.read
      .ok (.object (Entries.ofList members))
  | .broken how _ => .error (.broken how)

/-- Reads items one after the other. -/
def readItems (room : Nat) : List Draft → Read (List Json)
  | [] => .ok []
  | item :: rest => do
    let item ← item.readValue room
    let rest ← readItems room rest
    .ok (item :: rest)

/-- Reads members one after the other, repetitions included. -/
def readMembers (room : Nat) : List (Option String × Draft) → Read (List (String × Json))
  | [] => .ok []
  | (none, _) :: _ => .error (.broken .malformed)
  | (some name, value) :: rest => do
    let value ← value.readValue room
    let rest ← readMembers room rest
    .ok ((name, value) :: rest)

end

/-- Reads the members of a free map. -/
def readPairs {β : Type} (value : Draft → Read β) :
    List (Option String × Draft) → Read (List (String × β))
  | [] => .ok []
  | (none, _) :: _ => .error (.broken .malformed)
  | (some name, d) :: rest => do
    let first ← value d
    let rest ← readPairs value rest
    .ok ((name, first) :: rest)

/-- Reads a free map whose values all have one kind. -/
def readMap {β : Type} (value : Draft → Read β) : Draft → Read (Entries β)
  | .object members ending => do
    let pairs ← readPairs value members
    ending.read
    .ok (Entries.ofList pairs)
  | d => d.mismatch "a map"

/-- Reads what stands for the content of a variant without content. -/
def readUnit : Draft → Read Unit
  | .null => .ok ()
  | d => d.mismatch "unit"

/-- The fault of a token that stands in place of the name of a variant. -/
def variantNameFault : Token → Fault
  | .null => .invalidType .null "variant identifier"
  | .bool b => .invalidType (.bool b) "variant identifier"
  | .number (some n) => .invalidType (.number n) "variant identifier"
  | .opening .square => .invalidType .sequence "variant identifier"
  | .opening .curly => .invalidType .map "variant identifier"
  | .broken how _ | .brokenText how _ => .broken how
  | _ => .broken .malformed

/-- The variant of a name, among the named ones. -/
def chooseVariant {α : Type} (variants : Entries α) (name : String) : Read α :=
  match variants.get? name with
  | some variant => .ok variant
  | none => .error (.unknownVariant name variants.keys)

/-- Reads one of the named variants, written as its name or as an object with that name and null. -/
def readVariant {α : Type} (variants : Entries α) : Draft → Read α
  | .text (some name) => chooseVariant variants name
  | .object [] (.cut _) => .error (.broken .truncated)
  | .object [] (.unnamed token) => .error (variantNameFault token)
  | .object [] _ => .error (.broken .malformed)
  | .object ((none, _) :: _) _ => .error (.broken .malformed)
  | .object ((some name, content) :: rest) ending => do
    let variant ← chooseVariant variants name
    content.readUnit
    if rest.isEmpty then ending.readFull else .error (.broken .malformed)
    .ok variant
  | .broken how _ => .error (.broken how)
  | _ => .error (.broken .malformed)

/-- Reads the members of a record. `step` reads one known member; unknown ones are passed over. -/
def readNamed {σ : Type} (names : List String) (step : σ → String → Draft → Read σ) :
    List String → σ → List (Option String × Draft) → Read σ
  | _, s, [] => .ok s
  | _, _, (none, _) :: _ => .error (.broken .malformed)
  | seen, s, (some name, d) :: rest =>
    if names.contains name then
      if seen.contains name then .error (.repeatedMember name)
      else do
        let s ← step s name d
        readNamed names step (name :: seen) s rest
    else do
      d.skip
      readNamed names step seen s rest

/-- Reads the members of a record from an array, in the order of their names. -/
def readListed {σ : Type} (step : σ → String → Draft → Read σ) (ending : Ending) :
    List String → σ → List Draft → Read σ
  | _ :: _, s, [] => do ending.read; .ok s
  | [], s, [] => do ending.readFull; .ok s
  | [], _, _ :: _ => .error (.broken .malformed)
  | name :: names, s, d :: rest => do
    let s ← step s name d
    readListed step ending names s rest

/-- Reads a record whose members all have defaults, which `start` holds. -/
def readRecord {σ : Type} (title : String) (names : List String)
    (step : σ → String → Draft → Read σ) (start : σ) : Draft → Read σ
  | .object members ending => do
    let s ← readNamed names step [] start members
    ending.read
    .ok s
  | .array items ending => readListed step ending names start items
  | d => d.mismatch (recordOf title)

/-- Reads a whole text: one value with nothing but blanks after it. -/
def readWhole {α : Type} (read : Draft → Read α) (text : String) : Read α := do
  let value ← read (ofText text).1
  if (ofText text).2.isEmpty then .ok value else .error (.broken .malformed)

end Draft

/-- How deep containers may nest in a text. -/
def nestingLimit : Nat := 127

/-- Reads a text as a JSON value. -/
def ofText (text : String) : Read Json := Draft.readWhole (Draft.readValue nestingLimit) text

/-! ## Readers of values -/

/-- What the value is, for a message. -/
def found : Json → Found
  | .null => .null
  | .bool b => .bool b
  | .number n => .number n
  | .text s => .text s
  | .array _ => .sequence
  | .object _ => .map

/-- Fails because the value is not what is expected. -/
def mismatch {α : Type} (value : Json) (expected : String) : Read α :=
  .error (.invalidType value.found expected)

/-- Reads a text. -/
def readText : Json → Read String
  | .text s => .ok s
  | value => value.mismatch "a string"

/-- Reads the items of an array one after the other. -/
def readList {α : Type} (item : Json → Read α) : Json → Read (List α)
  | .array items => items.mapM item
  | value => value.mismatch "a sequence"

/-- Reads a value that may be null. -/
def readOption {α : Type} (read : Json → Read α) : Json → Read (Option α)
  | .null => .ok none
  | value => some <$> read value

/-- Reads one of the named variants, written as its name or as an object with that name and null. -/
def readVariant {α : Type} (variants : Entries α) : Json → Read α
  | .text name => Draft.chooseVariant variants name
  | .object [(name, content)] => do
    let variant ← Draft.chooseVariant variants name
    match content with
    | .null => .ok variant
    | other => other.mismatch "unit"
  | .object _ => .error (.invalidValue .map "map with a single key")
  | value => value.mismatch "string or map"

/-- The names of a record's members and whether each may be left out of an array. -/
abbrev Fields := List (String × Bool)

/-- Reads the known members of an object. -/
def readNamed {σ : Type} (names : List String) (step : σ → String → Json → Read σ) :
    σ → List (String × Json) → Read σ
  | s, [] => .ok s
  | s, (name, value) :: rest => do
    let s ← if names.contains name then step s name value else .ok s
    readNamed names step s rest

/-- Reads the members of a record from an array. `length` counts the members before the names that are
left; a member without a value is a fault unless it may be left out. -/
def readListed {σ : Type} (expected : String) (total : Nat) (step : σ → String → Json → Read σ) :
    Nat → Fields → σ → List Json → Read σ
  | _, [], s, [] => .ok s
  | _, [], _, _ :: _ => .error (.invalidLength total "fewer elements in array")
  | length, (_, optional) :: fields, s, [] =>
    if optional then readListed expected total step (length + 1) fields s []
    else .error (.invalidLength length expected)
  | length, (name, _) :: fields, s, value :: rest => do
    let s ← step s name value
    readListed expected total step (length + 1) fields s rest

/-- Reads a record, from an object or from an array of its members. -/
def readRecord {σ : Type} (title : String) (fields : Fields) (step : σ → String → Json → Read σ)
    (start : σ) : Json → Read σ
  | .object members => readNamed (fields.map Prod.fst) step start members
  | .array items =>
    readListed (recordOfLength title fields.length) items.length step 0 fields start items
  | value => value.mismatch (recordOf title)

/-- A member that must be there. -/
def require {α : Type} (name : String) : Option α → Read α
  | some value => .ok value
  | none => .error (.missingMember name)

end ActionForge.Json
