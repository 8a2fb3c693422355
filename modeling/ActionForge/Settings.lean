import ActionForge.Json.Reader
import ActionForge.Text.Blank
import ActionForge.Vocabulary

/-!
# Settings

Settings say where the service is found, which field type each scalar type stands for, which field of a
type serves as its identifier, and which sample values to use. They are read from a JSON text, where
every part may be left out, checked once, and written back as JSON.
-/

namespace ActionForge

/-- How the service is asked: the environment variable that holds its address, and the headers to send. -/
structure Request where
  urlVariable : String
  headers : Entries String
  deriving Repr

/-- Sample values by field key: for a whole key, for the start of a key and for its end. Of several rules
that apply, the first counts. -/
structure SampleRules where
  exact : Entries Json
  startingWith : Entries Json
  endingWith : Entries Json
  deriving Repr

/-- The settings of a project. -/
structure Settings where
  request : Request
  scalarTypes : Entries FieldType
  idSources : Entries String
  sortFields : Bool
  samples : SampleRules
  testBundle : Json
  deriving Repr

namespace Settings

/-! ## Defaults -/

/-- The request of a project that says nothing about it. -/
def defaultRequest : Request :=
  { urlVariable := "API_URL"
    headers := [("Content-Type", "application/json"), ("Accept", "application/json")] }

/-- No sample rules. -/
def noSamples : SampleRules := ⟨[], [], []⟩

/-- The settings of a project that says nothing. -/
def default : Settings :=
  { request := defaultRequest
    scalarTypes :=
      [("String", .string), ("ID", .string), ("Int", .integer), ("Float", .number),
        ("Boolean", .boolean), ("Date", .datetime), ("DateTime", .datetime)]
    idSources := []
    sortFields := true
    samples := noSamples
    testBundle := .object [("authData", .object []), ("inputData", .object [])] }

/-! ## Checking -/

/-- Why settings are refused. -/
inductive Defect where
  | urlVariable (name : String)
  | emptyIdSource (type : String)
  | structuredSample (pattern : String)
  | testBundle
  deriving DecidableEq, Repr

/-- The wording of a defect. -/
def Defect.message : Defect → String
  | .urlVariable name =>
    "invalid config: request.urlEnvVar `" ++ name ++ "` is not a valid environment variable name"
  | .emptyIdSource type =>
    "invalid config: idMap entry for `" ++ type ++ "` has an empty field name"
  | .structuredSample pattern =>
    "invalid config: sample value for `" ++ pattern ++ "` must be a string, number or boolean"
  | .testBundle => "invalid config: testBundle must be a JSON object"

/-- Whether characters are a name of letters, digits and underscores that starts with no digit. -/
def isVariableName : List Char → Bool
  | [] => false
  | first :: rest =>
    (first.isAlpha || first = '_') && rest.all fun c => c.isAlphanum || c = '_'

/-- The first type whose identifier source is blank. -/
def blankIdSource? (settings : Settings) : Option String :=
  (settings.idSources.find? fun entry => entry.2.toList.all Text.isBlank).map Prod.fst

/-- The first sample rule whose value is no scalar. -/
def structuredSample? (settings : Settings) : Option String :=
  let samples := settings.samples
  ((samples.exact ++ samples.startingWith ++ samples.endingWith).find? fun entry =>
    !entry.2.isScalar).map Prod.fst

/-- The first defect of the settings. -/
def defect? (settings : Settings) : Option Defect :=
  if !isVariableName settings.request.urlVariable.toList then
    some (.urlVariable settings.request.urlVariable)
  else
    match settings.blankIdSource?, settings.structuredSample? with
    | some type, _ => some (.emptyIdSource type)
    | none, some pattern => some (.structuredSample pattern)
    | none, none => if settings.testBundle.isObject then none else some .testBundle

/-! ## Reading -/

open Json (Draft Read)
open Json.Draft (readRecord readText readBool readMap readVariant readValue)

/-- Containers that may nest in the value of a sample rule, which stands inside three of them. -/
def sampleRoom : Nat := Json.nestingLimit - 3

/-- Containers that may nest in the test bundle, which stands inside one. -/
def bundleRoom : Nat := Json.nestingLimit - 1

/-- Reads one member of a request. -/
def readRequestMember (request : Request) (name : String) (value : Draft) : Read Request :=
  match name with
  | "urlEnvVar" => do return { request with urlVariable := ← readText value }
  | _ => do return { request with headers := ← readMap readText value }

/-- Reads a request. -/
def readRequest : Draft → Read Request :=
  readRecord "RequestConfig" ["urlEnvVar", "headers"] readRequestMember defaultRequest

/-- Reads one member of sample rules. -/
def readSamplesMember (samples : SampleRules) (name : String) (value : Draft) : Read SampleRules :=
  match name with
  | "exact" => do return { samples with exact := ← readMap (readValue sampleRoom) value }
  | "startingWith" => do return { samples with startingWith := ← readMap (readValue sampleRoom) value }
  | _ => do return { samples with endingWith := ← readMap (readValue sampleRoom) value }

/-- Reads sample rules. -/
def readSamples : Draft → Read SampleRules :=
  readRecord "SampleFieldValues" ["exact", "startingWith", "endingWith"] readSamplesMember noSamples

/-- Reads one member of settings. -/
def readMember (settings : Settings) (name : String) (value : Draft) : Read Settings :=
  match name with
  | "request" => do return { settings with request := ← readRequest value }
  | "scalarMap" => do
    return { settings with scalarTypes := ← readMap (readVariant FieldType.named) value }
  | "idMap" => do return { settings with idSources := ← readMap readText value }
  | "sortFields" => do return { settings with sortFields := ← readBool value }
  | "sampleFieldValues" => do return { settings with samples := ← readSamples value }
  | _ => do return { settings with testBundle := ← readValue bundleRoom value }

/-- The names of the members of settings. -/
def memberNames : List String :=
  ["request", "scalarMap", "idMap", "sortFields", "sampleFieldValues", "testBundle"]

/-- Reads settings. -/
def read : Draft → Read Settings := readRecord "Config" memberNames readMember default

/-- Why a text gives no settings. -/
inductive Fault where
  | unreadable (fault : Json.Fault)
  | refused (defect : Defect)
  deriving DecidableEq, Repr

/-- The settings that a text holds. -/
def ofText (text : String) : Except Fault Settings := do
  let settings ← (Json.Draft.readWhole read text).mapError .unreadable
  match settings.defect? with
  | some defect => .error (.refused defect)
  | none => .ok settings

/-! ## Writing -/

/-- Named texts as an object. -/
def textsToJson (entries : Entries String) : Json :=
  .object (entries.map fun entry => (entry.1, .text entry.2))

/-- The settings as an object with all its members. -/
def toJson (settings : Settings) : Json :=
  .object
    [("request", .object
        [("urlEnvVar", .text settings.request.urlVariable),
          ("headers", textsToJson settings.request.headers)]),
      ("scalarMap", .object (settings.scalarTypes.map fun entry => (entry.1, .text entry.2.name))),
      ("idMap", textsToJson settings.idSources),
      ("sortFields", .bool settings.sortFields),
      ("sampleFieldValues", .object
        [("exact", .object settings.samples.exact),
          ("startingWith", .object settings.samples.startingWith),
          ("endingWith", .object settings.samples.endingWith)]),
      ("testBundle", settings.testBundle)]

end Settings

end ActionForge
