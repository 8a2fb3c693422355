import ActionForge.Action
import ActionForge.Json.Printer

/-!
# Scripts of an action

The JavaScript text of an action's module and of its test. JSON values stand in the scripts as they are
printed, their lines moved in to where they stand.
-/

namespace ActionForge

/-- The variable that a module is bound to: `users` as a trigger gives `usersTrigger`. -/
def moduleIdent (kind : ActionKind) (key : String) : String :=
  Text.lowerCamelCase (key ++ "_" ++ kind.name)

/-! ## Results -/

/-- Copies a field into the identifier of a record, or of every record of a list. -/
def idMapping (result source : String) (isList : Bool) : String :=
  if isList then
    result ++ ".map((item) => (\x7b ...item, id: item." ++ source ++ " \x7d))"
  else "\x7b ..." ++ result ++ ", id: " ++ result ++ "." ++ source ++ " \x7d"

namespace Action

/-- The result with identifiers copied into it, if there is a field to copy. -/
def mappedResult (action : Action) (result : String) (isList : Bool) : String :=
  match action.idSource with
  | some source => idMapping result source isList
  | none => result

/-- What the action returns for a result held in a variable. Triggers and searches return a list in any
case; scalars are put into a record. -/
def resultExpression (action : Action) (result : String) : String :=
  match action.kind.returnsList, action.shape with
  | _, .list => action.mappedResult result true
  | true, .object => result ++ " ? [" ++ action.mappedResult result false ++ "] : []"
  | true, .scalar => "[\x7b " ++ action.key ++ ": " ++ result ++ " \x7d]"
  | false, .object => action.mappedResult result false
  | false, .scalar => "\x7b " ++ action.key ++ ": " ++ result ++ " \x7d"

/-! ## Modules -/

/-- How far JSON values in a script are moved in. -/
def scriptIndent : Nat := 4

/-- The module of an action. -/
def moduleText (action : Action) (settings : Settings) (time : String) : String :=
  let headers := (Settings.textsToJson settings.request.headers).embedded scriptIndent
  let inputs := (Json.array (inputsToJson action.inputs)).embedded scriptIndent
  let outputs := (Json.array (action.outputs.map OutputField.toJson)).embedded scriptIndent
  let sample := (SampleData.toJson time action.outputSample).embedded scriptIndent
  String.join
    ["const perform = async (z, bundle) => \x7b\n",
      "  const response = await z.request(\x7b\n",
      "    url: process.env.", settings.request.urlVariable, ",\n",
      "    method: 'POST',\n",
      "    headers: ", headers, ",\n",
      "    body: \x7b\n",
      "      query: `", action.document, "`,\n",
      "    \x7d,\n",
      "  \x7d);\n",
      "\n",
      "  if (response.data.errors && response.data.errors.length) \x7b\n",
      "    const message = response.data.errors.map((e) => e.message).join('; ');\n",
      "    throw new z.errors.Error(message, 'GraphQLError', response.status);\n",
      "  \x7d\n",
      "\n",
      "  const result = response.data.data.", action.key, ";\n",
      "  return ", action.resultExpression "result", ";\n",
      "\x7d;\n",
      "\n",
      "module.exports = \x7b\n",
      "  key: ", quoted action.key, ",\n",
      "  noun: ", quoted action.noun, ",\n",
      "  display: \x7b\n",
      "    label: ", quoted action.label, ",\n",
      "    description: ", quoted action.description, ",\n",
      "  \x7d,\n",
      "  operation: \x7b\n",
      "    perform,\n",
      "    inputFields: ", inputs, ",\n",
      "    outputFields: ", outputs, ",\n",
      "    sample: ", sample, ",\n",
      "  \x7d,\n",
      "\x7d;\n"]

/-! ## Tests -/

/-- The configured test bundle with the input sample in its `inputData`. What is configured there stands
before the sample. -/
def testBundle (action : Action) (settings : Settings) (time : String) : Json :=
  let sample := sampleMembers time action.inputSample
  let inputs := match settings.testBundle.member? "inputData" with
    | some (.object configured) => Entries.putAll sample configured
    | _ => sample
  let bundle := match settings.testBundle with
    | .object members => members
    | _ => []
  .object (Entries.put bundle "inputData" (.object inputs))

/-- What the test expects of the results. -/
def expectation (kind : ActionKind) : String :=
  if kind.returnsList then "expect(Array.isArray(results)).toBe(true);"
  else "expect(results).toBeDefined();"

/-- The test of an action. -/
def testText (action : Action) (settings : Settings) (time : String) : String :=
  let group := action.kind.sectionName
  let bundle := (action.testBundle settings time).embedded scriptIndent
  String.join
    ["const zapier = require('zapier-platform-core');\n",
      "\n",
      "const App = require('../../index');\n",
      "\n",
      "const appTester = zapier.createAppTester(App);\n",
      "zapier.tools.env.inject();\n",
      "\n",
      "describe('", group, ".", action.key, "', () => \x7b\n",
      "  it('should run ", group, ".", action.key, "', async () => \x7b\n",
      "    const bundle = ", bundle, ";\n",
      "\n",
      "    const results = await appTester(App.", group, "[", quoted action.key,
      "].operation.perform, bundle);\n",
      "    ", expectation action.kind, "\n",
      "  \x7d);\n",
      "\x7d);\n"]

end Action

/-- The module and test of an action, ready to be written. -/
structure Scripts where
  kind : ActionKind
  key : String
  module : String
  test : String
  deriving DecidableEq, Repr

/-- The scripts of an action at the given time. -/
def Action.scripts (action : Action) (settings : Settings) (time : String) : Scripts :=
  { kind := action.kind
    key := action.key
    module := action.moduleText settings time
    test := action.testText settings time }

end ActionForge
