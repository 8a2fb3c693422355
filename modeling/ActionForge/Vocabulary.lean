import ActionForge.Entries

/-!
# Vocabulary

The words that settings, schemas and generated actions share: what a form field holds, which root of a
schema an operation belongs to, and which kind of action is generated.
-/

namespace ActionForge

/-- What a field of a form holds. -/
inductive FieldType where
  | string
  | text
  | integer
  | number
  | boolean
  | datetime
  | file
  | password
  | copy
  | code
  deriving DecidableEq, Repr

/-- The root of a schema that an operation belongs to. -/
inductive OperationKind where
  | query
  | mutation
  deriving DecidableEq, Repr

/-- The kinds of actions: triggers and searches read records, creates make one. -/
inductive ActionKind where
  | trigger
  | search
  | create
  deriving DecidableEq, Repr

namespace FieldType

/-- The name of a field type. -/
def name : FieldType → String
  | .string => "string"
  | .text => "text"
  | .integer => "integer"
  | .number => "number"
  | .boolean => "boolean"
  | .datetime => "datetime"
  | .file => "file"
  | .password => "password"
  | .copy => "copy"
  | .code => "code"

/-- All field types, in the order in which messages list them. -/
def all : List FieldType :=
  [.string, .text, .integer, .number, .boolean, .datetime, .file, .password, .copy, .code]

/-- The field types under their names. -/
def named : Entries FieldType := all.map fun type => (type.name, type)

/-- Values of these types are sent as quoted text. -/
def isTextual : FieldType → Bool
  | .string | .text | .password | .code | .datetime | .file => true
  | .integer | .number | .boolean | .copy => false

end FieldType

namespace OperationKind

/-- The name of an operation kind. -/
def name : OperationKind → String
  | .query => "query"
  | .mutation => "mutation"

/-- The operation kinds under their names. -/
def named : Entries OperationKind := [.query, .mutation].map fun kind => (kind.name, kind)

end OperationKind

namespace ActionKind

/-- The name of an action kind. -/
def name : ActionKind → String
  | .trigger => "trigger"
  | .search => "search"
  | .create => "create"

/-- The action kinds under their names. -/
def named : Entries ActionKind := [.trigger, .search, .create].map fun kind => (kind.name, kind)

/-- The root that the operations of such actions belong to. -/
def operationKind : ActionKind → OperationKind
  | .trigger | .search => .query
  | .create => .mutation

/-- The object of the entry file that such actions are registered in, and the directory of their
modules. -/
def sectionName : ActionKind → String
  | .trigger => "triggers"
  | .search => "searches"
  | .create => "creates"

/-- Whether such actions must give a list of records. -/
def returnsList : ActionKind → Bool
  | .trigger | .search => true
  | .create => false

end ActionKind

end ActionForge
