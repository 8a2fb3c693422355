import ActionForge.Vocabulary

/-!
# Why no action can be generated

Each `ActionError` names the field or type that is at fault.
-/

namespace ActionForge

/-- Why an operation gives no action. -/
inductive ActionError where
  /-- A scalar type stands for no field type. -/
  | unmappedScalar (type field : String)
  /-- A type is not part of the schema. -/
  | unresolvedType (type field : String)
  /-- The text names no operation kind. -/
  | invalidKind (text : String)
  /-- No sample value can be made up for a field of this type. -/
  | noSample (key : String) (type : FieldType)
  /-- A search has nothing to search by. -/
  | noArguments (operation : String)
  /-- The root has no field of this name. -/
  | unknownOperation (kind : OperationKind) (operation : String)
  /-- The field that is to serve as the identifier is no scalar field of its type. -/
  | unknownIdSource (type field : String)
  deriving DecidableEq, Repr

/-- The wording of an error. -/
def ActionError.message : ActionError → String
  | .unmappedScalar type field =>
    "scalar type `" ++ type ++ "` used by `" ++ field ++ "` has no entry in scalarMap"
  | .unresolvedType type field => "could not resolve type `" ++ type ++ "` used by `" ++ field ++ "`"
  | .invalidKind text =>
    "invalid operation kind `" ++ text ++ "` (expected `query` or `mutation`)"
  | .noSample key type => "no sample value rule for `" ++ key ++ "` of type `" ++ type.name ++ "`"
  | .noArguments operation => "search `" ++ operation ++ "` declares no arguments"
  | .unknownOperation kind operation =>
    kind.name ++ " `" ++ operation ++ "` not found in schema"
  | .unknownIdSource type field =>
    "idMap maps `" ++ type ++ "` to `" ++ field ++ "`, which is not a scalar field of that type"

/-- The operation kind that a text names. -/
def OperationKind.ofText (text : String) : Except ActionError OperationKind :=
  match named.get? text with
  | some kind => .ok kind
  | none => .error (.invalidKind text)

end ActionForge
