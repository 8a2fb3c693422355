import ActionForge.Text.Pieces

/-!
# Paths

Paths are texts with slashes between their parts. `join` appends one path to another, `parent?` takes
the last part off, and neither simplifies anything.
-/

namespace ActionForge.Path

/-- Whether a path starts at the root. -/
def isAbsolute (path : String) : Bool := path.toList.head? == some '/'

/-- A path below another. An absolute path stands for itself, and nothing is put before a first part. -/
def join (base path : String) : String :=
  if isAbsolute path || base.isEmpty then path
  else if base.toList.getLast? = some '/' then base ++ path
  else base ++ "/" ++ path

/-- The parts of a path; what is empty between two slashes is none. -/
def parts (path : String) : List (List Char) := Text.filledPieces (· = '/') path.toList

/-- Takes slashes, and parts that are a lone point, off the end of a reversed path. A point that starts the
path stays. -/
def trimReversed : List Char → List Char
  | '/' :: rest => if rest.isEmpty then ['/'] else trimReversed rest
  | '.' :: '/' :: rest => if rest.isEmpty then ['/'] else trimReversed rest
  | path => path

/-- The path without its last part; `none` for the root and the empty path. -/
def parent? (path : String) : Option String :=
  match trimReversed path.toList.reverse with
  | [] | ['/'] => none
  | trimmed => some (String.ofList (trimReversed (trimmed.dropWhile (· != '/'))).reverse)

/-- The last part of a path, if it is the name of something. -/
def fileName? (path : String) : Option (List Char) :=
  match ((parts path).filter (· != ['.'])).getLast? with
  | some ['.', '.'] | none => none
  | some name => some name

/-- What follows the last point of the file name. A point at its start begins no extension. -/
def extension? (path : String) : Option (List Char) := do
  let name ← fileName? path
  let after := name.reverse.takeWhile (· != '.')
  if name.length ≤ after.length + 1 then none else some after.reverse

/-- Whether the extension is `json`, in letters of either case. -/
def hasJsonExtension (path : String) : Bool :=
  (extension? path).map (·.map Char.toLower) == some ['j', 's', 'o', 'n']

end ActionForge.Path
