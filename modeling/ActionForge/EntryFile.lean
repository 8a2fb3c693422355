import ActionForge.Script
import ActionForge.Text.Blank

/-!
# The entry file

The entry file of a project requires the module of each action and lists it in the object of its section.
`register` adds the two lines for an action. It works on lines and adds nothing that is there already.
-/

namespace ActionForge.EntryFile

/-- A line without its end. -/
abbrev Line := List Char

/-- Whether `part` occurs in a line. -/
def occursIn (part : List Char) : Line → Bool
  | [] => part.isEmpty
  | c :: rest => part.isPrefixOf (c :: rest) || occursIn part rest

/-- The line that requires the module of an action. -/
def requireLine (kind : ActionKind) (key : String) : String :=
  "const " ++ moduleIdent kind key ++ " = require('./" ++ kind.sectionName ++ "/" ++ key ++ "');"

/-- The line that lists an action in its section. -/
def entryLine (kind : ActionKind) (key : String) : String :=
  "[" ++ moduleIdent kind key ++ ".key]: " ++ moduleIdent kind key ++ ","

/-- Whether a line holds the text and nothing but blanks around it. -/
def isLine (text : List Char) (line : Line) : Bool := Text.trim line == text

/-- The lines with a new one at a place. -/
def insertAt (place : Nat) (line : Line) (lines : List Line) : List Line :=
  lines.take place ++ line :: lines.drop place

/-! ## Requiring the module -/

/-- The place after the last line with a `require` call before the exports; the top when there is none. -/
def requirePlace (lines : List Line) : Nat :=
  let head := lines.takeWhile fun line => !occursIn "module.exports".toList line
  head.length - (head.reverse.takeWhile fun line => !occursIn "require(".toList line).length

/-- Adds the line that requires the module, unless it is there. -/
def addRequire (text : List Char) (lines : List Line) : List Line :=
  if lines.any (isLine text) then lines else insertAt (requirePlace lines) text lines

/-! ## Listing the action -/

/-- What follows a section's name at the start of a line, the name bare or in quotes. -/
def afterName? (name : List Char) (line : List Char) : Option (List Char) :=
  let quotedName (quote : Char) : List Char := quote :: (name ++ [quote])
  (dropStart? name line).or ((dropStart? (quotedName '"') line).or (dropStart? (quotedName '\'') line))

/-- Whether a line opens the object of a section. -/
def isHeader (name : List Char) (line : Line) : Bool :=
  match afterName? name (Text.trimStart line) with
  | some rest =>
    let rest := Text.trimStart rest
    rest.head? == some ':' && rest.contains '\x7b'
  | none => false

/-- What stands before and after the last pair of empty braces. -/
def splitEmptyBraces? : List Char → Option (List Char × List Char)
  | [] => none
  | c :: rest =>
    match splitEmptyBraces? rest with
    | some (before, after) => some (c :: before, after)
    | none => (dropStart? ['\x7b', '\x7d'] (c :: rest)).map fun after => ([], after)

/-- The lines that take the place of a section's header, the action listed first in the section. Empty
braces at the end of the header are opened. -/
def headerWith (entry : List Char) (header : Line) : List Line :=
  let line := Text.trimEnd header
  let indent := line.takeWhile Text.isBlank
  match splitEmptyBraces? line with
  | some (before, after) =>
    [before ++ ['\x7b'], indent ++ [' ', ' '] ++ entry, indent ++ ['\x7d'] ++ after]
  | none => [header, indent ++ [' ', ' '] ++ entry]

/-- Lists an action after the first header of its section. -/
def addBelowHeader (name entry : List Char) : List Line → Option (List Line)
  | [] => none
  | line :: rest =>
    if isHeader name line then some (headerWith entry line ++ rest)
    else (addBelowHeader name entry rest).map (line :: ·)

/-- Lists an action in its section, unless it is listed. -/
def addEntry (name entry : List Char) (lines : List Line) : Option (List Line) :=
  if lines.any (isLine entry) then some lines else addBelowHeader name entry lines

/-! ## Registering -/

/-- The lines of an entry file with an action added; `none` when it has no object for the action's
section. -/
def registerLines (kind : ActionKind) (key : String) (lines : List Line) : Option (List Line) :=
  addEntry kind.sectionName.toList (entryLine kind key).toList
    (addRequire (requireLine kind key).toList lines)

/-- The text of lines, with a line feed at the end if the given text has one. -/
def joinLike (source : List Char) (lines : List Line) : List Char :=
  List.intercalate ['\n'] lines ++ (if source.getLast? = some '\n' then ['\n'] else [])

/-- The entry file with an action added; `none` when it has no object for the action's section. Line
ends become line feeds. -/
def register (source : String) (kind : ActionKind) (key : String) : Option String :=
  (registerLines kind key (Text.lines source.toList)).map fun lines =>
    String.ofList (joinLike source.toList lines)

end ActionForge.EntryFile
