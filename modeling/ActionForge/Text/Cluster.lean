import ActionForge.Text.ClusterTable

/-!
# Character clusters

A cluster is what a reader takes for one character: a base with its marks, a Hangul syllable, a flag of
two regional indicators, pictographs that a joiner makes one sign. `clusters` cuts a text between them and
loses nothing.
-/

namespace ActionForge.Text

/-- What a character does at the edge of a cluster. -/
inductive ClusterRole where
  | carriageReturn
  | lineFeed
  | control
  | extending
  | joiner
  | spacingMark
  | leadingSign
  | regional
  | hangulLead
  | hangulVowel
  | hangulTail
  | hangulOpen
  | hangulClosed
  | pictograph
  | other
  deriving DecidableEq, Repr

/-- Whether a code point lies between two others or is one of them. -/
def within (first last code : Nat) : Bool := first ≤ code && code ≤ last

/-- The role of a Hangul character, if it is one. An open syllable is one that a tail may follow. -/
def hangulRole? (code : Nat) : Option ClusterRole :=
  if within 0x1100 0x115F code || within 0xA960 0xA97C code then some .hangulLead
  else if within 0x1160 0x11A7 code || within 0xD7B0 0xD7C6 code then some .hangulVowel
  else if within 0x11A8 0x11FF code || within 0xD7CB 0xD7FB code then some .hangulTail
  else if within 0xAC00 0xD7A3 code then
    some (if (code - 0xAC00) % 28 = 0 then .hangulOpen else .hangulClosed)
  else none

/-- The role of a character beyond ASCII. -/
def wideRole (code : Nat) : ClusterRole :=
  if code = 0x200D then .joiner
  else if within 0x1F1E6 0x1F1FF code then .regional
  else if controlTable.has code then .control
  else if extendingTable.has code then .extending
  else if spacingMarkTable.has code then .spacingMark
  else if leadingSignTable.has code then .leadingSign
  else if pictographTable.has code then .pictograph
  else (hangulRole? code).getD .other

/-- The role of a character. -/
def clusterRole (c : Char) : ClusterRole :=
  let code := c.toNat
  if code = 0x0D then .carriageReturn
  else if code = 0x0A then .lineFeed
  else if code < 0x20 || code = 0x7F then .control
  else if code < 0x80 then .other
  else wideRole code

/-- What a cluster ends with: a role, a pictograph with nothing but marks and joiners after it, and a
regional indicator that waits for its partner. -/
structure ClusterEnd where
  role : ClusterRole
  afterPictograph : Bool
  openRegional : Bool

/-- The end of a cluster of one character. -/
def ClusterEnd.start (role : ClusterRole) : ClusterEnd :=
  { role, afterPictograph := role = .pictograph, openRegional := role = .regional }

/-- The end of a cluster that another character is added to. -/
def ClusterEnd.add (tail : ClusterEnd) (role : ClusterRole) : ClusterEnd :=
  { role
    afterPictograph :=
      role = .pictograph || (tail.afterPictograph && (role = .extending || role = .joiner))
    openRegional := role = .regional && !tail.openRegional }

/-- Whether a character belongs to the cluster before it. -/
def ClusterEnd.takes (tail : ClusterEnd) (role : ClusterRole) : Bool :=
  match tail.role, role with
  | .carriageReturn, .lineFeed => true
  | .carriageReturn, _ | .lineFeed, _ | .control, _ => false
  | _, .carriageReturn | _, .lineFeed | _, .control => false
  | _, .extending | _, .joiner | _, .spacingMark => true
  | .leadingSign, _ => true
  | .hangulLead, .hangulLead | .hangulLead, .hangulVowel => true
  | .hangulLead, .hangulOpen | .hangulLead, .hangulClosed => true
  | .hangulOpen, .hangulVowel | .hangulOpen, .hangulTail => true
  | .hangulVowel, .hangulVowel | .hangulVowel, .hangulTail => true
  | .hangulClosed, .hangulTail | .hangulTail, .hangulTail => true
  | .joiner, .pictograph => tail.afterPictograph
  | _, .regional => tail.openRegional
  | _, _ => false

/-- The clusters of a text that goes on after `cluster`, which is reversed. -/
def clustersFrom (tail : ClusterEnd) (cluster : List Char) : List Char → List (List Char)
  | [] => [cluster.reverse]
  | c :: rest =>
    let role := clusterRole c
    if tail.takes role then clustersFrom (tail.add role) (c :: cluster) rest
    else cluster.reverse :: clustersFrom (.start role) [c] rest

/-- The clusters of a text. -/
def clusters : List Char → List (List Char)
  | [] => []
  | c :: rest => clustersFrom (.start (clusterRole c)) [c] rest

end ActionForge.Text
