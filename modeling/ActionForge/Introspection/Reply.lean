import ActionForge.Failure

/-!
# Asking a service for its schema

A service answers the introspection query with a status and a body, or cannot be reached.
`schemaOfReply` says which replies hold a schema. An error that the service reports counts first, then
a status that is no success, then a body that is no JSON, then a body of another shape.
-/

namespace ActionForge.Introspection

/-- What comes back from a service: nothing, or a status and a body. -/
inductive Answer where
  | unreachable
  | reply (status : Nat) (body : String)
  deriving DecidableEq, Repr

/-- How the world outside answers a query sent to an address with headers. -/
abbrev Network := String → Entries String → Answer

/-! ## Headers -/

/-- Marks that may stand in the name of a header. -/
def headerMarks : List Char :=
  "!#$%&*+-.^_|~".toList ++ [Char.ofNat 0x27, Char.ofNat 0x60]

/-- Whether a text may name a header. -/
def isHeaderName (name : String) : Bool :=
  !name.isEmpty && name.toList.all fun c => c.isAlphanum || headerMarks.contains c

/-- Whether a text may be the value of a header: it holds no controls but tabulators. -/
def isHeaderValue (value : String) : Bool :=
  value.toList.all fun c => c = '\t' || (0x20 ≤ c.toNat && c.toNat != 0x7F)

/-- Whether a query with the headers can be sent. -/
def canSend (headers : Entries String) : Bool :=
  headers.all fun header => isHeaderName header.1 && isHeaderValue header.2

/-! ## Answers -/

/-- The phrases that go with statuses. -/
def statusPhrases : List (Nat × String) :=
  [(100, "Continue"), (101, "Switching Protocols"), (102, "Processing"), (103, "Early Hints"),
    (200, "OK"), (201, "Created"), (202, "Accepted"), (203, "Non Authoritative Information"),
    (204, "No Content"), (205, "Reset Content"), (206, "Partial Content"), (207, "Multi-Status"),
    (208, "Already Reported"), (226, "IM Used"), (300, "Multiple Choices"),
    (301, "Moved Permanently"), (302, "Found"), (303, "See Other"), (304, "Not Modified"),
    (305, "Use Proxy"), (307, "Temporary Redirect"), (308, "Permanent Redirect"),
    (400, "Bad Request"), (401, "Unauthorized"), (402, "Payment Required"), (403, "Forbidden"),
    (404, "Not Found"), (405, "Method Not Allowed"), (406, "Not Acceptable"),
    (407, "Proxy Authentication Required"), (408, "Request Timeout"), (409, "Conflict"),
    (410, "Gone"), (411, "Length Required"), (412, "Precondition Failed"),
    (413, "Payload Too Large"), (414, "URI Too Long"), (415, "Unsupported Media Type"),
    (416, "Range Not Satisfiable"), (417, "Expectation Failed"), (418, "I'm a teapot"),
    (421, "Misdirected Request"), (422, "Unprocessable Entity"), (423, "Locked"),
    (424, "Failed Dependency"), (425, "Too Early"), (426, "Upgrade Required"),
    (428, "Precondition Required"), (429, "Too Many Requests"),
    (431, "Request Header Fields Too Large"), (451, "Unavailable For Legal Reasons"),
    (500, "Internal Server Error"), (501, "Not Implemented"), (502, "Bad Gateway"),
    (503, "Service Unavailable"), (504, "Gateway Timeout"), (505, "HTTP Version Not Supported"),
    (506, "Variant Also Negotiates"), (507, "Insufficient Storage"), (508, "Loop Detected"),
    (510, "Not Extended"), (511, "Network Authentication Required")]

/-- A status with its phrase. -/
def statusLine (status : Nat) : String :=
  toString status ++ " " ++ (statusPhrases.lookup status).getD "<unknown status code>"

/-- Whether a status is a success. -/
def isSuccess (status : Nat) : Bool := 200 ≤ status && status < 300

/-- The error that a body reports: the first of its list of errors, if that says anything. -/
def reportedError? (body : Json) : Option Cause := do
  let errors ← (← body.member? "errors").items?
  let first ← errors.head?
  let message := ((first.member? "message").bind Json.text?).getD ""
  let code := ((first.member? "extensions").bind (·.member? "code")).bind Json.text?
  if message.isEmpty && code.isNone then none else some (.service code message)

/-- The schema in a body that came with a status. -/
def schemaOfReply (status : Nat) (body : String) : Except Failure Schema :=
  match Json.ofText body with
  | .error fault =>
    if isSuccess status then .error ((Cause.json fault).failure.during .parsingAnswer)
    else .error (Cause.status (statusLine status)).failure
  | .ok json =>
    match reportedError? json with
    | some error => .error error.failure
    | none =>
      if isSuccess status then (Schema.ofIntrospection json).mapError ReplyFault.failure
      else .error (Cause.status (statusLine status)).failure

/-- The schema of the service at an address. -/
def schemaOf (network : Network) (address : String) (headers : Entries String) :
    Except Failure Schema :=
  let unsent := Cause.network.failure.during (.asking address)
  if canSend headers then
    match network address headers with
    | .unreachable => .error unsent
    | .reply status body => schemaOfReply status body
  else .error unsent

end ActionForge.Introspection
