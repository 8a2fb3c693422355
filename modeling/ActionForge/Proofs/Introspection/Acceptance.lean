import ActionForge.Proofs.Project.Run

/-!
# Replies that are taken for a schema

A service may answer the introspection query with any status and any text. `loadSchema_reply` says for
which answers a schema is loaded, and what is reported for the others, where several things may be wrong at
once: an error that the service reports counts before the status, and the status before what the text looks
like. Only the first error of a reply is looked at. One that says nothing is passed over, so a list of
errors does not keep a reply from being taken for a schema (`loadSchema_muteReply`).
-/

namespace ActionForge

namespace Introspection

/-! ## Errors in a reply -/

/-- The error has a message, which is a text. -/
def HasMessage (error : Json) (message : String) : Prop :=
  error.member? "message" = some (.text message)

/-- The error has extensions with a code, which is a text. -/
def HasCode (error : Json) (code : String) : Prop :=
  ∃ extensions, error.member? "extensions" = some extensions ∧
    extensions.member? "code" = some (.text code)

/-- The error says something: a message that is not empty, or a code, be it empty. -/
def Speaks (error : Json) : Prop :=
  (∃ message, HasMessage error message ∧ message ≠ "") ∨ ∃ code, HasCode error code

/-- What an error says. A message that is missing or no text is as good as an empty one. -/
structure Says (error : Json) (code : Option String) (message : String) : Prop where
  speaks : Speaks error
  code_iff : ∀ text, code = some text ↔ HasCode error text
  message : HasMessage error message ∨ message = "" ∧ ∀ text, ¬ HasMessage error text

/-- The first error in a reply has something to say. -/
def Reports (reply : Json) (code : Option String) (message : String) : Prop :=
  ∃ first rest, reply.member? "errors" = some (.array (first :: rest)) ∧ Says first code message

/-- No error is found in a reply: it has no list of errors, or an empty one, or one whose first error says
nothing. -/
inductive Silent (reply : Json) : Prop
  | absent (h : reply.member? "errors" = none)
  | notArray {value : Json} (h : reply.member? "errors" = some value) (hvalue : value.items? = none)
  | empty (h : reply.member? "errors" = some (.array []))
  | mute {first : Json} {rest : List Json} (h : reply.member? "errors" = some (.array (first :: rest)))
      (hfirst : ¬ Speaks first)

/-- The message of an error, if it is a text. -/
def message? (error : Json) : Option String := (error.member? "message").bind Json.text?

/-- The code of an error, if it is a text. -/
def code? (error : Json) : Option String :=
  ((error.member? "extensions").bind (·.member? "code")).bind Json.text?

/-- A value is read as a text if it is one. -/
theorem text?_eq_some_iff {json : Json} {text : String} : json.text? = some text ↔ json = .text text := by
  cases json <;> simp [Json.text?]

/-- The message of an error is read if there is one that is a text. -/
theorem message?_eq_some_iff {error : Json} {message : String} :
    message? error = some message ↔ HasMessage error message := by
  simp [message?, HasMessage, Option.bind_eq_some_iff, text?_eq_some_iff]

/-- The code of an error is read if there is one in its extensions that is a text. -/
theorem code?_eq_some_iff {error : Json} {code : String} : code? error = some code ↔ HasCode error code := by
  simp [code?, HasCode, Option.bind_eq_some_iff, text?_eq_some_iff]

/-- An error says nothing when its message comes out empty and it has no code. -/
theorem not_speaks_iff {error : Json} :
    ¬ Speaks error ↔ (message? error).getD "" = "" ∧ code? error = none := by
  simp only [Speaks, ← message?_eq_some_iff, ← code?_eq_some_iff]
  cases message? error <;> cases code? error <;> simp

/-- An error that speaks says one thing only. -/
theorem says_iff {error : Json} {code : Option String} {message : String} :
    Says error code message ↔
      Speaks error ∧ code = code? error ∧ message = (message? error).getD "" := by
  -- A code is known by the texts that it is, and a message by being one or by there being none.
  have hcode : (∀ text, code = some text ↔ HasCode error text) ↔ code = code? error := by
    simp only [← code?_eq_some_iff]
    exact ⟨Option.ext, fun h text => by rw [h]⟩
  have hmessage : (HasMessage error message ∨ message = "" ∧ ∀ text, ¬ HasMessage error text) ↔
      message = (message? error).getD "" := by
    simp only [← message?_eq_some_iff]
    cases message? error <;> simp [eq_comm]
  rw [← hcode, ← hmessage]
  exact ⟨fun ⟨hspeaks, hcode, hmessage⟩ => ⟨hspeaks, hcode, hmessage⟩,
    fun ⟨hspeaks, hcode, hmessage⟩ => ⟨hspeaks, hcode, hmessage⟩⟩

/-- The first error of a reply is reported unless its message comes out empty and it has no code. -/
theorem reportedError?_of_cons {reply first : Json} {rest : List Json}
    (h : reply.member? "errors" = some (.array (first :: rest))) :
    reportedError? reply =
      if (message? first).getD "" = "" ∧ code? first = none then none
      else some (.service (code? first) ((message? first).getD "")) := by
  simp [reportedError?, h, Json.items?, message?, code?]

/-- A reply with something to say has that reported. -/
theorem reportedError?_of_reports {reply : Json} {code : Option String} {message : String}
    (h : Reports reply code message) : reportedError? reply = some (.service code message) := by
  obtain ⟨first, rest, herrors, hsays⟩ := h
  obtain ⟨hspeaks, rfl, rfl⟩ := says_iff.1 hsays
  rw [reportedError?_of_cons herrors, if_neg fun hmute => not_speaks_iff.2 hmute hspeaks]

/-- A silent reply has no error reported. -/
theorem reportedError?_of_silent {reply : Json} (h : Silent reply) : reportedError? reply = none := by
  cases h with
  | absent h => simp [reportedError?, h]
  | notArray h hvalue => simp [reportedError?, h, hvalue]
  | empty h => simp [reportedError?, h, Json.items?]
  | mute h hfirst => rw [reportedError?_of_cons h, if_pos (not_speaks_iff.1 hfirst)]

/-- Every reply is silent or reports something, whatever its errors look like. -/
theorem silent_or_reports (reply : Json) : Silent reply ∨ ∃ code message, Reports reply code message := by
  cases herrors : reply.member? "errors" with
  | none => exact .inl (.absent herrors)
  | some value =>
    cases value with
    | array errors =>
      cases errors with
      | nil => exact .inl (.empty herrors)
      | cons first rest =>
        -- Only the first error is looked at, so it decides for all of them.
        by_cases hspeaks : Speaks first
        · exact .inr ⟨_, _, first, rest, herrors, says_iff.2 ⟨hspeaks, rfl, rfl⟩⟩
        · exact .inl (.mute herrors hspeaks)
    | _ => exact .inl (.notArray herrors rfl)

/-! ## Replies -/

/-- A status that stands for a success. -/
def Succeeds (status : Nat) : Prop := 200 ≤ status ∧ status < 300

/-- A reply that is taken for a schema. -/
structure Accepted (status : Nat) (body : String) (schema : Schema) : Prop where
  succeeds : Succeeds status
  holds : ∃ json, Json.ofText body = .ok json ∧ Silent json ∧ Schema.ofIntrospection json = .ok schema

/-- A reply that is not taken for a schema, with what is wrong with it. What comes first counts first: an
error found in a JSON body, the status, the syntax of the body, its shape. -/
inductive Rejected (status : Nat) (body : String) : Failure → Prop
  | reported {json : Json} {code : Option String} {message : String} (hbody : Json.ofText body = .ok json)
      (herror : Reports json code message) : Rejected status body (Cause.service code message).failure
  | status (hstatus : ¬ Succeeds status) (hsilent : ∀ json, Json.ofText body = .ok json → Silent json) :
      Rejected status body (Cause.status (statusLine status)).failure
  | notJson {fault : Json.Fault} (hstatus : Succeeds status) (hbody : Json.ofText body = .error fault) :
      Rejected status body ((Cause.json fault).failure.during .parsingAnswer)
  | unexpected {json : Json} {fault : ReplyFault} (hstatus : Succeeds status)
      (hbody : Json.ofText body = .ok json) (hsilent : Silent json)
      (hshape : Schema.ofIntrospection json = .error fault) : Rejected status body fault.failure

variable {status : Nat} {body : String}

/-- A status is taken for a success in the two hundreds. -/
theorem isSuccess_iff : isSuccess status = true ↔ Succeeds status := by
  simp [isSuccess, Succeeds]

/-- A reply that is accepted gives the schema that it holds. -/
theorem Accepted.schemaOfReply_eq {schema : Schema} (h : Accepted status body schema) :
    schemaOfReply status body = .ok schema := by
  obtain ⟨hstatus, json, hbody, hsilent, hshape⟩ := h
  simp only [schemaOfReply, hbody, reportedError?_of_silent hsilent, isSuccess_iff.2 hstatus, hshape,
    if_true]
  rfl

/-- A reply that is rejected gives the failure that it is rejected with. -/
theorem Rejected.schemaOfReply_eq {failure : Failure} (h : Rejected status body failure) :
    schemaOfReply status body = .error failure := by
  cases h with
  | reported hbody herror => simp only [schemaOfReply, hbody, reportedError?_of_reports herror]
  | status hstatus hsilent =>
    have hfails : ¬ isSuccess status = true := fun h => hstatus (isSuccess_iff.1 h)
    -- A status that is no success is reported whether the body is JSON or not.
    cases hbody : Json.ofText body with
    | error fault => simp only [schemaOfReply, hbody, if_neg hfails]
    | ok json => simp only [schemaOfReply, hbody, reportedError?_of_silent (hsilent json hbody), if_neg hfails]
  | notJson hstatus hbody => simp only [schemaOfReply, hbody, isSuccess_iff.2 hstatus, if_true]
  | unexpected hstatus hbody hsilent hshape =>
    simp only [schemaOfReply, hbody, reportedError?_of_silent hsilent, isSuccess_iff.2 hstatus, hshape,
      if_true]
    rfl

/-- Every reply is taken for a schema or has something wrong with it. -/
theorem accepted_or_rejected (status : Nat) (body : String) :
    (∃ schema, Accepted status body schema) ∨ ∃ failure, Rejected status body failure := by
  -- The cases are the questions that are put to a reply, in their order.
  cases hbody : Json.ofText body with
  | error fault =>
    by_cases hstatus : Succeeds status
    · exact .inr ⟨_, .notJson hstatus hbody⟩
    · exact .inr ⟨_, .status hstatus fun json hjson => by rw [hbody] at hjson; cases hjson⟩
  | ok json =>
    rcases silent_or_reports json with hsilent | ⟨code, message, hreports⟩
    · by_cases hstatus : Succeeds status
      · cases hshape : Schema.ofIntrospection json with
        | ok schema => exact .inl ⟨schema, hstatus, json, hbody, hsilent, hshape⟩
        | error fault => exact .inr ⟨_, .unexpected hstatus hbody hsilent hshape⟩
      · refine .inr ⟨_, .status hstatus fun json' hjson => ?_⟩
        rw [hbody] at hjson
        cases hjson
        exact hsilent
    · exact .inr ⟨_, .reported hbody hreports⟩

/-- Since no reply is both, a schema comes from accepted replies alone. -/
theorem schemaOfReply_eq_ok_iff {schema : Schema} :
    schemaOfReply status body = .ok schema ↔ Accepted status body schema := by
  refine ⟨fun h => ?_, Accepted.schemaOfReply_eq⟩
  rcases accepted_or_rejected status body with ⟨schema', haccepted⟩ | ⟨failure, hrejected⟩
  · obtain rfl := Except.ok.inj (haccepted.schemaOfReply_eq.symm.trans h)
    exact haccepted
  · cases hrejected.schemaOfReply_eq.symm.trans h

/-- Since every reply is accepted or rejected, failures come from rejected replies alone. -/
theorem schemaOfReply_eq_error_iff {failure : Failure} :
    schemaOfReply status body = .error failure ↔ Rejected status body failure := by
  refine ⟨fun h => ?_, Rejected.schemaOfReply_eq⟩
  rcases accepted_or_rejected status body with ⟨schema, haccepted⟩ | ⟨failure', hrejected⟩
  · cases haccepted.schemaOfReply_eq.symm.trans h
  · obtain rfl := Except.error.inj (hrejected.schemaOfReply_eq.symm.trans h)
    exact hrejected

/-! ## Loading from a service -/

/-- When the headers can be sent and a reply comes, the reply decides, and no file is touched. -/
theorem run_loadSchema_service {network : Network} {address : String} {headers : Entries String}
    (hsend : canSend headers) (hreply : network address headers = .reply status body) (tree : FileTree) :
    (Project.loadSchema network (.service address headers)).run tree = (schemaOfReply status body, tree) := by
  rw [Project.loadSchema, Run.run_lift]
  simp only [schemaOf, hsend, hreply, if_true]

/-- A schema is loaded from a service exactly when its reply is accepted, and it is the one that the body
holds; otherwise the failure is the first thing that is wrong with the reply. No file changes. -/
theorem loadSchema_reply {network : Network} {address : String} {headers : Entries String}
    (hsend : canSend headers) (hreply : network address headers = .reply status body) (tree : FileTree) :
    ∃ outcome, (Project.loadSchema network (.service address headers)).run tree = (outcome, tree) ∧
      (∀ schema, outcome = .ok schema ↔ Accepted status body schema) ∧
      ∀ failure, outcome = .error failure ↔ Rejected status body failure :=
  ⟨schemaOfReply status body, run_loadSchema_service hsend hreply tree,
    fun _ => schemaOfReply_eq_ok_iff, fun _ => schemaOfReply_eq_error_iff⟩

/-- A service that gives one reply to every query. -/
def Network.replying (status : Nat) (body : String) : Network := fun _ _ => .reply status body

/-- What a service that is down may say: an error with an empty message and an empty code. -/
def downReply : String :=
  "\x7b\"errors\": [\x7b\"message\": \"\", \"extensions\": \x7b\"code\": \"\"\x7d\x7d]\x7d"

/-- The reply of the service that is down is JSON with the one error. -/
theorem ofText_downReply :
    Json.ofText downReply = .ok (.object [("errors", .array [.object
      [("message", .text ""), ("extensions", .object [("code", .text "")])]])]) := by
  have htokens : Json.tokens downReply.toList =
      [.opening .curly, .text "errors", .colon, .opening .square, .opening .curly,
        .text "message", .colon, .text "", .comma,
        .text "extensions", .colon, .opening .curly, .text "code", .colon, .text "", .closing .curly,
        .closing .curly, .closing .square, .closing .curly] := by decide +kernel
  rw [Json.ofText, Json.Draft.readWhole, Json.Draft.ofText, htokens]
  rfl

/-- The error counts, not the status. -/
theorem loadSchema_reply_down :
    (Project.loadSchema (.replying 503 downReply) (.service "service" [])).run ⟨[], []⟩ =
      (.error (Cause.service (some "") "").failure, ⟨[], []⟩) := by
  have hreply : Network.replying 503 downReply "service" [] = .reply 503 downReply := rfl
  obtain ⟨outcome, hrun, -, herror⟩ := loadSchema_reply (by rfl) hreply ⟨[], []⟩
  have hcode : HasCode (.object
      [("message", .text ""), ("extensions", .object [("code", .text "")])]) "" := ⟨_, rfl, rfl⟩
  -- The code is a text, though an empty one, so the error speaks.
  have hsays : Says (.object
      [("message", .text ""), ("extensions", .object [("code", .text "")])]) (some "") "" :=
    says_iff.2 ⟨.inr ⟨"", hcode⟩, rfl, rfl⟩
  rw [hrun, (herror _).2 (.reported ofText_downReply ⟨_, [], rfl, hsays⟩)]

/-- A reply with a schema and an error that says nothing. -/
def muteReply : String :=
  "\x7b\"data\": \x7b\"__schema\": \x7b\"types\": []\x7d\x7d, \"errors\": [\x7b\x7d]\x7d"

/-- The reply with the mute error is taken for a schema, although its list of errors is not empty. -/
theorem loadSchema_muteReply :
    (∃ json, Json.ofText muteReply = .ok json ∧ json.member? "errors" = some (.array [.object []])) ∧
      (Project.loadSchema (.replying 200 muteReply) (.service "service" [])).run ⟨[], []⟩ =
        (.ok ⟨"Query", none, .builtin⟩, ⟨[], []⟩) := by
  have htokens : Json.tokens muteReply.toList =
      [.opening .curly, .text "data", .colon, .opening .curly, .text "__schema", .colon, .opening .curly,
        .text "types", .colon, .opening .square, .closing .square, .closing .curly, .closing .curly,
        .comma, .text "errors", .colon, .opening .square, .opening .curly, .closing .curly,
        .closing .square, .closing .curly] := by decide +kernel
  have hbody : Json.ofText muteReply = .ok (.object
      [("data", .object [("__schema", .object [("types", .array [])])]),
        ("errors", .array [.object []])]) := by
    rw [Json.ofText, Json.Draft.readWhole, Json.Draft.ofText, htokens]
    rfl
  have hmute : ¬ Speaks (.object []) := not_speaks_iff.2 ⟨rfl, rfl⟩
  have haccepted : Accepted 200 muteReply ⟨"Query", none, .builtin⟩ :=
    ⟨⟨by decide, by decide⟩, _, hbody, .mute rfl hmute, rfl⟩
  refine ⟨⟨_, hbody, rfl⟩, ?_⟩
  rw [run_loadSchema_service rfl rfl, haccepted.schemaOfReply_eq]

end Introspection

end ActionForge
