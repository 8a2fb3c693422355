import ActionForge.Json.Token

/-!
# Drafts

A draft is the tree of a JSON text before anybody has asked for its values. Objects keep repeated
members, and where the text stops being JSON the tree ends: in `Draft.broken` in place of a value, or in
the `Ending` of a container. `Draft.ofText` builds the draft of the first value of a text and never
fails; faults come up when a reader reaches them, in the order of the text.
-/

namespace ActionForge.Json

/-- How a container ends: with its bracket, with the end of the text (just after a comma or not), with
something that does not belong there, or with a token that stands in place of a member's name. -/
inductive Ending where
  | closed
  | cut (afterComma : Bool)
  | unexpected
  | unnamed (token : Token)
  deriving DecidableEq, Repr

/-- The tree of a JSON text. A name or text that is `none` holds half of a surrogate pair; a number that
is `none` is out of range. -/
inductive Draft where
  | null
  | bool (b : Bool)
  | number (n : Option Number)
  | text (s : Option String)
  | array (items : List Draft) (ending : Ending)
  | object (members : List (Option String × Draft)) (ending : Ending)
  | broken (read skip : Break)
  deriving Repr

/-- A container that waits for the value of an item or member. What came before is held last first. -/
inductive Frame where
  | array (items : List Draft)
  | object (members : List (Option String × Draft)) (name : Option String)

/-- What comes next in the innermost open container. `fresh` says that the container has just been
opened, so that it may end. -/
inductive Spot where
  | value
  | item (items : List Draft) (fresh : Bool)
  | afterItem (items : List Draft)
  | name (members : List (Option String × Draft)) (fresh : Bool)
  | colon (members : List (Option String × Draft)) (name : Option String)
  | afterMember (members : List (Option String × Draft))

namespace Draft

/-- The whole tree, when the text ends inside the innermost value. A reader meets that end first, so the
containers around it count as closed. -/
def settle (d : Draft) : List Frame → Draft
  | [] => d
  | .array items :: frames => settle (.array (d :: items).reverse .closed) frames
  | .object members name :: frames => settle (.object ((name, d) :: members).reverse .closed) frames

/-- Goes on after a complete value; `go` reads on and `rest` follows the value. -/
def deliver (d : Draft) (frames : List Frame) (rest : List Token)
    (go : Spot → List Frame → Draft × List Token) : Draft × List Token :=
  match frames with
  | [] => (d, rest)
  | .array items :: frames => go (.afterItem (d :: items)) frames
  | .object members name :: frames => go (.afterMember ((name, d) :: members)) frames

/-- Reads the first token of a value. -/
def begin (token : Token) (frames : List Frame) (rest : List Token)
    (go : Spot → List Frame → Draft × List Token) : Draft × List Token :=
  match token with
  | .opening .square => go (.item [] true) frames
  | .opening .curly => go (.name [] true) frames
  | .null => deliver .null frames rest go
  | .bool b => deliver (.bool b) frames rest go
  | .number n => deliver (.number n) frames rest go
  | .text s => deliver (.text s) frames rest go
  | .brokenText read skip | .broken read skip => (settle (.broken read skip) frames, [])
  | .closing _ | .comma | .colon => (settle (.broken .malformed .malformed) frames, [])

/-- Builds the draft of the first value and gives the tokens after it. -/
def build : List Token → Spot → List Frame → Draft × List Token
  | [], .value, frames => (settle (.broken .truncated .truncated) frames, [])
  | [], .item items fresh, frames => (settle (.array items.reverse (.cut !fresh)) frames, [])
  | [], .afterItem items, frames => (settle (.array items.reverse (.cut false)) frames, [])
  | [], .name members fresh, frames => (settle (.object members.reverse (.cut !fresh)) frames, [])
  | [], .colon members name, frames =>
    (settle (.object ((name, .broken .truncated .truncated) :: members).reverse .closed) frames, [])
  | [], .afterMember members, frames => (settle (.object members.reverse (.cut false)) frames, [])
  | token :: rest, spot, frames =>
    match spot with
    | .value => begin token frames rest (build rest)
    | .item items fresh =>
      match token, fresh with
      | .closing .square, true => deliver (.array [] .closed) frames rest (build rest)
      | .closing _, _ => (settle (.array items.reverse .unexpected) frames, [])
      | _, _ => begin token (.array items :: frames) rest (build rest)
    | .afterItem items =>
      match token with
      | .comma => build rest (.item items false) frames
      | .closing .square => deliver (.array items.reverse .closed) frames rest (build rest)
      | _ => (settle (.array items.reverse .unexpected) frames, [])
    | .name members fresh =>
      match token, fresh with
      | .closing .curly, true => deliver (.object [] .closed) frames rest (build rest)
      | .text name, _ => build rest (.colon members name) frames
      | _, _ => (settle (.object members.reverse (.unnamed token)) frames, [])
    | .colon members name =>
      match token with
      | .colon => build rest .value (.object members name :: frames)
      | _ =>
        (settle (.object ((name, .broken .malformed .malformed) :: members).reverse .closed) frames, [])
    | .afterMember members =>
      match token with
      | .comma => build rest (.name members false) frames
      | .closing .curly => deliver (.object members.reverse .closed) frames rest (build rest)
      | _ => (settle (.object members.reverse .unexpected) frames, [])

/-- The draft of the first value of a text, and the tokens after it. -/
def ofText (text : String) : Draft × List Token := build (tokens text.toList) .value []

end Draft

end ActionForge.Json
