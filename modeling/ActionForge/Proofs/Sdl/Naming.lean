import ActionForge.Proofs.Name
import ActionForge.Proofs.Schema.Table
import ActionForge.Sdl.Grammar

/-!
# Names in schema texts

Every name token of a text is a name, and what a reader takes for a name is such a token. So a schema
that is read from a text is well-named (`Schema.wellNamed_of_definitions`). `Gives P read` says that
whatever `read` gives has the property `P`, and that it makes up no tokens. It composes, so there is one
law for each reader, and only those of `advance` and `many` speak of token lists.
-/

namespace ActionForge

namespace Sdl

/-- The name tokens of the list are names. -/
def Named (tokens : List Lexeme) : Prop :=
  ∀ lexeme ∈ tokens, ∀ name, lexeme.token = .name name → isName name

/-! ## Tokens of a text -/

/-- What is read as a number is no name. -/
theorem numberToken_ne_name (text : List Char) (name : String) : numberToken text ≠ .name name := by
  intro h
  unfold numberToken at h
  repeat' split at h
  all_goals cases h

/-- A name token is a name, for it is read as far as names go. -/
theorem isName_of_nextToken {p next : Position} {text rest : List Char} {name : String}
    (h : nextToken p text = some (.name name, rest, next)) : isName name := by
  unfold nextToken at h
  split at h
  · cases h
  rename_i c text
  split at h
  · rename_i hstarts
    obtain rfl : String.ofList (c :: text.takeWhile continuesName) = name :=
      Token.name.inj (Prod.mk.inj (Option.some.inj h)).1
    refine isName_iff.2 ⟨c, text.takeWhile continuesName, String.toList_ofList, hstarts, ?_⟩
    exact List.all_eq_true.1 List.all_takeWhile
  -- No other token is a name.
  split at h
  · cases h
  split at h
  · split at h <;> cases h
  split at h
  · dsimp only at h
    split at h
    · cases h
    · exact absurd (Prod.mk.inj (Option.some.inj h)).1 (numberToken_ne_name _ name)
  split at h
  · split at h
    · obtain ⟨pair, -, hpair⟩ := Option.map_eq_some_iff.1 h
      cases hpair
    · obtain ⟨pair, -, hpair⟩ := Option.map_eq_some_iff.1 h
      cases hpair
  · cases h

/-- The name tokens of a text are names, however many brackets may be open in it. -/
theorem named_tokensFrom (fuel room : Nat) (p : Position) (text : List Char) :
    Named (tokensFrom fuel room p text) := by
  -- A text ends with a token that is no name, also where it cannot be read.
  have hlast : ∀ {token : Token} {p : Position}, (∀ name, token ≠ .name name) → Named [⟨token, p⟩] := by
    intro token p htoken lexeme hmem name hname
    obtain rfl := List.mem_singleton.1 hmem
    exact absurd hname (htoken name)
  induction fuel generalizing room p text with
  | zero => exact hlast (by simp)
  | succ fuel ih =>
    simp only [tokensFrom]
    split
    · exact hlast (by simp)
    split
    · exact hlast (by simp)
    · rename_i token rest next hnext
      split
      · exact hlast (by simp)
      · intro lexeme hmem name hname
        rcases List.mem_cons.1 hmem with rfl | hmem
        · obtain rfl : token = .name name := hname
          exact isName_of_nextToken hnext
        · exact ih _ _ _ lexeme hmem name hname

/-- The name tokens of a whole text are names. -/
theorem named_tokens (text : String) : Named (tokens text) := named_tokensFrom _ _ _ _

/-! ## Readers -/

/-- What the reader gives has the property, and the tokens that it leaves have names if those before it
had. -/
def Gives {α : Type} (P : α → Prop) (read : Parse α) : Prop :=
  ∀ tokens a rest, Named tokens → read.run tokens = .ok (a, rest) → P a ∧ Named rest

namespace Gives

variable {α β : Type} {P : α → Prop} {Q : β → Prop} {read : Parse α}

/-- What comes after a reader may rely on what the reader gives. -/
theorem bind {next : α → Parse β} (h : Gives P read) (hnext : ∀ a, P a → Gives Q (next a)) :
    Gives Q (read >>= next) := by
  intro tokens b rest hnamed hrun
  rw [StateT.run_bind] at hrun
  cases hread : read.run tokens with
  | error position =>
    rw [hread] at hrun
    cases hrun
  | ok result =>
    obtain ⟨a, left⟩ := result
    rw [hread] at hrun
    obtain ⟨ha, hleft⟩ := h tokens a left hnamed hread
    exact hnext a ha left b rest hleft hrun

/-- A value that is given without reading has the property that it has. -/
theorem pure {a : α} (h : P a) : Gives P (Pure.pure a : Parse α) := by
  intro tokens b rest hnamed hrun
  cases hrun
  exact ⟨h, hnamed⟩

/-- A property may be replaced by one that follows from it. -/
theorem mono {P' : α → Prop} (h : Gives P read) (himp : ∀ a, P a → P' a) : Gives P' read := by
  intro tokens a rest hnamed hrun
  obtain ⟨ha, hrest⟩ := h tokens a rest hnamed hrun
  exact ⟨himp a ha, hrest⟩

/-- A step whose result does not matter. -/
theorem skip {next : α → Parse β} (h : Gives (fun _ => True) read) (hnext : ∀ a, Gives Q (next a)) :
    Gives Q (read >>= next) := h.bind fun a _ => hnext a

/-- What is made of the result has a property that follows from that of the result. -/
theorem map {f : α → β} (h : Gives P read) (hf : ∀ a, P a → Q (f a)) : Gives Q (f <$> read) := by
  rw [map_eq_pure_bind]
  exact h.bind fun a ha => pure (hf a ha)

end Gives

section Parsing

open Parse

variable {α : Type} {P : α → Prop}

/-- A reader that fails gives nothing. -/
theorem gives_failAt (p : Position) : Gives P (failAt p) := by
  intro tokens a rest hnamed hrun
  cases hrun

/-- The tokens that are left have names. -/
theorem gives_get : Gives Named (get : Parse (List Lexeme)) := by
  intro tokens a rest hnamed hrun
  cases hrun
  exact ⟨hnamed, hnamed⟩

/-- The next token has a name if it is a name token. -/
theorem gives_peek : Gives (fun next => ∀ name, next.token = .name name → isName name) peek := by
  refine gives_get.bind fun tokens hnamed => .pure ?_
  cases tokens with
  | nil => simp
  | cons lexeme rest => exact hnamed lexeme List.mem_cons_self

/-- Passing over a token leaves the others as they are. -/
theorem gives_advance : Gives (fun _ => True) advance := by
  intro tokens a rest hnamed hrun
  cases hrun
  exact ⟨trivial, fun lexeme hmem => hnamed lexeme (List.mem_of_mem_tail hmem)⟩

/-- A failure at the next token gives nothing. -/
theorem gives_fail : Gives P fail := gives_peek.bind fun _ _ => gives_failAt _

/-- Looking for a mark takes no token. -/
theorem gives_seesMark (mark : Char) : Gives (fun _ => True) (seesMark mark) :=
  gives_peek.bind fun _ _ => .pure trivial

/-- Looking for a word takes no token. -/
theorem gives_seesWord (word : String) : Gives (fun _ => True) (seesWord word) :=
  gives_peek.bind fun _ _ => .pure trivial

/-- A mark that must be there is passed over. -/
theorem gives_mark (mark : Char) : Gives (fun _ => True) (Parse.mark mark) := by
  refine (gives_seesMark mark).skip fun sees => ?_
  split
  · exact gives_advance
  · exact gives_fail

/-- A mark that may be there is passed over if it is. -/
theorem gives_mark? (mark : Char) : Gives (fun _ => True) (mark? mark) := by
  refine (gives_seesMark mark).skip fun sees => ?_
  split
  · exact gives_advance.skip fun _ => .pure trivial
  · exact .pure trivial

/-- A word that may be there is passed over if it is. -/
theorem gives_word? (word : String) : Gives (fun _ => True) (word? word) := by
  refine (gives_seesWord word).skip fun sees => ?_
  split
  · exact gives_advance.skip fun _ => .pure trivial
  · exact .pure trivial

/-- What is read as a name is one. -/
theorem gives_name : Gives (fun name => isName name) name := by
  refine gives_peek.bind fun next hnext => ?_
  split
  · rename_i text htoken
    exact gives_advance.skip fun _ => .pure (hnext text htoken)
  · exact gives_fail

/-- Every item of a list has the property of an item. -/
theorem gives_many {item : Parse α} (h : Gives P item) (starts : Token → Bool) :
    Gives (fun all => ∀ a ∈ all, P a) (many starts item) := by
  -- The induction is on the tokens that may still be read, which bound the number of items.
  have hmany : ∀ fuel, Gives (fun all => ∀ a ∈ all, P a) (manyFrom starts item fuel) := by
    intro fuel
    induction fuel with
    | zero => exact .pure (by simp)
    | succ fuel ih =>
      refine gives_peek.bind fun next _ => ?_
      split
      · refine h.bind fun first hfirst => ih.bind fun rest hrest => .pure ?_
        exact List.forall_mem_cons.2 ⟨hfirst, hrest⟩
      · exact .pure (by simp)
  exact gives_get.bind fun tokens _ => hmany tokens.length

/-- Every item of a list that is not empty has the property of an item. -/
theorem gives_many1 {item : Parse α} (h : Gives P item) (starts : Token → Bool) :
    Gives (fun all => ∀ a ∈ all, P a) (many1 starts item) := by
  refine h.bind fun first hfirst => (gives_many h starts).bind fun rest hrest => .pure ?_
  exact List.forall_mem_cons.2 ⟨hfirst, hrest⟩

/-- Signs between items change nothing. -/
theorem gives_separated {item : Parse α} (h : Gives P item) (between : Char) :
    Gives (fun all => ∀ a ∈ all, P a) (separated between item) := by
  have hitem : Gives P (do advance; item) := gives_advance.skip fun _ => h
  refine h.bind fun first hfirst => (gives_many hitem _).bind fun rest hrest => .pure ?_
  exact List.forall_mem_cons.2 ⟨hfirst, hrest⟩

/-! ## Readers of the grammar -/

/-- A description is passed over, or read for itself. -/
theorem gives_description? : Gives (fun _ => True) description? := by
  refine gives_peek.bind fun next _ => ?_
  split
  · split
    · exact gives_advance.skip fun _ => .pure trivial
    · exact gives_fail
  · exact gives_advance.skip fun _ => .pure trivial
  · exact .pure trivial

/-- A value is passed over, with all that is in it. -/
theorem gives_value (withVariables : Bool) (fuel : Nat) :
    Gives (fun _ => True) (value withVariables fuel) := by
  induction fuel with
  | zero => exact gives_fail
  | succ fuel ih =>
    have hmember : Gives (fun _ => True) (do
        let _ ← name
        Parse.mark ':'
        value withVariables fuel) :=
      gives_name.bind fun _ _ => (gives_mark ':').skip fun _ => ih
    -- Lists and objects are items between brackets.
    have hall : ∀ {item : Parse Unit} (starts : Token → Bool) (closing : Char),
        Gives (fun _ => True) item → Gives (fun _ => True) (do
          advance
          let _ ← many starts item
          Parse.mark closing) := by
      intro item starts closing hitem
      exact gives_advance.skip fun _ => (gives_many hitem starts).bind fun _ _ => gives_mark closing
    refine gives_peek.bind fun next _ => ?_
    split
    · exact gives_advance
    · split
      · exact gives_advance
      · exact gives_fail
    · split
      · exact gives_advance
      · exact gives_fail
    · split
      · exact gives_advance
      · exact gives_fail
    · exact gives_advance
    · split
      · exact gives_advance.skip fun _ => gives_name.bind fun _ _ => .pure trivial
      · exact gives_fail
    · exact hall _ ']' ih
    · exact hall _ '\x7d' hmember
    · exact gives_fail

/-- A reference to a type names it, but what it names need not be declared. -/
theorem gives_typeRef : Gives (fun _ => True) typeRef := by
  have hfrom : ∀ fuel, Gives (fun _ => True) (typeRefFrom fuel) := by
    intro fuel
    induction fuel with
    | zero => exact gives_fail
    | succ fuel ih =>
      refine (gives_mark? '[').skip fun opens => ?_
      have hinner : ∀ inner : TypeRef, Gives (fun _ => True) (do
          return if ← mark? '!' then TypeRef.nonNull inner else inner) := by
        intro inner
        exact (gives_mark? '!').skip fun _ => .pure trivial
      split
      · exact ih.skip fun inner => (gives_mark ']').skip fun _ => Gives.skip (.pure trivial) hinner
      · exact (gives_name.map fun _ _ => trivial).skip hinner
  exact gives_get.bind fun tokens _ => hfrom tokens.length

/-- Directives are passed over. -/
theorem gives_directives : Gives (fun _ => True) directives := by
  have hargument : Gives (fun _ => True) (do
      let _ ← name
      Parse.mark ':'
      value true (← get).length) :=
    gives_name.bind fun _ _ => (gives_mark ':').skip fun _ =>
      gives_get.bind fun tokens _ => gives_value true tokens.length
  have hdirective : Gives (fun _ => True) directive := by
    refine (gives_mark '@').skip fun _ => gives_name.bind fun _ _ => ?_
    refine (gives_mark? '(').skip fun opens => ?_
    split
    · exact (gives_many1 hargument _).bind fun _ _ => gives_mark ')'
    · exact .pure trivial
  exact (gives_many hdirective _).bind fun all _ => .pure trivial

/-- A member has a name, whether or not it has a default. -/
theorem gives_member : Gives (fun member => isName member.name) member := by
  refine gives_description?.skip fun description => gives_name.bind fun name hname => ?_
  refine (gives_mark ':').skip fun _ => gives_typeRef.skip fun type => ?_
  refine (gives_mark? '=').skip fun hasDefault => ?_
  split
  · exact gives_get.bind fun tokens _ => (gives_value false tokens.length).skip fun _ =>
      gives_directives.skip fun _ => .pure hname
  · exact gives_directives.skip fun _ => .pure hname

/-- Arguments have names. -/
theorem gives_arguments :
    Gives (fun all => ∀ member ∈ all, isName member.name) Sdl.arguments := by
  refine (gives_mark? '(').skip fun opens => ?_
  split
  · exact (gives_many1 gives_member _).bind fun all hall => (gives_mark ')').skip fun _ => .pure hall
  · exact .pure (by simp)

/-- A field has a name, and so have its arguments. -/
theorem gives_field : Gives (fun field =>
    isName field.name ∧ ∀ argument ∈ field.arguments, isName argument.name) field := by
  refine gives_description?.skip fun description => gives_name.bind fun name hname => ?_
  refine gives_arguments.bind fun arguments harguments => (gives_mark ':').skip fun _ => ?_
  exact gives_typeRef.skip fun type => gives_directives.skip fun _ => .pure ⟨hname, harguments⟩

/-- The choices of a type are read as they are. -/
theorem gives_enumValue : Gives (fun _ => True) enumValue :=
  gives_description?.skip fun _ => gives_name.bind fun _ _ =>
    gives_directives.skip fun _ => .pure trivial

/-- Items between braces have the property, and without braces there are none. -/
theorem gives_braced {item : Parse α} (h : Gives P item) :
    Gives (fun all => ∀ a ∈ all, P a) (braced item) := by
  refine (gives_mark? '\x7b').skip fun opens => ?_
  split
  · exact (gives_many1 h _).bind fun all hall => (gives_mark '\x7d').skip fun _ => .pure hall
  · exact .pure (by simp)

/-- Interfaces are passed over. -/
theorem gives_interfaces : Gives (fun _ => True) interfaces := by
  refine (gives_word? "implements").skip fun implements => ?_
  split
  · exact (gives_mark? '&').skip fun _ => (gives_separated gives_name '&').mono fun _ _ => trivial
  · exact .pure trivial

/-- The types of a union are read as they are. -/
theorem gives_unionTypes : Gives (fun _ => True) unionTypes := by
  refine (gives_mark? '=').skip fun given => ?_
  split
  · exact (gives_mark? '|').skip fun _ => (gives_separated gives_name '|').mono fun _ _ => trivial
  · exact .pure trivial

/-! ## Definitions -/

/-- The definition names its type and all that it declares. -/
def Definition.WellNamed : Definition → Prop
  | .type declared => declared.WellNamed
  | .extension name more => NamedType.WellNamed ⟨name, none, more⟩
  | .roots _ _ | .directive => True

/-- A body names its type and all that it declares. -/
theorem gives_body : Gives (fun body => NamedType.WellNamed ⟨body.name, none, body.kind⟩) body := by
  refine gives_name.bind fun keyword _ => ?_
  split
  · exact gives_name.bind fun name hname => gives_directives.skip fun _ => .pure ⟨hname, trivial⟩
  · exact gives_name.bind fun name hname => gives_interfaces.skip fun _ => gives_directives.skip fun _ =>
      (gives_braced gives_field).bind fun fields hfields => .pure ⟨hname, hfields⟩
  · exact gives_name.bind fun name hname => gives_interfaces.skip fun _ => gives_directives.skip fun _ =>
      (gives_braced gives_field).bind fun fields hfields => .pure ⟨hname, hfields⟩
  · exact gives_name.bind fun name hname => gives_directives.skip fun _ =>
      gives_unionTypes.skip fun _ => .pure ⟨hname, trivial⟩
  · exact gives_name.bind fun name hname => gives_directives.skip fun _ =>
      (gives_braced gives_enumValue).bind fun _ _ => .pure ⟨hname, trivial⟩
  · exact gives_name.bind fun name hname => gives_directives.skip fun _ =>
      (gives_braced gives_member).bind fun fields hfields => .pure ⟨hname, hfields⟩

/-- The place of a directive is passed over. -/
theorem gives_directiveLocation : Gives (fun _ => True) directiveLocation := by
  refine gives_peek.bind fun next _ => ?_
  split
  · split
    · exact gives_advance
    · exact gives_fail
  · exact gives_fail

/-- The definition of a directive declares nothing. -/
theorem gives_directiveDefinition : Gives Definition.WellNamed directiveDefinition := by
  refine gives_advance.skip fun _ => (gives_mark '@').skip fun _ => gives_name.bind fun _ _ => ?_
  refine gives_arguments.bind fun _ _ => (gives_word? "repeatable").skip fun _ => ?_
  refine (gives_word? "on").skip fun located => ?_
  split
  · refine (gives_mark? '|').skip fun _ => gives_peek.bind fun next _ => ?_
    split
    · exact (gives_separated gives_directiveLocation '|').bind fun _ _ => .pure trivial
    · exact .pure trivial
  · exact gives_fail

/-- A schema block declares nothing. -/
theorem gives_schemaBlock : Gives Definition.WellNamed schemaBlock := by
  have hroot : Gives (fun _ => True) (do
      let kind ← name
      Parse.mark ':'
      let type ← name
      return (kind, type)) :=
    gives_name.bind fun _ _ => (gives_mark ':').skip fun _ => gives_name.bind fun _ _ => .pure trivial
  refine gives_peek.bind fun start _ => gives_advance.skip fun _ => gives_directives.skip fun _ => ?_
  refine (gives_mark '\x7b').skip fun _ => (gives_many hroot _).bind fun given _ => ?_
  refine (gives_mark '\x7d').skip fun _ => ?_
  split
  · rename_i definition hdefinition
    unfold rootsOf at hdefinition
    dsimp only at hdefinition
    split at hdefinition
    · cases hdefinition
      exact .pure trivial
    · cases hdefinition
  · exact gives_failAt _

/-- An extension names its type and all that it adds. -/
theorem gives_extension : Gives Definition.WellNamed Sdl.extension := by
  refine gives_advance.skip fun _ => gives_peek.bind fun start _ => ?_
  split
  · refine gives_body.bind fun body hbody => ?_
    split
    · exact .pure hbody
    · exact gives_failAt _
  · exact gives_fail

/-- Every definition names what it declares. -/
theorem gives_definition : Gives Definition.WellNamed definition := by
  refine (gives_seesWord "schema").skip fun isSchema => ?_
  split
  · exact gives_schemaBlock
  refine (gives_seesWord "extend").skip fun isExtension => ?_
  split
  · exact gives_extension
  refine gives_description?.skip fun description => gives_peek.bind fun next _ => ?_
  split
  · exact gives_body.bind fun body hbody => .pure hbody
  refine (gives_seesWord "directive").skip fun isDirective => ?_
  split
  · exact gives_directiveDefinition
  · exact gives_fail

end Parsing

/-- The definitions of a text name all that they declare. -/
theorem wellNamed_definitions {text : String} {all : List Definition} (h : definitions text = .ok all) :
    ∀ definition ∈ all, definition.WellNamed := by
  obtain ⟨result, hrun, rfl⟩ := exists_of_map_eq_ok h
  exact (gives_many1 gives_definition _ (tokens text) result.1 result.2 (named_tokens text) hrun).1

end Sdl

/-! ## Schemas -/

open Sdl (Definition)

/-- The kinds of one type, put together. -/
theorem NamedType.WellNamed.extend {type : NamedType} (h : type.WellNamed) {name : String}
    {more : TypeKind} (hmore : NamedType.WellNamed ⟨name, none, more⟩) :
    NamedType.WellNamed { type with kind := type.kind.extend more } := by
  obtain ⟨typeName, description, kind⟩ := type
  obtain ⟨hname, hkind⟩ := h
  obtain ⟨-, hmore⟩ := hmore
  refine ⟨hname, ?_⟩
  cases kind <;> cases more <;> first
    | exact hkind
    | exact fun field hfield => (List.mem_append.1 hfield).elim (hkind field) (hmore field)

namespace Schema

/-- A table of well-named types. -/
def AllWellNamed (table : TypeTable) : Prop := ∀ type ∈ table.types, type.WellNamed

/-- Declaring a well-named type keeps a table well-named. -/
theorem allWellNamed_declare {table : TypeTable} (h : AllWellNamed table) {definition : Definition}
    (hdefinition : definition.WellNamed) : AllWellNamed (declare table definition) := by
  cases definition with
  | type type =>
    intro other hother
    rcases TypeTable.eq_or_mem_of_mem_place hother with rfl | hother
    · exact hdefinition
    · exact h other hother
  | _ => exact h

/-- Extending a type by well-named members keeps a table well-named. -/
theorem allWellNamed_enlarge {table : TypeTable} (h : AllWellNamed table) {definition : Definition}
    (hdefinition : definition.WellNamed) : AllWellNamed (enlarge table definition) := by
  cases definition with
  | extension name more =>
    intro other hother
    obtain ⟨type, htype, rfl⟩ := List.mem_map.1 hother
    split
    · exact (h type htype).extend hdefinition
    · exact h type htype
  | _ => exact h

/-- The schema of a text is well-named. -/
theorem wellNamed_of_definitions {text : String} {schema : Schema}
    (h : (Sdl.definitions text).map ofDefinitions = .ok schema) : schema.WellNamed := by
  obtain ⟨all, hdefinitions, rfl⟩ := exists_of_map_eq_ok h
  have hall := Sdl.wellNamed_definitions hdefinitions
  have hbuiltin : AllWellNamed TypeTable.builtin := by
    unfold AllWellNamed
    decide +kernel
  -- Definitions go into the table first and extensions after them, so there are two runs.
  have hdeclared : AllWellNamed (all.foldl declare TypeTable.builtin) := by
    refine List.foldlRecOn (motive := AllWellNamed) all declare hbuiltin ?_
    intro table htable definition hmem
    exact allWellNamed_declare htable (hall definition hmem)
  refine List.foldlRecOn (motive := AllWellNamed) all enlarge hdeclared ?_
  intro table htable definition hmem
  exact allWellNamed_enlarge htable (hall definition hmem)

end Schema

end ActionForge
