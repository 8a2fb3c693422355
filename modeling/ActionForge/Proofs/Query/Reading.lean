import ActionForge.Proofs.Query.Syntax

/-!
# Reading selections

A recursive descent that decides by the next tokens alone. The main statement is `readNode_tokens`: the
tokens of a well-formed selection are read as that selection, whatever follows that does not carry it
on. So the grammar is unambiguous, and what a text selects is well-defined. Each call takes one unit of
fuel, and twice as many units as there are tokens are enough.
-/

namespace ActionForge.Query

open Sdl (Token)

/-! ## Values -/

mutual

/-- Reads a value. -/
def readValue : Nat → List Token → Option (Value × List Token)
  | 0, _ => none
  | fuel + 1, tokens =>
    match tokens with
    | .punctuation '$' :: .name name :: rest => some (.reference name, rest)
    | .integer text :: rest => some (.integer text, rest)
    | .float text :: rest => some (.float text, rest)
    | .quoted content :: rest => some (.text content, rest)
    | .block content :: rest => some (.block content, rest)
    | .name name :: rest => some (.ofName name, rest)
    | .punctuation '[' :: rest =>
      (readValues fuel rest).map fun (items, rest) => (.list items, rest)
    | .punctuation '\x7b' :: rest =>
      (readMembers fuel '\x7d' rest).map fun (members, rest) => (.object members, rest)
    | _ => none

/-- Reads values up to a closing bracket. -/
def readValues : Nat → List Token → Option (List Value × List Token)
  | 0, _ => none
  | _ + 1, .punctuation ']' :: rest => some ([], rest)
  | fuel + 1, tokens => do
    let (first, rest) ← readValue fuel tokens
    let (others, rest) ← readValues fuel rest
    return (first :: others, rest)

/-- Reads named values up to a closing mark. -/
def readMembers : Nat → Char → List Token → Option (Arguments × List Token)
  | 0, _, _ => none
  | _ + 1, close, .punctuation mark :: rest => if mark = close then some ([], rest) else none
  | fuel + 1, close, .name name :: .punctuation ':' :: rest => do
    let (first, rest) ← readValue fuel rest
    let (others, rest) ← readMembers fuel close rest
    return ((name, first) :: others, rest)
  | _, _, _ => none

end

/-- Reads arguments in parentheses, if there are parentheses. -/
def readArguments (fuel : Nat) : List Token → Option (Arguments × List Token)
  | .punctuation '(' :: rest =>
    (readMembers fuel ')' rest).bind fun (arguments, rest) =>
      if arguments.isEmpty then none else some (arguments, rest)
  | tokens => some ([], tokens)

/-! ## Selections -/

/-- Reads directives. -/
def readDirectives : Nat → List Token → Option (List Directive × List Token)
  | 0, _ => none
  | fuel + 1, .punctuation '@' :: .name name :: rest => do
    let (arguments, rest) ← readArguments fuel rest
    let (others, rest) ← readDirectives fuel rest
    return (⟨name, arguments⟩ :: others, rest)
  | _ + 1, tokens => some ([], tokens)

/-- Reads what stands before directives and selections. -/
def readHead (fuel : Nat) : List Token → Option (Head × List Token)
  | .spread :: .name name :: rest =>
    if name = "on" then
      match rest with
      | .name type :: rest => some (.inline (some type), rest)
      | _ => none
    else some (.spread name, rest)
  | .spread :: rest => some (.inline none, rest)
  | .name label :: .punctuation ':' :: .name name :: rest =>
    (readArguments fuel rest).map fun (arguments, rest) => (.field (some label) name arguments, rest)
  | .name name :: rest =>
    (readArguments fuel rest).map fun (arguments, rest) => (.field none name arguments, rest)
  | _ => none

mutual

/-- Reads a selection. -/
def readNode : Nat → List Token → Option (Node × List Token)
  | 0, _ => none
  | fuel + 1, tokens => do
    let (head, rest) ← readHead fuel tokens
    let (directives, rest) ← readDirectives fuel rest
    let (selections, rest) ← readSet fuel rest
    if head.admits selections then some (⟨head, directives, selections⟩, rest) else none

/-- Reads selections in braces, if there are braces. -/
def readSet : Nat → List Token → Option (List Node × List Token)
  | 0, _ => none
  | fuel + 1, .punctuation '\x7b' :: rest => do
    let (first, rest) ← readNode fuel rest
    let (others, rest) ← readNodes fuel rest
    return (first :: others, rest)
  | _ + 1, tokens => some ([], tokens)

/-- Reads selections up to a closing brace. -/
def readNodes : Nat → List Token → Option (List Node × List Token)
  | 0, _ => none
  | _ + 1, .punctuation '\x7d' :: rest => some ([], rest)
  | fuel + 1, tokens => do
    let (first, rest) ← readNode fuel tokens
    let (others, rest) ← readNodes fuel rest
    return (first :: others, rest)

end

/-- Reads one field with a closing brace after it, at the end of a text. -/
def readField (tokens : List Token) : Option Node :=
  match readNode (2 * tokens.length + 1) tokens with
  | some (⟨.field label? name arguments, directives, selections⟩, [.punctuation '\x7d', .done]) =>
    some ⟨.field label? name arguments, directives, selections⟩
  | _ => none

/-- The text is one field with a closing brace after it: the grammar derives its tokens from the tree, and
they are read as that tree. -/
structure Parses (text : String) (node : Node) : Prop where
  wellFormed : node.WellFormed
  derived : (Sdl.tokens text).map Sdl.Lexeme.token = node.tokens ++ [.punctuation '\x7d', .done]
  read : readField ((Sdl.tokens text).map Sdl.Lexeme.token) = some node

/-! ## Values are read as they were -/

/-- A name that is not kept for another value is an enum value. -/
theorem ofName_of_notMem {name : String} (h : name ∉ ["true", "false", "null"]) :
    Value.ofName name = .enum name := by
  simp only [List.mem_cons, List.not_mem_nil, or_false, not_or] at h
  rw [Value.ofName, if_neg h.1, if_neg h.2.1, if_neg h.2.2]

/-- Tokens that do not close a list of values. -/
theorem readValues_succ {fuel : Nat} {value : Value} {tokens : List Token} :
    readValues (fuel + 1) (value.tokens ++ tokens) = (do
      let (first, rest) ← readValue fuel (value.tokens ++ tokens)
      let (others, rest) ← readValues fuel rest
      return (first :: others, rest)) := by
  rw [readValues]
  -- No value starts with a closing bracket.
  intro rest h
  cases value <;> simp [Value.tokens] at h

mutual

/-- The tokens of a value are read as that value, whatever follows. -/
theorem readValue_tokens : ∀ (fuel : Nat) (value : Value) (rest : List Token), value.WellFormed →
    2 * value.tokens.length < fuel + 1 → readValue fuel (value.tokens ++ rest) = some (value, rest)
  | 0, value, rest, _, hfuel => by
    have hlength := length_tokens_pos value
    omega
  | fuel + 1, value, rest, h, hfuel => by
    cases value with
    | reference name => rfl
    | integer text => rfl
    | float text => rfl
    | text content => rfl
    | block content => rfl
    | boolean b => cases b <;> rfl
    | null => rfl
    | enum name => simp [Value.tokens, readValue, ofName_of_notMem h]
    | list items =>
      -- The two brackets pay for the call that reads between them.
      simp only [Value.tokens, List.length_append, List.length_cons, List.length_nil] at hfuel
      have hitems := readValues_tokens fuel items rest h (by omega)
      simp [Value.tokens, readValue, hitems]
    | object members =>
      simp only [Value.tokens, List.length_append, List.length_cons, List.length_nil] at hfuel
      have hmembers := readMembers_tokens fuel '\x7d' members rest h (by omega)
      simp [Value.tokens, readValue, hmembers]

/-- The tokens of values are read up to the bracket that closes their list. -/
theorem readValues_tokens : ∀ (fuel : Nat) (items : List Value) (rest : List Token),
    ValuesWellFormed items → 2 * (valuesTokens items).length + 1 < fuel + 1 →
      readValues fuel (valuesTokens items ++ .punctuation ']' :: rest) = some (items, rest)
  | 0, items, rest, _, hfuel => by omega
  | fuel + 1, [], rest, _, _ => rfl
  | fuel + 1, item :: items, rest, ⟨hitem, hitems⟩, hfuel => by
    have hlength := length_tokens_pos item
    simp only [valuesTokens, List.length_append] at hfuel
    rw [valuesTokens, List.append_assoc, readValues_succ,
      readValue_tokens fuel item _ hitem (by omega)]
    simp [readValues_tokens fuel items rest hitems (by omega)]

/-- The tokens of named values are read up to the mark that closes them. -/
theorem readMembers_tokens : ∀ (fuel : Nat) (close : Char) (members : Arguments) (rest : List Token),
    MembersWellFormed members → 2 * (membersTokens members).length + 1 < fuel + 1 →
      readMembers fuel close (membersTokens members ++ .punctuation close :: rest) =
        some (members, rest)
  | 0, _, members, rest, _, hfuel => by omega
  | fuel + 1, close, [], rest, _, _ => by simp [membersTokens, readMembers]
  | fuel + 1, close, (name, value) :: members, rest, ⟨hvalue, hmembers⟩, hfuel => by
    have hlength := length_tokens_pos value
    simp only [membersTokens, List.length_append, List.length_cons] at hfuel
    simp only [membersTokens, List.cons_append, List.append_assoc, readMembers]
    rw [readValue_tokens fuel value _ hvalue (by omega)]
    simp [readMembers_tokens fuel close members rest hmembers (by omega)]

end

/-! ## Selections are read as they were -/

/-- No token that carries on a selection comes next. -/
def Ends (rest : List Token) : Prop :=
  ∀ mark ∈ ['(', ':', '@', '\x7b'], ∀ tail, rest ≠ .punctuation mark :: tail

/-- Arguments have two tokens for their parentheses. -/
theorem length_argumentsTokens {arguments : Arguments} (h : arguments ≠ []) :
    (argumentsTokens arguments).length = (membersTokens arguments).length + 2 := by
  rw [argumentsTokens, if_neg (by simpa using h)]
  simp

/-- Arguments are read as they were, and none are read where no parenthesis opens. -/
theorem readArguments_tokens {fuel : Nat} {arguments : Arguments} {rest : List Token}
    (h : MembersWellFormed arguments) (hrest : ∀ tail, rest ≠ .punctuation '(' :: tail)
    (hfuel : 2 * (argumentsTokens arguments).length < fuel + 3) :
    readArguments fuel (argumentsTokens arguments ++ rest) = some (arguments, rest) := by
  by_cases harguments : arguments = []
  · subst harguments
    exact readArguments.eq_2 fuel rest hrest
  · have hlength := length_argumentsTokens harguments
    rw [argumentsTokens, if_neg (by simpa using harguments)]
    simp only [List.cons_append, List.append_assoc, List.nil_append, readArguments,
      readMembers_tokens fuel ')' arguments rest h (by omega)]
    simp [harguments]

/-- Directives are read up to the first token that begins no other one. -/
theorem readDirectives_tokens : ∀ (fuel : Nat) (directives : List Directive) (rest : List Token),
    (∀ directive ∈ directives, MembersWellFormed directive.arguments) →
    (∀ mark ∈ ['(', '@'], ∀ tail, rest ≠ .punctuation mark :: tail) →
    2 * (directivesTokens directives).length < fuel →
      readDirectives fuel (directivesTokens directives ++ rest) = some (directives, rest)
  | 0, _, _, _, _, hfuel => by omega
  | fuel + 1, [], rest, _, hrest, _ => by
    rw [directivesTokens, List.nil_append, readDirectives]
    intro name tail
    exact hrest '@' (by simp) (.name name :: tail)
  | fuel + 1, ⟨name, arguments⟩ :: directives, rest, h, hrest, hfuel => by
    obtain ⟨hdirective, hdirectives⟩ := List.forall_mem_cons.1 h
    -- A parenthesis next would be taken for arguments of a directive that has none.
    have hfollow : ∀ tail, directivesTokens directives ++ rest ≠ .punctuation '(' :: tail := by
      intro tail
      cases directives with
      | nil => exact hrest '(' (by simp) tail
      | cons directive rest => simp [directivesTokens]
    simp only [directivesTokens, List.length_cons, List.length_append] at hfuel
    have harguments : readArguments fuel (argumentsTokens arguments ++
        (directivesTokens directives ++ rest)) = some (arguments, directivesTokens directives ++ rest) :=
      readArguments_tokens hdirective hfollow (by omega)
    simp only [directivesTokens, List.cons_append, List.append_assoc, readDirectives, harguments]
    simp [readDirectives_tokens fuel directives rest hdirectives hrest (by omega)]

/-- A head is read as it was when nothing after it carries it on. -/
theorem readHead_tokens {fuel : Nat} {head : Head} {selections : List Node} {rest : List Token}
    (hadmits : head.admits selections) (h : MembersWellFormed head.arguments)
    (hrest : ∀ mark ∈ ['(', ':'], ∀ tail, rest ≠ .punctuation mark :: tail)
    (hname : selections ≠ [] → ∀ name tail, rest ≠ .name name :: tail)
    (hfuel : 2 * head.tokens.length < fuel + 3) :
    readHead fuel (head.tokens ++ rest) = some (head, rest) := by
  cases head with
  | field label? name arguments =>
    have harguments : 2 * (argumentsTokens arguments).length < fuel + 3 →
        readArguments fuel (argumentsTokens arguments ++ rest) = some (arguments, rest) :=
      readArguments_tokens h (hrest '(' (by simp))
    cases label? with
    | some label =>
      simp only [Head.tokens, List.length_cons] at hfuel
      simp [Head.tokens, readHead, harguments (by omega)]
    | none =>
      -- A colon next would make the name a label.
      have hcolon : ∀ name tail, argumentsTokens arguments ++ rest ≠
          .punctuation ':' :: .name name :: tail := by
        intro name tail
        by_cases hnil : arguments = []
        · subst hnil
          exact hrest ':' (by simp) _
        · simp [argumentsTokens, hnil]
      simp only [Head.tokens, List.length_cons] at hfuel
      rw [Head.tokens, List.cons_append, readHead, harguments (by omega)]
      · rfl
      · exact hcolon
  | spread fragment =>
    simp only [Head.admits, Bool.and_eq_true, decide_eq_true_eq] at hadmits
    simp [Head.tokens, readHead, hadmits.1]
  | inline type? =>
    cases type? with
    | some type => rfl
    | none =>
      -- A name next would make it the spread of a fragment.
      have hselections : selections ≠ [] := by simpa [Head.admits] using hadmits
      rw [Head.tokens, List.cons_append, List.nil_append, readHead]
      exact hname hselections

/-- What follows a head does not carry it on. -/
theorem ne_mark_of_follows {directives : List Directive} {selections : List Node} {rest : List Token}
    (hrest : Ends rest) {mark : Char} (hmark : mark ∈ ['(', ':']) (tail : List Token) :
    directivesTokens directives ++ setTokens selections ++ rest ≠ .punctuation mark :: tail := by
  have hmarks : mark ≠ '@' ∧ mark ≠ '\x7b' := by
    simp only [List.mem_cons, List.not_mem_nil, or_false] at hmark
    rcases hmark with rfl | rfl <;> decide
  cases directives with
  | nil =>
    cases selections with
    | nil => exact hrest mark (List.mem_append_left ['@', '\x7b'] hmark) tail
    | cons node nodes => simp [directivesTokens, setTokens, hmarks.2.symm]
  | cons directive directives => simp [directivesTokens, hmarks.1.symm]

/-- No name follows a head that has selections. -/
theorem ne_name_of_follows {directives : List Directive} {selections : List Node} {rest : List Token}
    (h : selections ≠ []) (name : String) (tail : List Token) :
    directivesTokens directives ++ setTokens selections ++ rest ≠ .name name :: tail := by
  cases directives with
  | nil =>
    cases selections with
    | nil => exact absurd rfl h
    | cons node nodes => simp [directivesTokens, setTokens]
  | cons directive directives => simp [directivesTokens]

/-- A selection, and the brace after the last one, do not carry on the selection before. -/
theorem ends_nodesTokens (nodes : List Node) (rest : List Token) :
    Ends (nodesTokens nodes ++ .punctuation '\x7d' :: rest) := by
  intro mark hmark tail
  cases nodes with
  | nil =>
    rintro ⟨⟩
    simp at hmark
  | cons node nodes =>
    -- Every selection starts with a name or a spread.
    rw [nodesTokens, Node.tokens_eq]
    cases node.head with
    | field label? name arguments => cases label? <;> simp [Head.tokens]
    | spread fragment => simp [Head.tokens]
    | inline type? => cases type? <;> simp [Head.tokens]

/-- Tokens that do not close a set of selections. -/
theorem readNodes_succ {fuel : Nat} {node : Node} {tokens : List Token} :
    readNodes (fuel + 1) (node.tokens ++ tokens) = (do
      let (first, rest) ← readNode fuel (node.tokens ++ tokens)
      let (others, rest) ← readNodes fuel rest
      return (first :: others, rest)) := by
  rw [readNodes]
  intro rest h
  rw [Node.tokens_eq] at h
  -- No selection starts with a closing brace.
  cases hhead : node.head with
  | field label? name arguments => cases label? <;> simp [hhead, Head.tokens] at h
  | spread fragment => simp [hhead, Head.tokens] at h
  | inline type? => cases type? <;> simp [hhead, Head.tokens] at h

mutual

/-- The tokens of a selection are read as that selection. -/
theorem readNode_tokens : ∀ (fuel : Nat) (node : Node) (rest : List Token), node.WellFormed →
    Ends rest → 2 * node.tokens.length < fuel + 1 →
      readNode fuel (node.tokens ++ rest) = some (node, rest)
  | 0, node, rest, _, _, hfuel => by
    have hlength := node.length_tokens_pos
    omega
  | fuel + 1, ⟨head, directives, selections⟩, rest, ⟨hadmits, hhead, hdirectives, hnodes⟩, hrest,
      hfuel => by
    have hlength := head.length_tokens_pos
    simp only [Node.tokens_eq, List.length_append] at hfuel
    -- Each part is read up to the next one, which must not carry it on.
    have hset : ∀ mark ∈ ['(', '@'], ∀ tail,
        setTokens selections ++ rest ≠ .punctuation mark :: tail := by
      intro mark hmark tail
      simp only [List.mem_cons, List.not_mem_nil, or_false] at hmark
      cases selections with
      | nil => exact hrest mark (by rcases hmark with rfl | rfl <;> simp) tail
      | cons node nodes => rcases hmark with rfl | rfl <;> simp [setTokens]
    have hfollows : directivesTokens directives ++ (setTokens selections ++ rest) =
        directivesTokens directives ++ setTokens selections ++ rest :=
      (List.append_assoc ..).symm
    rw [Node.tokens_eq, readNode, List.append_assoc, List.append_assoc,
      readHead_tokens hadmits hhead
        (fun mark hmark tail => hfollows ▸ ne_mark_of_follows hrest hmark tail)
        (fun h name tail => hfollows ▸ ne_name_of_follows h name tail) (by omega)]
    simp only [Option.bind_eq_bind, Option.bind_some,
      readDirectives_tokens fuel directives _ hdirectives hset (by omega),
      readSet_tokens fuel selections rest hnodes (fun tail => hrest '\x7b' (by simp) tail) (by omega),
      hadmits, if_true]

/-- Selections in braces are read as they were, and none are read where no brace opens. -/
theorem readSet_tokens : ∀ (fuel : Nat) (nodes : List Node) (rest : List Token),
    NodesWellFormed nodes → (∀ tail, rest ≠ .punctuation '\x7b' :: tail) →
    2 * (setTokens nodes).length < fuel →
      readSet fuel (setTokens nodes ++ rest) = some (nodes, rest)
  | 0, _, _, _, _, hfuel => by omega
  | fuel + 1, [], rest, _, hrest, _ => by
    rw [setTokens, List.nil_append, readSet]
    exact hrest
  | fuel + 1, node :: nodes, rest, ⟨hnode, hnodes⟩, _, hfuel => by
    simp only [setTokens, List.length_append, List.length_cons, List.length_nil] at hfuel
    simp only [setTokens, List.cons_append, List.append_assoc, List.nil_append, readSet]
    rw [readNode_tokens fuel node _ hnode (ends_nodesTokens nodes rest) (by omega)]
    simp [readNodes_tokens fuel nodes rest hnodes (by omega)]

/-- Selections are read up to the brace that closes them. -/
theorem readNodes_tokens : ∀ (fuel : Nat) (nodes : List Node) (rest : List Token),
    NodesWellFormed nodes → 2 * (nodesTokens nodes).length + 1 < fuel + 1 →
      readNodes fuel (nodesTokens nodes ++ .punctuation '\x7d' :: rest) = some (nodes, rest)
  | 0, _, _, _, hfuel => by omega
  | fuel + 1, [], rest, _, _ => rfl
  | fuel + 1, node :: nodes, rest, ⟨hnode, hnodes⟩, hfuel => by
    have hlength := node.length_tokens_pos
    simp only [nodesTokens, List.length_append] at hfuel
    rw [nodesTokens, List.append_assoc, readNodes_succ,
      readNode_tokens fuel node _ hnode (ends_nodesTokens nodes rest) (by omega)]
    simp [readNodes_tokens fuel nodes rest hnodes (by omega)]

end

/-- A field with a closing brace after it is read as that field. -/
theorem readField_tokens {label? : Option String} {name : String} {arguments : Arguments}
    {directives : List Directive} {selections : List Node}
    (h : Node.WellFormed ⟨.field label? name arguments, directives, selections⟩) :
    readField (Node.tokens ⟨.field label? name arguments, directives, selections⟩ ++
        [.punctuation '\x7d', .done]) =
      some ⟨.field label? name arguments, directives, selections⟩ := by
  have hends : Ends [.punctuation '\x7d', .done] := ends_nodesTokens [] [.done]
  rw [readField, readNode_tokens _ _ _ h hends (by simp only [List.length_append]; omega)]
  rfl

end ActionForge.Query
