import ActionForge.Proofs.Resolution
import ActionForge.Sdl.Token

/-!
# Names

A name is a letter or underscore followed by letters, digits and underscores. Nothing in a name has a
meaning in a template text or in a path, and writing a name in camel case adds no other characters. In a
well-named schema types, members and arguments have names of this form.
-/

namespace ActionForge

open Sdl (startsName continuesName)

/-! ## Characters of names -/

/-- Whether a text is a name. -/
def isName (text : String) : Bool :=
  match text.toList with
  | [] => false
  | c :: rest => startsName c && rest.all continuesName

/-- What may start a name may also go on with one. -/
theorem continuesName_of_startsName {c : Char} (h : startsName c) : continuesName c := by
  simp only [startsName, continuesName, Char.isAlphanum, Bool.or_eq_true, decide_eq_true_eq] at h ⊢
  rcases h with h | h
  · exact .inl h
  · exact .inr (.inl h)

/-- A name starts with one of the first kind of character and goes on with the second. -/
theorem isName_iff {text : String} :
    isName text ↔ ∃ c rest, text.toList = c :: rest ∧ startsName c ∧
      ∀ d ∈ rest, continuesName d := by
  unfold isName
  cases text.toList with
  | nil => simp
  | cons c rest => simp

/-- Every character of a name may stand in a name. -/
theorem continuesName_of_mem {text : String} (h : isName text) {c : Char} (hc : c ∈ text.toList) :
    continuesName c := by
  obtain ⟨first, rest, htext, hfirst, hrest⟩ := isName_iff.1 h
  rw [htext] at hc
  rcases List.mem_cons.1 hc with rfl | hc
  · exact continuesName_of_startsName hfirst
  · exact hrest c hc

/-- A mark that no name holds. -/
theorem notMem_of_isName {text : String} (h : isName text) {c : Char} (hc : continuesName c = false) :
    c ∉ text.toList := by
  intro hmem
  rw [continuesName_of_mem h hmem] at hc
  cases hc

/-- Characters of names are ASCII. -/
theorem toNat_lt_of_continuesName {c : Char} (h : continuesName c) : c.toNat < 128 := by
  -- The ranges of letters and digits are written out, so that they can be compared as numbers.
  have hranges : continuesName c = (decide (c = '_') ||
      (decide ('A'.val ≤ c.val ∧ c.val ≤ 'Z'.val) ||
        decide ('a'.val ≤ c.val) && decide (c.val ≤ 'z'.val) ||
        decide ('0'.val ≤ c.val) && decide (c.val ≤ '9'.val))) := rfl
  simp only [hranges, Bool.or_eq_true, Bool.and_eq_true, decide_eq_true_eq,
    UInt32.le_iff_toNat_le] at h
  have hval : c.val.toNat = c.toNat := rfl
  have hlast : 'Z'.val.toNat = 90 ∧ 'z'.val.toNat = 122 ∧ '9'.val.toNat = 57 := ⟨rfl, rfl, rfl⟩
  rcases h with rfl | h
  · decide
  · omega

/-! ## Names in camel case -/

/-- What holds of all ASCII characters holds of all characters of names. -/
theorem forall_of_continuesName {p : Char → Prop} (hp : ∀ n < 128, p (Char.ofNat n)) {c : Char}
    (h : continuesName c) : p c := by
  have hc := hp c.toNat (toNat_lt_of_continuesName h)
  rwa [Char.ofNat_toNat] at hc

/-- What holds of the names among the ASCII characters holds of all characters of names. -/
theorem continuesName_map {f : Char → Char}
    (hf : ∀ n < 128, continuesName (Char.ofNat n) → continuesName (f (Char.ofNat n))) {c : Char}
    (h : continuesName c) : continuesName (f c) :=
  forall_of_continuesName (p := fun c => continuesName c → continuesName (f c)) hf h h

/-- Capitals of characters of names are such characters. -/
theorem continuesName_toUpper {c : Char} (h : continuesName c) : continuesName c.toUpper :=
  continuesName_map (by decide) h

/-- Small letters of characters of names are such characters. -/
theorem continuesName_toLower {c : Char} (h : continuesName c) : continuesName c.toLower :=
  continuesName_map (by decide) h

namespace Text

/-- Pieces have the characters of the text. -/
theorem mem_of_mem_piecesFrom {divides : Char → Bool} {read text piece : List Char} {c : Char}
    (hpiece : piece ∈ piecesFrom divides read text) (hc : c ∈ piece) : c ∈ read ∨ c ∈ text := by
  induction text generalizing read with
  | nil =>
    obtain rfl := List.mem_singleton.1 hpiece
    exact .inl (List.mem_reverse.1 hc)
  | cons d rest ih =>
    rw [piecesFrom] at hpiece
    split at hpiece
    · rcases List.mem_cons.1 hpiece with rfl | hpiece
      · exact .inl (List.mem_reverse.1 hc)
      · rcases ih hpiece with h | h
        · cases h
        · exact .inr (List.mem_cons_of_mem d h)
    · rcases ih hpiece with h | h
      · rcases List.mem_cons.1 h with rfl | h
        · exact .inr List.mem_cons_self
        · exact .inl h
      · exact .inr (List.mem_cons_of_mem d h)

/-- The words that a piece is split into have its characters and no others. -/
theorem mem_of_mem_splitPiece {casing : Casing} {read text word : List Char} {c : Char}
    (hword : word ∈ splitPiece casing read text) (hc : c ∈ word) : c ∈ read ∨ c ∈ text := by
  fun_induction splitPiece casing read text with
  | case1 => cases hword
  | case2 casing read d =>
    obtain rfl := List.mem_singleton.1 hword
    rcases List.mem_cons.1 (List.mem_reverse.1 hc) with rfl | h
    · exact .inr List.mem_cons_self
    · exact .inl h
  | case3 casing read d next rest _ ih =>
    rcases List.mem_cons.1 hword with rfl | hword
    · rcases List.mem_cons.1 (List.mem_reverse.1 hc) with rfl | h
      · exact .inr List.mem_cons_self
      · exact .inl h
    · rcases ih hword with h | h
      · cases h
      · exact .inr (List.mem_cons_of_mem d h)
  -- The word ends before this character, which starts the next one.
  | case4 casing read d next rest _ _ ih =>
    rcases List.mem_cons.1 hword with rfl | hword
    · exact .inl (List.mem_reverse.1 hc)
    · rcases ih hword with h | h
      · exact .inr (by simp [List.mem_singleton.1 h])
      · exact .inr (List.mem_cons_of_mem d h)
  | case5 casing read d next rest _ _ ih =>
    rcases ih hword with h | h
    · rcases List.mem_cons.1 h with rfl | h
      · exact .inr List.mem_cons_self
      · exact .inl h
    · exact .inr (List.mem_cons_of_mem d h)

/-- The words of a name have the characters of the name. -/
theorem mem_of_mem_words {name word : List Char} {c : Char} (hword : word ∈ words name)
    (hc : c ∈ word) : c ∈ name := by
  obtain ⟨piece, hpiece, hword⟩ := List.mem_flatMap.1 hword
  have hpieces := (List.mem_filter.1 hpiece).1
  rcases mem_of_mem_splitPiece hword hc with h | h
  · cases h
  · rcases mem_of_mem_piecesFrom hpieces h with h | h
    · cases h
    · exact h

/-- A word in small letters has characters of names if the word has. -/
theorem continuesName_of_mem_lowerWord {word : List Char} (h : ∀ c ∈ word, continuesName c) {c : Char}
    (hc : c ∈ lowerWord word) : continuesName c := by
  have hlower : ∀ d ∈ word, lowerChar d = [d.toLower] := by
    intro d hd
    rw [lowerChar, if_pos (toNat_lt_of_continuesName (h d hd))]
  fun_induction lowerWord word with
  | case1 => cases hc
  -- The letter with two small forms is no character of names.
  | case2 => exact absurd (h 'Σ' List.mem_cons_self) (by decide)
  | case3 d hd =>
    rw [hlower d List.mem_cons_self, List.mem_singleton] at hc
    rw [hc]
    exact continuesName_toLower (h d List.mem_cons_self)
  | case4 d rest _ ih =>
    rcases List.mem_append.1 hc with hc | hc
    · rw [hlower d List.mem_cons_self, List.mem_singleton] at hc
      rw [hc]
      exact continuesName_toLower (h d List.mem_cons_self)
    · exact ih (fun e he => h e (List.mem_cons_of_mem d he)) hc
        fun e he => hlower e (List.mem_cons_of_mem d he)

/-- A word with a capital has characters of names if the word has. -/
theorem continuesName_of_mem_capitalWord {word : List Char} (h : ∀ c ∈ word, continuesName c) {c : Char}
    (hc : c ∈ capitalWord word) : continuesName c := by
  cases word with
  | nil => cases hc
  | cons d rest =>
    rcases List.mem_append.1 hc with hc | hc
    · rw [upperChar, if_pos (toNat_lt_of_continuesName (h d List.mem_cons_self)),
        List.mem_singleton] at hc
      rw [hc]
      exact continuesName_toUpper (h d List.mem_cons_self)
    · exact continuesName_of_mem_lowerWord (fun e he => h e (List.mem_cons_of_mem d he)) hc

/-- Camel case has no characters but those that names have. -/
theorem continuesName_of_mem_upperCamelCase {name : String} (h : isName name) {c : Char}
    (hc : c ∈ (upperCamelCase name).toList) : continuesName c := by
  rw [upperCamelCase, String.toList_ofList] at hc
  obtain ⟨word, hword, hc⟩ := List.mem_flatMap.1 hc
  exact continuesName_of_mem_capitalWord
    (fun d hd => continuesName_of_mem h (mem_of_mem_words hword hd)) hc

end Text

/-! ## Well-named schemas -/

/-- The type has a name, and so has all that it declares. -/
def NamedType.WellNamed (type : NamedType) : Prop :=
  isName type.name ∧
    match type.kind with
    | .object fields | .interface fields =>
      ∀ field ∈ fields, isName field.name ∧ ∀ argument ∈ field.arguments, isName argument.name
    | .input fields => ∀ field ∈ fields, isName field.name
    | .scalar | .union _ | .enum _ => True

/-- All types of the schema are well-named. -/
def Schema.WellNamed (schema : Schema) : Prop := ∀ type ∈ schema.types.types, type.WellNamed

instance (type : NamedType) : Decidable type.WellNamed :=
  match type with
  | ⟨_, _, .object _⟩ | ⟨_, _, .interface _⟩ | ⟨_, _, .input _⟩ | ⟨_, _, .scalar⟩ | ⟨_, _, .union _⟩
  | ⟨_, _, .enum _⟩ => inferInstanceAs (Decidable (_ ∧ _))

instance (schema : Schema) : Decidable schema.WellNamed :=
  inferInstanceAs (Decidable (∀ type ∈ schema.types.types, type.WellNamed))

namespace Schema

/-- A type that is found in a schema is one of its types. -/
theorem mem_types_of_get? {schema : Schema} {name : String} {type : NamedType}
    (h : schema.get? name = some type) : type ∈ schema.types.types := List.mem_of_find?_eq_some h

/-- The members of a type have names in a well-named schema. -/
theorem isName_of_mem_membersOf {schema : Schema} (h : schema.WellNamed) {ref : TypeRef}
    {member : Member} (hmember : member ∈ schema.membersOf ref) : isName member.name := by
  unfold membersOf at hmember
  cases htype : schema.get? ref.innermost with
  | none => simp [htype] at hmember
  | some type =>
    obtain ⟨-, hkind⟩ := h type (mem_types_of_get? htype)
    rw [htype, Option.bind_some, NamedType.members?] at hmember
    cases hk : type.kind with
    | object fields | interface fields =>
      rw [hk] at hkind hmember
      obtain ⟨field, hfield, rfl⟩ := List.mem_map.1 hmember
      exact (hkind field hfield).1
    | input fields =>
      rw [hk] at hkind hmember
      exact hkind member hmember
    | scalar | union types | enum values => simp [hk] at hmember

/-- The root field of an operation has the name of the operation. -/
theorem name_of_operation? {schema : Schema} {kind : OperationKind} {operation : String}
    {root : FieldDef} (h : schema.operation? kind operation = some root) : root.name = operation := by
  simp only [operation?, Option.bind_eq_bind, Option.bind_eq_some_iff] at h
  obtain ⟨name, -, type, -, h⟩ := h
  split at h
  · simpa using List.find?_some h
  · cases h

/-- In a well-named schema root fields and their arguments have names. -/
theorem isName_of_operation? {schema : Schema} (hnames : schema.WellNamed) {kind : OperationKind}
    {operation : String} {root : FieldDef} (h : schema.operation? kind operation = some root) :
    isName root.name ∧ ∀ argument ∈ root.arguments, isName argument.name := by
  simp only [operation?, Option.bind_eq_bind, Option.bind_eq_some_iff] at h
  obtain ⟨name, -, type, htype, h⟩ := h
  obtain ⟨-, hkind⟩ := hnames type (mem_types_of_get? htype)
  split at h
  · rename_i fields hk
    rw [hk] at hkind
    exact hkind root (List.mem_of_find?_eq_some h)
  · cases h

end Schema

end ActionForge
