import ActionForge.Proofs.Form.Written
import ActionForge.Script

/-!
# Values embedded in scripts

The module and the test of an action hold JSON values after property names. Each of them can be read back from
the script by a reader that knows how its line starts: the headers from the first such line, the fields, the
sample and the test bundle from the last (`embedded_readsBack`). No line of an embedded value starts like one
of these, since such a line goes on with more blanks or with a closing bracket, and names and labels stand in
literals, which have no line breaks in them.
-/

namespace ActionForge

open Json (Layout Legible movedIn newLine EndsNumber readStart)

namespace Script

/-! ## Places in a text -/

/-- What follows the mark, wherever in the text it stands. -/
def after (mark text : List Char) : List (List Char) := text.tails.filterMap mark.isPrefixOf?

/-- A mark is followed by what follows it at the start of a text or further on. -/
theorem after_cons (mark : List Char) (c : Char) (rest : List Char) :
    after mark (c :: rest) = (mark.isPrefixOf? (c :: rest)).toList ++ after mark rest := by
  rw [after, List.tails_cons, List.filterMap_cons, after]
  cases mark.isPrefixOf? (c :: rest) <;> rfl

/-- What follows a mark in the rest of a text follows it in the text, last of all. -/
theorem after_suffix (mark front rest : List Char) : after mark rest <:+ after mark (front ++ rest) := by
  induction front with
  | nil => exact List.suffix_rfl
  | cons c front ih =>
    rw [List.cons_append, after_cons]
    exact ih.trans (List.suffix_append ..)

/-- No mark starts in the text, whatever follows it. -/
def Passes (mark text : List Char) : Prop := ∀ rest, after mark (text ++ rest) = after mark rest

variable {mark text more : List Char}

/-- In an empty text no mark starts. -/
theorem passes_nil (mark : List Char) : Passes mark [] := fun _ => rfl

/-- Texts that are passed can be put together, since neither matters to the other. -/
theorem Passes.append (h : Passes mark text) (h' : Passes mark more) : Passes mark (text ++ more) := by
  intro rest
  rw [List.append_assoc, h, h']

/-- A text is passed when its pieces are. -/
theorem passes_flatMap {pieces : List String} (h : ∀ piece ∈ pieces, Passes mark piece.toList) :
    Passes mark (pieces.flatMap String.toList) := by
  induction pieces with
  | nil => exact passes_nil mark
  | cons piece rest ih =>
    obtain ⟨hpiece, hrest⟩ := List.forall_mem_cons.1 h
    exact hpiece.append (ih hrest)

/-- The texts differ in a character that both of them have. -/
def differs : List Char → List Char → Bool
  | c :: rest, d :: more => c != d || differs rest more
  | _, _ => false

/-- A text that differs from a mark does not start with it, whatever follows the text. -/
theorem isPrefixOf?_of_differs (h : differs mark text) (rest : List Char) :
    mark.isPrefixOf? (text ++ rest) = none := by
  fun_induction differs mark text with
  | case1 c mark d text ih =>
    rw [List.cons_append, List.isPrefixOf?]
    by_cases hcd : c = d
    · subst hcd
      simpa using ih (by simpa using h)
    · simp [hcd]
  | case2 => cases h

/-- Putting the same before two texts does not hide where they differ. -/
theorem differs_append (front : List Char) (h : differs mark text) :
    differs (front ++ mark) (front ++ text) := by
  induction front with
  | nil => exact h
  | cons c front ih => simp [differs, ih]

/-- A mark that does not start at a character may be looked for after it. -/
theorem Passes.cons {c : Char} (hdiffers : differs mark (c :: text)) (h : Passes mark text) :
    Passes mark (c :: text) := by
  intro rest
  have hnone := isPrefixOf?_of_differs hdiffers rest
  rw [List.cons_append] at hnone ⊢
  rw [after_cons, hnone, h rest]
  rfl

/-- Whether no mark can start in the text, by its characters alone. -/
def isClear (mark : List Char) : List Char → Bool
  | [] => true
  | c :: rest => differs mark (c :: rest) && isClear mark rest

/-- A text is passed when no mark starts at any of its characters. -/
theorem passes_of_isClear (h : isClear mark text) : Passes mark text := by
  induction text with
  | nil => exact passes_nil mark
  | cons c rest ih =>
    rw [isClear, Bool.and_eq_true] at h
    exact .cons h.1 (ih h.2)

/-- A mark that starts with a line feed starts only where there is one. -/
theorem passes_of_notMem {start : List Char} (h : '\n' ∉ text) : Passes ('\n' :: start) text := by
  induction text with
  | nil => exact passes_nil _
  | cons c rest ih =>
    have hc : '\n' ≠ c := fun hc => h (hc ▸ List.mem_cons_self)
    exact .cons (by simp [differs, hc]) (ih fun hm => h (List.mem_cons_of_mem c hm))

/-- Every line of an embedded value but the first is moved in further than a line that starts with something
else than a closing bracket. -/
theorem passes_of_layout {indent : Nat} {c : Char} (hblank : c ≠ ' ') (hbracket : c ≠ ']' ∧ c ≠ '\x7d')
    (h : Layout text) : Passes ('\n' :: (List.replicate indent ' ' ++ c :: more)) (movedIn indent text) := by
  -- a new line in layout is passed when it goes on with another character than `c`
  have hline : ∀ {d : Char} {blanks : List Char}, c ≠ d → '\n' ∉ d :: blanks →
      Passes ('\n' :: (List.replicate indent ' ' ++ c :: more))
        ('\n' :: (List.replicate indent ' ' ++ d :: blanks)) := by
    intro d blanks hd hnone
    refine .cons ?_ (passes_of_notMem ?_)
    · have hdiffers : differs (c :: more) (d :: blanks) := by simp [differs, hd]
      exact differs_append ('\n' :: List.replicate indent ' ') hdiffers
    · rw [List.mem_append, not_or]
      exact ⟨by simp, hnone⟩
  have hinner : ∀ level, Passes ('\n' :: (List.replicate indent ' ' ++ c :: more))
      (movedIn indent (newLine (level + 1))) := by
    intro level
    rw [Json.movedIn_newLine, Nat.mul_succ, List.replicate_succ]
    exact hline hblank (by simp)
  -- The induction is on how a pretty text is laid out; only its line feeds need an argument.
  induction h with
  | nil => exact passes_nil _
  | @plain d rest _ hprintable _ ih =>
    have hd : '\n' ≠ d := by
      rintro rfl
      exact absurd hprintable (by decide)
    rw [Json.movedIn_cons indent hd.symm]
    exact .cons (by simp [differs, hd]) ih
  | literal s _ ih =>
    rw [Json.movedIn_append, Json.movedIn_of_notMem indent (Json.newline_notMem_quotedChars s)]
    exact (passes_of_notMem (Json.newline_notMem_quotedChars s)).append ih
  | inner level _ ih =>
    rw [Json.movedIn_append]
    exact (hinner level).append ih
  | @closing level d rest hd _ ih =>
    have hdc : c ≠ d ∧ '\n' ≠ d := by
      rcases hd with rfl | rfl
      · exact ⟨hbracket.1, by decide⟩
      · exact ⟨hbracket.2, by decide⟩
    rw [Json.movedIn_append, Json.movedIn_cons indent hdc.2.symm, List.append_cons _ d]
    refine Passes.append ?_ ih
    cases level with
    | zero =>
      have hfirst : movedIn indent (newLine 0) = '\n' :: List.replicate indent ' ' := by
        rw [Json.movedIn_newLine]
        exact congrArg ('\n' :: ·) (List.append_nil _)
      rw [hfirst]
      exact @hline d [] hdc.1 (by simpa using hdc.2)
    | succ level => exact (hinner level).append (passes_of_notMem (by simpa using hdc.2))

/-! ## Lines of a script -/

/-- What follows the start of a line, in each line but the first that starts so. -/
def linesAfter (start text : String) : List (List Char) := after ('\n' :: start.toList) text.toList

/-- A mark is followed by what follows it. -/
theorem after_mark {start : List Char} (h : '\n' ∉ start) (rest : List Char) :
    after ('\n' :: start) ('\n' :: (start ++ rest)) = rest :: after ('\n' :: start) rest := by
  have hprefix : ('\n' :: start).isPrefixOf? ('\n' :: (start ++ rest)) = some rest :=
    List.isPrefixOf?_eq_some_iff_append_eq.2 rfl
  rw [after_cons, hprefix, passes_of_notMem h]
  rfl

section Places

variable {start script : String} {front rest : List Char}

/-- In a script with the line the rest of it is found. -/
theorem mem_linesAfter (hscript : script.toList = front ++ '\n' :: (start.toList ++ rest))
    (h : '\n' ∉ start.toList) : rest ∈ linesAfter start script := by
  rw [linesAfter, hscript]
  refine (after_suffix _ front _).subset ?_
  rw [after_mark h]
  exact List.mem_cons_self

/-- The first line that starts so is the one that no other is passed before. -/
theorem head?_linesAfter (hscript : script.toList = front ++ '\n' :: (start.toList ++ rest))
    (h : '\n' ∉ start.toList) (hfront : Passes ('\n' :: start.toList) front) :
    (linesAfter start script).head? = some rest := by
  rw [linesAfter, hscript, hfront, after_mark h, List.head?_cons]

/-- The last line that starts so is the one that no other comes after. -/
theorem getLast?_linesAfter (hscript : script.toList = front ++ '\n' :: (start.toList ++ rest))
    (h : '\n' ∉ start.toList) (hrest : after ('\n' :: start.toList) rest = []) :
    (linesAfter start script).getLast? = some rest := by
  obtain ⟨before, hbefore⟩ := after_suffix ('\n' :: start.toList) front ('\n' :: (start.toList ++ rest))
  rw [linesAfter, hscript, ← hbefore, after_mark h, hrest, List.getLast?_concat]

end Places

/-- A line starts so that is moved in by `indent` blanks and goes on with neither a blank nor a closing
bracket. -/
structure IsStart (indent : Nat) (start : String) : Prop where
  line : '\n' ∉ start.toList
  indented : ∃ c rest, start.toList = List.replicate indent ' ' ++ c :: rest ∧
    c ≠ ' ' ∧ c ≠ ']' ∧ c ≠ '\x7d'

variable {indent : Nat} {start script : String} {front rest : List Char} {value : Json} {room : Nat}

/-- No line of an embedded value starts like a line that is moved in as far as the value. -/
theorem IsStart.passes (h : IsStart indent start) (value : Json) :
    Passes ('\n' :: start.toList) (value.embedded indent).toList := by
  obtain ⟨c, more, hstart, hblank, hbracket⟩ := h.indented
  rw [hstart, Json.toList_embedded_eq]
  exact passes_of_layout hblank hbracket (Json.layout_pretty value)

/-- The first line of the script that starts so goes on with the value. -/
def FirstHolds (room : Nat) (start script : String) (value : Json) : Prop :=
  (linesAfter start script).head?.map (readStart room) = some (.ok value)

/-- The last line of the script that starts so goes on with the value. -/
def LastHolds (room : Nat) (start script : String) (value : Json) : Prop :=
  (linesAfter start script).getLast?.map (readStart room) = some (.ok value)

/-- A script holds a value in a last line when the line starts as others do not and the value can be read. -/
theorem lastHolds (hscript : script.toList =
      front ++ '\n' :: (start.toList ++ ((value.embedded indent).toList ++ rest)))
    (hstart : IsStart indent start) (hrest : after ('\n' :: start.toList) rest = [])
    (hends : EndsNumber rest) (h : value.Legible) (hdepth : value.depth ≤ room) :
    LastHolds room start script value := by
  have hpassed : after ('\n' :: start.toList) ((value.embedded indent).toList ++ rest) = [] := by
    rw [hstart.passes, hrest]
  rw [LastHolds, getLast?_linesAfter hscript hstart.line hpassed, Option.map_some,
    Json.readStart_embedded h hdepth indent hends]

end Script

/-! ## Modules -/

open Script (linesAfter after Passes passes_of_isClear passes_of_notMem IsStart FirstHolds LastHolds)

namespace Action

variable (action : Action) (settings : Settings) (time : String)

/-- The headers as JSON. -/
def headersJson (settings : Settings) : Json := Settings.textsToJson settings.request.headers

/-- The input fields as JSON. -/
def inputsJson : Json := .array (inputsToJson action.inputs)

/-- The output fields as JSON. -/
def outputsJson : Json := .array (action.outputs.map OutputField.toJson)

/-- The sample of the records as JSON. -/
def sampleJson : Json := SampleData.toJson time action.outputSample

/-- Where the headers stand in a module. No line above them starts like theirs, unless the variable of the
address brings one in. -/
theorem exists_headers_moduleText : ∃ front rest,
    (action.moduleText settings time).toList =
      front ++ '\n' :: ("    headers: ".toList ++
        (((headersJson settings).embedded scriptIndent).toList ++ ',' :: rest)) ∧
    ('\n' ∉ settings.request.urlVariable.toList → Passes ('\n' :: "    headers: ".toList) front) := by
  obtain ⟨pieces, hpieces, hfirst⟩ : ∃ pieces : List String,
      action.moduleText settings time = String.join pieces ∧
        pieces.take 9 = ["const perform = async (z, bundle) => \x7b\n",
          "  const response = await z.request(\x7b\n",
          "    url: process.env.", settings.request.urlVariable, ",\n", "    method: 'POST',\n",
          "    headers: ", (headersJson settings).embedded scriptIndent, ",\n"] := ⟨_, rfl, rfl⟩
  refine ⟨["const perform = async (z, bundle) => \x7b", "\n  const response = await z.request(\x7b",
      "\n    url: process.env.", settings.request.urlVariable,
      ",\n    method: 'POST',"].flatMap String.toList,
    '\n' :: (pieces.drop 9).flatMap String.toList, ?_, fun hvariable => ?_⟩
  · rw [hpieces, String.toList_join]
    conv_lhs => rw [← List.take_append_drop 9 pieces, List.flatMap_append, hfirst]
    simp
  · -- Of the pieces above the headers only the variable of the address is not fixed.
    refine Script.passes_flatMap fun piece hpiece => ?_
    simp only [List.mem_cons, List.not_mem_nil, or_false] at hpiece
    rcases hpiece with rfl | rfl | rfl | rfl | rfl
    · exact passes_of_isClear (by decide)
    · exact passes_of_isClear (by decide)
    · exact passes_of_isClear (by decide)
    · exact passes_of_notMem hvariable
    · exact passes_of_isClear (by decide)

/-- Where the fields and the sample stand in a module. -/
theorem exists_fields_moduleText : ∃ front,
    (action.moduleText settings time).toList =
      front ++ '\n' :: ("    inputFields: ".toList ++ (((inputsJson action).embedded scriptIndent).toList ++
        (",\n    outputFields: ".toList ++ (((outputsJson action).embedded scriptIndent).toList ++
          (",\n    sample: ".toList ++ (((sampleJson action time).embedded scriptIndent).toList ++
            ",\n  \x7d,\n\x7d;\n".toList)))))) := by
  obtain ⟨pieces, hpieces, hlast⟩ : ∃ pieces : List String,
      action.moduleText settings time = String.join pieces ∧
        pieces.drop 45 = ["    perform,\n",
          "    inputFields: ", (inputsJson action).embedded scriptIndent, ",\n",
          "    outputFields: ", (outputsJson action).embedded scriptIndent, ",\n", "    sample: ",
          (sampleJson action time).embedded scriptIndent, ",\n", "  \x7d,\n",
          "\x7d;\n"] := ⟨_, rfl, rfl⟩
  refine ⟨(pieces.take 45).flatMap String.toList ++ "    perform,".toList, ?_⟩
  rw [hpieces, String.toList_join]
  conv_lhs => rw [← List.take_append_drop 45 pieces, List.flatMap_append, hlast]
  simp

/-- Where the bundle stands in a test. -/
theorem exists_bundle_testText : ∃ front,
    (action.testText settings time).toList =
      front ++ '\n' :: ("    const bundle = ".toList ++
        (((action.testBundle settings time).embedded scriptIndent).toList ++
          (";\n\n    const results = await appTester(App.".toList ++ (action.kind.sectionName.toList ++
            ('[' :: (quotedChars action.key.toList ++ ("].operation.perform, bundle);\n    ".toList ++
              ((expectation action.kind).toList ++ "\n  \x7d);\n\x7d);\n".toList)))))))) := by
  obtain ⟨pieces, hpieces, hlast⟩ : ∃ pieces : List String,
      action.testText settings time = String.join pieces ∧
        pieces.drop 16 = ["', async () => \x7b\n", "    const bundle = ",
          (action.testBundle settings time).embedded scriptIndent, ";\n", "\n",
          "    const results = await appTester(App.", action.kind.sectionName, "[", quoted action.key,
          "].operation.perform, bundle);\n", "    ", expectation action.kind, "\n", "  \x7d);\n",
          "\x7d);\n"] := ⟨_, rfl, rfl⟩
  refine ⟨(pieces.take 16).flatMap String.toList ++ "', async () => \x7b".toList, ?_⟩
  rw [hpieces, String.toList_join]
  conv_lhs => rw [← List.take_append_drop 16 pieces, List.flatMap_append, hlast]
  simp [quoted]

variable {action settings time} {room : Nat}

/-- Headers can be read when no name is given twice. -/
theorem legible_headersJson (h : settings.request.headers.Distinct) : (headersJson settings).Legible := by
  refine Json.legible_object_iff.2 ⟨?_, fun member hmember => ?_⟩
  · rw [Entries.Distinct, Entries.keys, List.map_map]
    exact h
  · obtain ⟨entry, -, rfl⟩ := List.mem_map.1 hmember
    exact Json.legible_text entry.2

/-- Input fields can be read, since records of fixed members have distinct names. -/
theorem legible_inputsJson : (inputsJson action).Legible :=
  Json.legible_array_iff.2 (legible_inputsToJson action.inputs)

/-- Output fields can be read in any case. -/
theorem legible_outputsJson : (outputsJson action).Legible := by
  refine Json.legible_array_iff.2 fun item hitem => ?_
  obtain ⟨field, -, rfl⟩ := List.mem_map.1 hitem
  exact field.legible_toJson

/-- The test bundle holds what is configured and what is sampled, so it can be read when both can. -/
theorem legible_testBundle (hbundle : settings.testBundle.Legible)
    (hsample : (SampleData.toJson time action.inputSample).Legible) :
    (action.testBundle settings time).Legible := by
  obtain ⟨hdistinct, hvalues⟩ := Json.legible_object_iff.1 hsample
  have hinputs : ∀ {configured : Entries Json}, (∀ entry ∈ configured, entry.2.Legible) →
      (Json.object (Entries.putAll (sampleMembers time action.inputSample) configured)).Legible :=
    fun hconfigured => Json.legible_object_iff.2
      ⟨Entries.distinct_putAll hdistinct _, Entries.forall_putAll hvalues hconfigured⟩
  have hput : ∀ {members inputs : Entries Json}, members.Distinct →
      (∀ member ∈ members, member.2.Legible) → (Json.object inputs).Legible →
      (Json.object (Entries.put members "inputData" (.object inputs))).Legible :=
    fun hdistinct hmembers hinputs => Json.legible_object_iff.2
      ⟨Entries.distinct_put hdistinct _ _, Entries.forall_put hmembers _ hinputs⟩
  -- The cases are those of merging: an object is configured, with or without `inputData`, or none is.
  rw [testBundle]
  cases hconfig : settings.testBundle with
  | object members =>
    rw [hconfig] at hbundle
    obtain ⟨hmembers, hlegible⟩ := Json.legible_object_iff.1 hbundle
    refine hput hmembers hlegible ?_
    rw [Json.member?]
    split
    · rename_i configured hget
      have hmem := (Entries.get?_eq_some_iff hmembers _ _).1 hget
      exact hinputs (Json.legible_object_iff.1 (hlegible _ hmem)).2
    · exact hsample
  | _ => exact @hput [] _ List.nodup_nil (by simp) hsample

/-- The last line of a module that starts with `inputFields` holds the input fields. -/
theorem lastHolds_inputs (hdepth : (inputsJson action).depth ≤ room) :
    LastHolds room "    inputFields: " (action.moduleText settings time) (inputsJson action) := by
  obtain ⟨front, hscript⟩ := exists_fields_moduleText action settings time
  have hstart : IsStart scriptIndent "    inputFields: " :=
    ⟨by decide, _, _, rfl, by decide, by decide, by decide⟩
  refine Script.lastHolds hscript hstart ?_ ?_ legible_inputsJson hdepth
  · rw [passes_of_isClear (by decide), hstart.passes, passes_of_isClear (by decide), hstart.passes]
    rfl
  · exact Json.endsNumber_cons (c := ',') (by decide) _

/-- The last line of a module that starts with `outputFields` holds the output fields. -/
theorem lastHolds_outputs (hdepth : (outputsJson action).depth ≤ room) :
    LastHolds room "    outputFields: " (action.moduleText settings time) (outputsJson action) := by
  obtain ⟨front, hfields⟩ := exists_fields_moduleText action settings time
  obtain ⟨front, hscript⟩ : ∃ front, (action.moduleText settings time).toList =
      front ++ '\n' :: ("    outputFields: ".toList ++ (((outputsJson action).embedded scriptIndent).toList ++
        (",\n    sample: ".toList ++ (((sampleJson action time).embedded scriptIndent).toList ++
          ",\n  \x7d,\n\x7d;\n".toList)))) :=
    ⟨front ++ '\n' ::
        ("    inputFields: ".toList ++ (((inputsJson action).embedded scriptIndent).toList ++ [','])),
      by rw [hfields]; simp⟩
  have hstart : IsStart scriptIndent "    outputFields: " :=
    ⟨by decide, _, _, rfl, by decide, by decide, by decide⟩
  refine Script.lastHolds hscript hstart ?_ ?_ legible_outputsJson hdepth
  · rw [passes_of_isClear (by decide), hstart.passes]
    rfl
  · exact Json.endsNumber_cons (c := ',') (by decide) _

/-- The last line of a module that starts with `sample` holds the sample of the records. -/
theorem lastHolds_sample (h : (sampleJson action time).Legible)
    (hdepth : (sampleJson action time).depth ≤ room) :
    LastHolds room "    sample: " (action.moduleText settings time) (sampleJson action time) := by
  obtain ⟨front, hfields⟩ := exists_fields_moduleText action settings time
  obtain ⟨front, hscript⟩ : ∃ front, (action.moduleText settings time).toList =
      front ++ '\n' :: ("    sample: ".toList ++ (((sampleJson action time).embedded scriptIndent).toList ++
        ",\n  \x7d,\n\x7d;\n".toList)) :=
    ⟨front ++ '\n' :: ("    inputFields: ".toList ++ (((inputsJson action).embedded scriptIndent).toList ++
      (",\n    outputFields: ".toList ++ (((outputsJson action).embedded scriptIndent).toList ++ [','])))),
      by rw [hfields]; simp⟩
  have hstart : IsStart scriptIndent "    sample: " :=
    ⟨by decide, _, _, rfl, by decide, by decide, by decide⟩
  exact Script.lastHolds hscript hstart rfl (Json.endsNumber_cons (c := ',') (by decide) _) h hdepth

/-- The last line of a test that starts with the bundle holds it. -/
theorem lastHolds_bundle (h : (action.testBundle settings time).Legible)
    (hdepth : (action.testBundle settings time).depth ≤ room) :
    LastHolds room "    const bundle = " (action.testText settings time) (action.testBundle settings time) := by
  obtain ⟨front, hscript⟩ := exists_bundle_testText action settings time
  have hstart : IsStart scriptIndent "    const bundle = " :=
    ⟨by decide, _, _, rfl, by decide, by decide, by decide⟩
  refine Script.lastHolds hscript hstart ?_ ?_ h hdepth
  · -- What follows the bundle has no line that starts like it: the key of the action stands in a literal.
    have hkind : ∀ kind : ActionKind, '\n' ∉ kind.sectionName.toList ∧
        after ('\n' :: "    const bundle = ".toList) ("].operation.perform, bundle);\n    ".toList ++
          ((expectation kind).toList ++ "\n  \x7d);\n\x7d);\n".toList)) = [] := by
      intro kind
      cases kind <;> exact ⟨by decide, rfl⟩
    have hopen : ∀ rest : List Char, '[' :: rest = ['['] ++ rest := fun _ => rfl
    rw [passes_of_isClear (by decide), passes_of_notMem (hkind action.kind).1, hopen,
      passes_of_isClear (by decide), passes_of_notMem (Json.newline_notMem_quotedChars action.key.toList),
      (hkind action.kind).2]
  · exact Json.endsNumber_cons (c := ';') (by decide) _

/-- Where the headers stand, they are what is read, up to the comma after them. -/
theorem readStart_headers (h : settings.request.headers.Distinct)
    (hdepth : (headersJson settings).depth ≤ room) (rest : List Char) :
    readStart room (((headersJson settings).embedded scriptIndent).toList ++ ',' :: rest) =
      .ok (headersJson settings) :=
  Json.readStart_embedded (legible_headersJson h) hdepth scriptIndent
    (Json.endsNumber_cons (by decide) rest)

/-- The headers stand in a line that starts like theirs, and that is the first one when the variable of the
address, which stands above them, is on one line. -/
theorem firstHolds_headers (h : settings.request.headers.Distinct)
    (hdepth : (headersJson settings).depth ≤ room)
    (hvariable : '\n' ∉ settings.request.urlVariable.toList) :
    FirstHolds room "    headers: " (action.moduleText settings time) (headersJson settings) := by
  obtain ⟨front, rest, hscript, hfront⟩ := exists_headers_moduleText action settings time
  rw [FirstHolds, Script.head?_linesAfter hscript (by decide) (hfront hvariable), Option.map_some,
    readStart_headers h hdepth]

end Action

/-! ## Reading scripts back -/

/-- Whatever is embedded in the scripts of an action is read back from them, by a reader with room for it. The
fields need no condition. Headers, samples and a configured bundle are maps, so names in them are distinct;
numbers in samples and bundles are those that are read back from their own texts. -/
structure Action.ScriptsReadBack (action : Action) (settings : Settings) (time : String) (room : Nat) :
    Prop where
  someHeaders : settings.request.headers.Distinct → (headersJson settings).depth ≤ room →
    ∃ rest ∈ linesAfter "    headers: " (action.moduleText settings time),
      readStart room rest = .ok (headersJson settings)
  headers : settings.request.headers.Distinct → (headersJson settings).depth ≤ room →
    '\n' ∉ settings.request.urlVariable.toList →
    FirstHolds room "    headers: " (action.moduleText settings time) (headersJson settings)
  inputs : action.inputsJson.depth ≤ room →
    LastHolds room "    inputFields: " (action.moduleText settings time) action.inputsJson
  outputs : action.outputsJson.depth ≤ room →
    LastHolds room "    outputFields: " (action.moduleText settings time) action.outputsJson
  sample : (action.sampleJson time).Legible → (action.sampleJson time).depth ≤ room →
    LastHolds room "    sample: " (action.moduleText settings time) (action.sampleJson time)
  bundle : settings.testBundle.Legible → (SampleData.toJson time action.inputSample).Legible →
    (action.testBundle settings time).depth ≤ room →
    LastHolds room "    const bundle = " (action.testText settings time) (action.testBundle settings time)

/-- Embedding keeps the data. The embedded text of any value is its pretty text with blanks put in after line
feeds outside literals, so readers find the same in both, and the value itself where its text gives it back.
What the scripts of an action embed is read back from them, and the JSON of headers and fields is that of no
others. -/
theorem embedded_readsBack :
    (∀ (value : Json) (indent : Nat),
      (value.embedded indent).toList = Json.spaced indent .outside value.pretty.toList ∧
      ∀ room, Json.Draft.readWhole (Json.Draft.readValue room) (value.embedded indent) =
          Json.Draft.readWhole (Json.Draft.readValue room) value.pretty ∧
        (value.Legible → value.depth ≤ room →
          Json.Draft.readWhole (Json.Draft.readValue room) (value.embedded indent) = .ok value)) ∧
    (∀ (action : Action) (settings : Settings) (time : String) (room : Nat),
      action.ScriptsReadBack settings time room) ∧
    ∀ (action action' : Action) (settings settings' : Settings),
      (Action.headersJson settings = Action.headersJson settings' →
        settings.request.headers = settings'.request.headers) ∧
      (action.inputsJson = action'.inputsJson → action.inputs = action'.inputs) ∧
      (action.outputsJson = action'.outputsJson → action.outputs = action'.outputs) := by
  refine ⟨fun value indent => ⟨Json.toList_embedded value indent, fun room =>
    ⟨Json.readWhole_embedded _ value indent, fun h hdepth => Json.readWhole_of_legible h hdepth indent⟩⟩,
    fun action settings time room => ?_, fun action action' settings settings' => ⟨?_, ?_, ?_⟩⟩
  · refine
      { someHeaders := fun h hdepth => ?_
        headers := Action.firstHolds_headers
        inputs := Action.lastHolds_inputs
        outputs := Action.lastHolds_outputs
        sample := Action.lastHolds_sample
        bundle := fun hbundle hsample =>
          Action.lastHolds_bundle (Action.legible_testBundle hbundle hsample) }
    obtain ⟨front, rest, hscript, -⟩ := Action.exists_headers_moduleText action settings time
    exact ⟨_, Script.mem_linesAfter hscript (by decide), Action.readStart_headers h hdepth rest⟩
  · intro h
    have hpairs := Json.object.inj h
    refine List.map_injective_iff.2 (fun entry entry' hentry => ?_) hpairs
    obtain ⟨hname, hvalue⟩ := Prod.mk.inj hentry
    exact Prod.ext hname (text_injective hvalue)
  · exact fun h => inputsToJson_inj _ _ (Json.array.inj h)
  · exact fun h => List.map_injective_iff.2 OutputField.toJson_injective (Json.array.inj h)

/-- An action whose texts hold quotes, backslashes, line breaks, control characters and what looks like lines of
a script. -/
def oddAction : Action :=
  { kind := .create, key := "ping", noun := "\"\\", label := "\r\n    sample: [", description := "\u2028\x01"
    document := "mutation \x7b\n    headers: \x7b\x7d", shape := .object, idSource := none
    inputs :=
      [{ key := "in\r\nput", field := some "\n    sample: ", label := "\"", type := none, required := true,
         list := true, helpText := some "\x00\x1f", choices := ["\n", "\r"],
         children := [{ key := "\u2028", field := none, label := "", type := some .number, required := false,
                        list := false, helpText := none, choices := [], children := [] }] }]
    outputs :=
      [{ key := "\n]", field := none, label := "\x7d\n", type := .copy, required := true, helpText := some "" }]
    inputSample := [("inputData\n", .record [("\\n", .number ⟨false, Nat.pow 2 52, -52⟩)])]
    outputSample := [("\n\n", .now), ("\r", .number ⟨false, Nat.pow 2 52, -52⟩), ("\"", .integer (-1))] }

/-- Even an action whose texts look like lines of a script is read back from its scripts. -/
theorem embedded_readsBack_oddAction :
    let script := oddAction.moduleText Settings.default "\n"
    FirstHolds Json.nestingLimit "    headers: " script (Action.headersJson Settings.default) ∧
      LastHolds Json.nestingLimit "    inputFields: " script oddAction.inputsJson ∧
      LastHolds Json.nestingLimit "    outputFields: " script oddAction.outputsJson ∧
      LastHolds Json.nestingLimit "    sample: " script (oddAction.sampleJson "\n") ∧
      LastHolds Json.nestingLimit "    const bundle = " (oddAction.testText Settings.default "\n")
        (oddAction.testBundle Settings.default "\n") ∧
      Json.Draft.readWhole (Json.Draft.readValue Json.nestingLimit)
        ((oddAction.sampleJson "\n").embedded 3) = .ok (oddAction.sampleJson "\n") := by
  intro script
  have hone : Number.ReadsBack (.float ⟨false, Nat.pow 2 52, -52⟩) := by
    unfold Number.ReadsBack
    decide +kernel
  have hminus : Number.ReadsBack (.integer (-1)) := by
    unfold Number.ReadsBack
    decide +kernel
  have hsample : (oddAction.sampleJson "\n").Legible :=
    ⟨⟨by decide, trivial, trivial, trivial, trivial⟩, trivial, hone, hminus, trivial⟩
  have hinput : (SampleData.toJson "\n" oddAction.inputSample).Legible :=
    ⟨⟨by decide, ⟨by decide, trivial, trivial⟩, trivial⟩, ⟨hone, trivial⟩, trivial⟩
  have hbundle : Settings.default.testBundle.Legible :=
    ⟨⟨by decide, ⟨by decide, trivial⟩, ⟨by decide, trivial⟩, trivial⟩, trivial, trivial, trivial⟩
  obtain ⟨hvalues, hscripts, -⟩ := embedded_readsBack
  have hread := hscripts oddAction Settings.default "\n" Json.nestingLimit
  exact ⟨hread.headers (by decide) (by decide) (by decide), hread.inputs (by decide +kernel),
    hread.outputs (by decide +kernel), hread.sample hsample (by decide +kernel),
    hread.bundle hbundle hinput (by decide +kernel),
    ((hvalues _ 3).2 Json.nestingLimit).2 hsample (by decide +kernel)⟩

end ActionForge
