import ActionForge.Proofs.Json.Reading
import ActionForge.Proofs.Project.Run

/-!
# Saved settings

Settings that were read from a text have distinct names in all their maps and a test bundle that fits into a
settings file, whichever members the text repeats, leaves out or lists in an array (`regular_of_ofText`).
Settings like that are read back from the text that is written for them. By `saved_settings` this makes
saving and loading inverse on everything that can be loaded: nothing is lost, no default comes in, and no
map changes its order.
-/

namespace ActionForge

namespace Settings

/-- What reading leaves settings with: distinct names in maps, and a test bundle that there is room for. -/
structure Regular (settings : Settings) : Prop where
  headers : settings.request.headers.Distinct
  scalarTypes : settings.scalarTypes.Distinct
  idSources : settings.idSources.Distinct
  exact : settings.samples.exact.Distinct
  startingWith : settings.samples.startingWith.Distinct
  endingWith : settings.samples.endingWith.Distinct
  testBundle : settings.testBundle.Regular bundleRoom

/-- All numbers in sample values and in the test bundle are whole. -/
structure HasWholeNumbers (settings : Settings) : Prop where
  exact : Json.MembersWhole settings.samples.exact
  startingWith : Json.MembersWhole settings.samples.startingWith
  endingWith : Json.MembersWhole settings.samples.endingWith
  testBundle : settings.testBundle.IsWhole

/-! ## What was read -/

open Json.Draft (readMap readText readValue readVariant readBool readRecord readNamed)

/-- A request that was read names no header twice. -/
theorem distinct_headers_of_readRequest {d : Json.Draft} {request : Request}
    (h : readRequest d = .ok request) : request.headers.Distinct := by
  refine Json.Draft.readRecord_invariant (P := fun request : Request => request.headers.Distinct)
    (by decide) (fun request name d request' hrequest hread => ?_) h
  unfold readRequestMember at hread
  split at hread
  · obtain ⟨name, -, hread⟩ := bind_eq_ok_iff.1 hread
    cases hread
    exact hrequest
  · obtain ⟨headers, hheaders, hread⟩ := bind_eq_ok_iff.1 hread
    cases hread
    exact Json.Draft.distinct_of_readMap hheaders

/-- Sample rules that were read name nothing twice, in none of their maps. -/
theorem distinct_of_readSamples {d : Json.Draft} {samples : SampleRules} (h : readSamples d = .ok samples) :
    samples.exact.Distinct ∧ samples.startingWith.Distinct ∧ samples.endingWith.Distinct := by
  refine Json.Draft.readRecord_invariant
    (P := fun samples : SampleRules =>
      samples.exact.Distinct ∧ samples.startingWith.Distinct ∧ samples.endingWith.Distinct)
    (by decide) (fun samples name d samples' hsamples hread => ?_) h
  obtain ⟨hexact, hstarting, hending⟩ := hsamples
  unfold readSamplesMember at hread
  split at hread <;>
  · obtain ⟨entries, hentries, hread⟩ := bind_eq_ok_iff.1 hread
    have hdistinct := Json.Draft.distinct_of_readMap hentries
    cases hread
    exact ⟨by assumption, by assumption, by assumption⟩

/-- Reading one more member keeps settings regular. -/
theorem regular_of_readMember {settings settings' : Settings} {name : String} {d : Json.Draft}
    (h : settings.Regular) (hread : readMember settings name d = .ok settings') : settings'.Regular := by
  -- A member takes the place of one field, and nothing else changes.
  unfold readMember at hread
  split at hread <;> obtain ⟨value, hvalue, hread⟩ := bind_eq_ok_iff.1 hread <;> cases hread
  · exact { h with headers := distinct_headers_of_readRequest hvalue }
  · exact { h with scalarTypes := Json.Draft.distinct_of_readMap hvalue }
  · exact { h with idSources := Json.Draft.distinct_of_readMap hvalue }
  · exact { h with }
  · obtain ⟨hexact, hstarting, hending⟩ := distinct_of_readSamples hvalue
    exact { h with exact := hexact, startingWith := hstarting, endingWith := hending }
  · exact { h with testBundle := Json.regular_of_readValue d hvalue }

/-- The settings that reading starts from are regular. -/
theorem regular_default : default.Regular where
  headers := by decide
  scalarTypes := by decide
  idSources := by decide
  exact := by decide
  startingWith := by decide
  endingWith := by decide
  testBundle := ⟨⟨by decide, ⟨by decide, trivial⟩, ⟨by decide, trivial⟩, trivial⟩, by decide⟩

/-- A text holds settings when it can be read and what is read has no defect. -/
theorem ofText_eq_ok_iff {text : String} {settings : Settings} :
    ofText text = .ok settings ↔
      Json.Draft.readWhole read text = .ok settings ∧ settings.defect? = none := by
  rw [ofText, bind_eq_ok_iff]
  constructor
  · rintro ⟨found, hfound, h⟩
    cases hread : Json.Draft.readWhole read text with
    | error e =>
      rw [hread] at hfound
      cases hfound
    | ok value =>
      rw [hread] at hfound
      cases hfound
      cases hdefect : found.defect? with
      | some defect =>
        rw [hdefect] at h
        cases h
      | none =>
        rw [hdefect] at h
        cases h
        exact ⟨rfl, hdefect⟩
  · rintro ⟨hread, hdefect⟩
    exact ⟨settings, by rw [hread]; rfl, by rw [hdefect]⟩

/-- Settings that were read are regular, whatever the text looked like. -/
theorem regular_of_ofText {text : String} {settings : Settings} (h : ofText text = .ok settings) :
    settings.Regular := by
  obtain ⟨value, hvalue, h⟩ := bind_eq_ok_iff.1 (ofText_eq_ok_iff.1 h).1
  split at h
  · cases h
    exact Json.Draft.readRecord_invariant regular_default
      (fun _ _ _ _ hsettings hread => regular_of_readMember hsettings hread) hvalue
  · cases h

/-- Settings without a defect have scalars for sample values. -/
theorem isScalar_of_defect?_eq_none {settings : Settings} (h : settings.defect? = none) :
    ∀ entry ∈ settings.samples.exact ++ settings.samples.startingWith ++ settings.samples.endingWith,
      entry.2.isScalar := by
  have hstructured : settings.structuredSample? = none := by
    rw [defect?] at h
    split at h
    · cases h
    · split at h
      · cases h
      · cases h
      · assumption
  have hfind := Option.map_eq_none_iff.1 hstructured
  intro entry hentry
  simpa using List.find?_eq_none.1 hfind entry hentry

/-! ## What is written -/

/-- Texts hold no numbers. -/
theorem textsWhole (entries : Entries String) : (textsToJson entries).IsWhole := by
  refine Json.membersWhole_iff.2 fun member hmember => ?_
  obtain ⟨entry, -, rfl⟩ := List.mem_map.1 hmember
  trivial

/-- Settings are written with whole numbers when their samples and their test bundle have no others. -/
theorem isWhole_toJson {settings : Settings} (h : settings.HasWholeNumbers) : settings.toJson.IsWhole := by
  have hscalars : Json.IsWhole
      (.object (settings.scalarTypes.map fun entry => (entry.1, .text entry.2.name))) := by
    refine Json.membersWhole_iff.2 fun member hmember => ?_
    obtain ⟨entry, -, rfl⟩ := List.mem_map.1 hmember
    trivial
  exact ⟨⟨trivial, textsWhole _, trivial⟩, hscalars, textsWhole _, trivial,
    ⟨h.exact, h.startingWith, h.endingWith, trivial⟩, h.testBundle, trivial⟩

/-- A map of texts is read as it was written. -/
theorem readMap_texts {entries : Entries String} (h : entries.Distinct) :
    readMap readText (textsToJson entries).draft = .ok entries :=
  Json.Draft.readMap_draft Json.text h fun _ _ => rfl

/-- A map of types is read as it was written, for each type has a name of its own. -/
theorem readMap_types {entries : Entries FieldType} (h : entries.Distinct) :
    readMap (readVariant FieldType.named)
      (Json.object (entries.map fun entry => (entry.1, .text entry.2.name))).draft = .ok entries := by
  refine Json.Draft.readMap_draft (fun type => Json.text type.name) h fun entry _ => ?_
  cases entry.2 <;> rfl

/-- A map of sample values is read as it was written when all of them are scalars. -/
theorem readMap_samples {entries : Entries Json} (h : entries.Distinct)
    (hscalar : ∀ entry ∈ entries, entry.2.isScalar) :
    readMap (readValue sampleRoom) (Json.object entries).draft = .ok entries := by
  have hread : ∀ entry ∈ entries, readValue sampleRoom (id entry.2).draft = .ok entry.2 := by
    intro entry hentry
    have hentryScalar := hscalar entry hentry
    cases hvalue : entry.2 with
    | array items =>
      rw [hvalue] at hentryScalar
      cases hentryScalar
    | object members =>
      rw [hvalue] at hentryScalar
      cases hentryScalar
    | _ => rfl
  simpa using Json.Draft.readMap_draft id h hread

/-! ## Reading what is written -/

/-- A request as it is written. -/
def requestJson (request : Request) : Json :=
  .object [("urlEnvVar", .text request.urlVariable), ("headers", textsToJson request.headers)]

/-- Sample rules as they are written. -/
def samplesJson (samples : SampleRules) : Json :=
  .object [("exact", .object samples.exact), ("startingWith", .object samples.startingWith),
    ("endingWith", .object samples.endingWith)]

/-- A request is read as it was written. -/
theorem readRequest_draft {request : Request} (h : request.headers.Distinct) :
    readRequest (requestJson request).draft = .ok request := by
  have hdraft : (requestJson request).draft =
      .object [(some "urlEnvVar", (Json.text request.urlVariable).draft),
        (some "headers", (textsToJson request.headers).draft)] .closed := rfl
  have htext : readText (Json.text request.urlVariable).draft = .ok request.urlVariable := rfl
  simp only [hdraft, readRequest, readRecord, readNamed, readRequestMember, htext, readMap_texts h]
  rfl

/-- Sample rules are read as they were written. -/
theorem readSamples_draft {settings : Settings} (h : settings.Regular)
    (hscalar : ∀ entry ∈ settings.samples.exact ++ settings.samples.startingWith ++
      settings.samples.endingWith, entry.2.isScalar) :
    readSamples (samplesJson settings.samples).draft = .ok settings.samples := by
  have hdraft : (samplesJson settings.samples).draft =
      .object [(some "exact", (Json.object settings.samples.exact).draft),
        (some "startingWith", (Json.object settings.samples.startingWith).draft),
        (some "endingWith", (Json.object settings.samples.endingWith).draft)] .closed := rfl
  have hexact := readMap_samples h.exact fun entry hentry => hscalar entry (by simp [hentry])
  have hstarting := readMap_samples h.startingWith fun entry hentry => hscalar entry (by simp [hentry])
  have hending := readMap_samples h.endingWith fun entry hentry => hscalar entry (by simp [hentry])
  simp only [hdraft, readSamples, readRecord, readNamed, readSamplesMember, hexact, hstarting, hending]
  rfl

/-- Regular settings are read back from what is written for them. -/
theorem read_draft {settings : Settings} (h : settings.Regular)
    (hscalar : ∀ entry ∈ settings.samples.exact ++ settings.samples.startingWith ++
      settings.samples.endingWith, entry.2.isScalar) :
    read settings.toJson.draft = .ok settings := by
  -- What is written has every member, each once and in the order of the fields.
  have hdraft : settings.toJson.draft =
      .object [(some "request", (requestJson settings.request).draft),
        (some "scalarMap", (Json.object (settings.scalarTypes.map fun entry =>
          (entry.1, .text entry.2.name))).draft),
        (some "idMap", (textsToJson settings.idSources).draft),
        (some "sortFields", (Json.bool settings.sortFields).draft),
        (some "sampleFieldValues", (samplesJson settings.samples).draft),
        (some "testBundle", settings.testBundle.draft)] .closed := rfl
  have hsort : readBool (Json.bool settings.sortFields).draft = .ok settings.sortFields := rfl
  have hbundle := Json.readValue_draft settings.testBundle h.testBundle.1 h.testBundle.2
  simp only [hdraft, read, readRecord, readNamed, readMember, readRequest_draft h.headers,
    readMap_types h.scalarTypes, readMap_texts h.idSources, hsort, readSamples_draft h hscalar, hbundle]
  rfl

end Settings

/-! ## Saving and loading -/

/-- Saving that succeeds leaves the text of the settings in their file. -/
theorem Project.read_of_saveSettings {path : String} {settings : Settings} {tree after : FileTree}
    (h : (saveSettings path settings).run tree = (.ok (), after)) :
    after.read path = .ok (settingsText settings) := by
  rw [saveSettings, Run.run_bind] at h
  split at h
  · rename_i made hmade
    rw [Run.run_change] at h
    cases hwrite : made.write path (settingsText settings) with
    | error fault =>
      rw [hwrite] at h
      cases h
    | ok written =>
      rw [hwrite] at h
      cases h
      exact FileTree.read_of_write hwrite
  · cases h

/-- A file is loaded as the settings that its text holds. -/
theorem Project.loadSettings_of_read {path text : String} {settings : Settings} {tree : FileTree}
    (hread : tree.read path = .ok text) (htext : Settings.ofText text = .ok settings) :
    (loadSettings path).run tree = (.ok settings, tree) := by
  obtain ⟨location, hlocate, hnode⟩ := FileTree.read_eq_ok.1 hread
  have hthere : tree.isThere path = true := by
    rw [FileTree.isThere_of_locate hlocate, hnode]
    rfl
  have hlook : (Run.look (.readingSettings path) fun tree => tree.read path).run tree =
      (.ok text, tree) := by
    rw [Run.run_look, hread]
    rfl
  rw [loadSettings, Run.run_bind_of_ok (Run.run_isThere path tree), hthere, if_pos rfl,
    Run.run_bind_of_ok hlook, htext, Run.run_lift]
  rfl

/-- Settings that some text holds, with whole numbers in their sample values and their test bundle, are the
settings that their own text holds, and those that are loaded from the file they are saved to. -/
theorem saved_settings {text : String} {settings : Settings} (h : Settings.ofText text = .ok settings)
    (hwhole : settings.HasWholeNumbers) :
    Settings.ofText (Project.settingsText settings) = .ok settings ∧
      ∀ path tree after, (Project.saveSettings path settings).run tree = (.ok (), after) →
        (Project.loadSettings path).run after = (.ok settings, after) := by
  have hdefect := (Settings.ofText_eq_ok_iff.1 h).2
  have hread : Settings.read settings.toJson.draft = .ok settings :=
    Settings.read_draft (Settings.regular_of_ofText h) (Settings.isScalar_of_defect?_eq_none hdefect)
  have hblanks : ∀ c ∈ "\n".toList, Json.isSpace c := List.forall_mem_singleton.2 rfl
  have hdraft : Json.Draft.ofText (Project.settingsText settings) = (settings.toJson.draft, []) :=
    Json.Draft.ofText_pretty (Settings.isWhole_toJson hwhole) hblanks
  have hsaved : Settings.ofText (Project.settingsText settings) = .ok settings := by
    refine Settings.ofText_eq_ok_iff.2 ⟨?_, hdefect⟩
    rw [Json.Draft.readWhole, hdraft, hread]
    rfl
  exact ⟨hsaved, fun path tree after hsave =>
    Project.loadSettings_of_read (Project.read_of_saveSettings hsave) hsaved⟩

/-- A settings file written by hand: the request lists its variable in an array, one member is unknown, a name
is repeated in a map, and most members are left out. -/
def handWritten : String :=
  "\x7b\"request\": [\"SERVICE\"], \"note\": [null], " ++
  "\"sampleFieldValues\": \x7b\"exact\": \x7b\"zeta\": 1, \"alpha\": -2, \"zeta\": 3\x7d\x7d, " ++
  "\"testBundle\": \x7b\"b\": [\x7b\x7d, 18446744073709551615], \"a\": \"\\u0001\"\x7d\x7d"

/-- The settings that are written by hand in `handWritten`. -/
def handWrittenSettings : Settings :=
  { Settings.default with
    request := { Settings.defaultRequest with urlVariable := "SERVICE" }
    samples := { Settings.noSamples with exact := [("zeta", .integer 3), ("alpha", .integer (-2))] }
    testBundle := .object
      [("b", .array [.object [], .integer 18446744073709551615]), ("a", .text "\x01")] }

open Json in
/-- The text that is written by hand holds its settings, defaults for the rest. -/
theorem ofText_handWritten : Settings.ofText handWritten = .ok handWrittenSettings := by
  -- the reader runs on the tokens: from the text itself its steps would scan the text again and again
  have htokens : tokens handWritten.toList =
      [.opening .curly, .text "request", .colon, .opening .square, .text "SERVICE", .closing .square, .comma,
        .text "note", .colon, .opening .square, .null, .closing .square, .comma,
        .text "sampleFieldValues", .colon, .opening .curly, .text "exact", .colon, .opening .curly,
        .text "zeta", .colon, .number (some (.integer 1)), .comma,
        .text "alpha", .colon, .number (some (.integer (-2))), .comma,
        .text "zeta", .colon, .number (some (.integer 3)), .closing .curly, .closing .curly, .comma,
        .text "testBundle", .colon, .opening .curly,
        .text "b", .colon, .opening .square, .opening .curly, .closing .curly, .comma,
        .number (some (.integer 18446744073709551615)), .closing .square, .comma,
        .text "a", .colon, .text "\x01", .closing .curly, .closing .curly] := by decide +kernel
  refine Settings.ofText_eq_ok_iff.2 ⟨?_, by decide +kernel⟩
  rw [Draft.readWhole, Draft.ofText, htokens]
  rfl

/-- Saving the settings that were written by hand and loading them again loses nothing. -/
theorem saved_settings_handWritten :
    Settings.ofText (Project.settingsText handWrittenSettings) = .ok handWrittenSettings ∧
      ∀ path tree after, (Project.saveSettings path handWrittenSettings).run tree = (.ok (), after) →
        (Project.loadSettings path).run after = (.ok handWrittenSettings, after) :=
  saved_settings ofText_handWritten
    { exact := ⟨⟨by decide, by decide⟩, ⟨by decide, by decide⟩, trivial⟩
      startingWith := trivial
      endingWith := trivial
      testBundle := ⟨⟨trivial, ⟨by decide, by decide⟩, trivial⟩, trivial, trivial⟩ }

end ActionForge
