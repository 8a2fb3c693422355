import ActionForge.Proofs.EntryFile.Runs
import ActionForge.Proofs.Project.Path
import ActionForge.Proofs.Project.Run

/-!
# Writing actions

An action's module and test are written before the entry file is looked at, and the entry file is written
last and only with the action in it. So however writing ends, no other file has changed, and unless the
operating system refuses an operation, the scripts are there and the entry file is either as it was or has
the action (`writeAction_effect`). To write the action again changes nothing.
-/

namespace ActionForge.Project

open FileTree

variable {tree mid after : FileTree} {path text : String}

/-! ## Scripts -/

/-- Making the directory of a file changes no file. -/
theorem changesOnly_makeParent (path : String) (activities : String → List Activity) :
    Run.ChangesOnly [] (makeParent path activities) := by
  rw [makeParent]
  split
  · exact .change fun _ _ hmade => .of_makesDirectories (makesDirectories_of_makeDirectories hmade)
  · exact (Run.ReadsOnly.pure ()).changesOnly []

/-- Writing changes the file at its path. -/
theorem changesOnly_write (activities : List Activity) (path text : String) :
    Run.ChangesOnly [path] (Run.change activities (·.write path text)) :=
  .change fun _ _ => changesOnly_of_write

/-- Writing a script changes the file at its path. -/
theorem changesOnly_writeScript (path text : String) : Run.ChangesOnly [path] (writeScript path text) :=
  ((changesOnly_makeParent path _).mono (by simp)).bind fun _ => changesOnly_write _ path text

/-- Making the directory of a file either is refused or makes directories, which it does not again. -/
theorem makeParent_run (path : String) (activities : String → List Activity) (tree : FileTree) :
    Refused ((makeParent path activities).run tree).1 ∨
      ∃ made, (makeParent path activities).run tree = (.ok (), made) ∧
        ∀ after, KeepsDirectories made after → (makeParent path activities).run after = (.ok (), after) := by
  rw [makeParent]
  cases Path.parent? path with
  -- Such a path has no directory to be made.
  | none => exact .inr ⟨tree, rfl, fun _ _ => rfl⟩
  | some parent =>
    cases hmade : tree.makeDirectories parent with
    | error fault => exact .inl ⟨activities parent, fault, by rw [Run.run_change, hmade]⟩
    | ok made =>
      refine .inr ⟨made, by rw [Run.run_change, hmade], fun after hkeeps => ?_⟩
      rw [Run.run_change, makeDirectories_again hmade hkeeps]

/-- Writing a script either is refused or leaves the script in its file. Writing a script again, where the
directories are still there, leaves all as it is. -/
theorem writeScript_run (path text : String) (tree : FileTree) :
    Refused ((writeScript path text).run tree).1 ∨
      ∃ written, (writeScript path text).run tree = (.ok (), written) ∧ written.read path = .ok text ∧
        ∀ after, KeepsDirectories written after → after.read path = .ok text →
          ∃ again, (writeScript path text).run after = (.ok (), again) ∧ Same after again := by
  rw [writeScript]
  rcases makeParent_run path (fun parent => [.making parent]) tree with ⟨activities, fault, hrefused⟩ |
    ⟨made, hmade, hagain⟩
  · exact .inl ⟨activities, fault, by rw [Run.run_bind_of_error (Prod.ext hrefused rfl)]⟩
  · rw [Run.run_bind_of_ok hmade]
    cases hwrite : made.write path text with
    | error fault => exact .inl ⟨_, fault, by rw [Run.run_change, hwrite]⟩
    | ok written =>
      refine .inr ⟨written, by rw [Run.run_change, hwrite], read_of_write hwrite, ?_⟩
      intro after hkeeps hread
      obtain ⟨again, hwritten, hsame⟩ := write_again hwrite hread
      have hdirectories := (changesOnly_of_write hwrite).keepsDirectories.trans hkeeps
      refine ⟨again, ?_, hsame⟩
      rw [Run.run_bind_of_ok (hagain after hdirectories), Run.run_change, hwritten]

/-- A script that was written is in its file, and can be written again. -/
theorem writeScript_of_ok {written : FileTree} (h : (writeScript path text).run tree = (.ok (), written)) :
    written.read path = .ok text ∧
      ∀ after, KeepsDirectories written after → after.read path = .ok text →
        ∃ again, (writeScript path text).run after = (.ok (), again) ∧ Same after again := by
  rcases writeScript_run path text tree with hrefused | ⟨written', hrun, hwritten⟩
  · rw [h] at hrefused
    exact absurd hrefused (not_refused_of_isOk rfl)
  · obtain rfl := (Prod.mk.inj (h.symm.trans hrun)).2
    exact hwritten

/-! ## Registration -/

/-- Registering changes no file but the entry file, and often not even that. -/
theorem changesOnly_registerIn (entry : String) (kind : ActionKind) (key : String) :
    Run.ChangesOnly [entry] (registerIn entry kind key) := by
  refine ((Run.ReadsOnly.look _ _).changesOnly _).bind fun source => ?_
  split
  · exact (Run.ReadsOnly.throw _).changesOnly _
  · split
    · exact (Run.ReadsOnly.pure false).changesOnly _
    · exact (changesOnly_write _ entry _).bind fun _ => (Run.ReadsOnly.pure true).changesOnly _

/-- An entry file that cannot be read is not registered in. -/
theorem registerIn_of_error {entry : String} {fault : FileFault} (h : tree.read entry = .error fault)
    (kind : ActionKind) (key : String) :
    (registerIn entry kind key).run tree = (.error ⟨[.reading entry], .file fault⟩, tree) := by
  refine Run.run_bind_of_error ?_
  rw [Run.run_look, h]
  rfl

/-- Registering in a file that can be read fails where the file has no section, writes nothing where that
would change nothing, and otherwise comes to writing the file. -/
theorem registerIn_run {entry source : String} (h : tree.read entry = .ok source) (kind : ActionKind)
    (key : String) : (registerIn entry kind key).run tree =
      match EntryFile.register source kind key with
      | none => (.error ((Cause.noSection kind.sectionName).failure.during (.registering entry)), tree)
      | some updated =>
        if updated = source then (.ok false, tree)
        else match tree.write entry updated with
          | .error fault => (.error ⟨[.writing entry], .file fault⟩, tree)
          | .ok registered => (.ok true, registered) := by
  have hlook : (Run.look (.reading entry) (·.read entry)).run tree = (.ok source, tree) := by
    rw [Run.run_look, h]
    rfl
  rw [registerIn, Run.run_bind_of_ok hlook]
  cases EntryFile.register source kind key with
  | none => rfl
  | some updated =>
    by_cases hsame : updated = source
    · simp only [if_pos hsame]
      rfl
    · simp only [if_neg hsame]
      rw [Run.run_bind, Run.run_change]
      cases tree.write entry updated <;> rfl

/-- Whatever comes of registering, the entry file is as before or has the action. -/
theorem text?_registerIn (entry : String) (kind : ActionKind) (key : String) (tree : FileTree) :
    let after := ((registerIn entry kind key).run tree).2
    after.text? (tree.place entry) = tree.text? (tree.place entry) ∨
      ∃ source, tree.text? (tree.place entry) = some source ∧
        after.text? (tree.place entry) = EntryFile.register source kind key := by
  intro after
  show (((registerIn entry kind key).run tree).2).text? _ = _ ∨ ∃ source, _ ∧
    (((registerIn entry kind key).run tree).2).text? _ = _
  -- A file that cannot be read is left alone.
  cases hread : tree.read entry with
  | error fault => exact .inl (by rw [registerIn_of_error hread])
  | ok source =>
    rw [registerIn_run hread]
    cases hregister : EntryFile.register source kind key with
    | none => exact .inl rfl
    | some updated =>
      by_cases hsame : updated = source
      · refine .inl ?_
        simp only [if_pos hsame]
      · simp only [if_neg hsame]
        cases hwrite : tree.write entry updated with
        | error fault => exact .inl rfl
        | ok registered =>
          refine .inr ⟨source, text?_of_read hread, ?_⟩
          show registered.text? (tree.place entry) = _
          rw [hregister, text?_eq_some, node?_of_write hwrite, if_pos rfl]

/-! ## The whole action -/

/-- What is left of writing an action once its scripts are written. -/
def registration (directory : String) (scripts : Scripts) : Run (List String) := do
  let module := modulePath directory scripts.kind scripts.key
  let test := testPath directory scripts.kind scripts.key
  let entry := Path.join directory entryName
  if ← Run.isThere entry then
    let changed ← registerIn entry scripts.kind scripts.key
    return [module, test] ++ (if changed then [entry] else [])
  else return [module, test]

variable (directory : String) (scripts : Scripts)

/-- What a registration that is not refused comes to, and the entry file after it, for the entry file before
it, if there is one. -/
def registrationResult : Option String → Except Failure (List String) × Option String
  | none => (.ok [modulePath directory scripts.kind scripts.key,
      testPath directory scripts.kind scripts.key], none)
  | some source =>
    let module := modulePath directory scripts.kind scripts.key
    let test := testPath directory scripts.kind scripts.key
    let entry := Path.join directory entryName
    match EntryFile.register source scripts.kind scripts.key with
    | none =>
      (.error ((Cause.noSection scripts.kind.sectionName).failure.during (.registering entry)), some source)
    | some updated => (.ok ([module, test] ++ if updated = source then [] else [entry]), some updated)

/-- An action is written script by script and registered last. -/
theorem writeAction_eq : writeAction directory scripts = (do
    writeScript (modulePath directory scripts.kind scripts.key) scripts.module
    writeScript (testPath directory scripts.kind scripts.key) scripts.test
    registration directory scripts) := rfl

/-- Registration changes no file but the entry file. -/
theorem changesOnly_registration :
    Run.ChangesOnly [Path.join directory entryName] (registration directory scripts) := by
  refine ((Run.ReadsOnly.isThere _).changesOnly _).bind fun present => ?_
  cases present with
  | false => exact (Run.ReadsOnly.pure _).changesOnly _
  | true =>
    exact (changesOnly_registerIn _ _ _).bind fun changed => (Run.ReadsOnly.pure _).changesOnly _

/-- Registration leaves the tree as registering in the entry file does, if there is one. -/
theorem snd_registration (tree : FileTree) : ((registration directory scripts).run tree).2 =
    if tree.isThere (Path.join directory entryName) then
      ((registerIn (Path.join directory entryName) scripts.kind scripts.key).run tree).2
    else tree := by
  rw [registration, Run.run_bind_of_ok (Run.run_isThere _ _)]
  split
  · exact Run.snd_run_bind (fun _ => .pure _) tree
  · rfl

/-- Whatever comes of a registration, the entry file is as before or has the action. -/
theorem text?_registration (tree : FileTree) :
    let after := ((registration directory scripts).run tree).2
    let entry := tree.place (Path.join directory entryName)
    after.text? entry = tree.text? entry ∨ ∃ source, tree.text? entry = some source ∧
      after.text? entry = EntryFile.register source scripts.kind scripts.key := by
  rw [snd_registration]
  split
  · exact text?_registerIn (Path.join directory entryName) scripts.kind scripts.key tree
  · exact .inl rfl

/-- Writing an action changes no file but the scripts and the entry file. -/
theorem changesOnly_writeAction :
    Run.ChangesOnly [modulePath directory scripts.kind scripts.key,
      testPath directory scripts.kind scripts.key, Path.join directory entryName]
      (writeAction directory scripts) := by
  rw [writeAction_eq]
  refine ((changesOnly_writeScript _ _).mono (by simp)).bind fun _ => ?_
  refine ((changesOnly_writeScript _ _).mono (by simp)).bind fun _ => ?_
  exact (changesOnly_registration directory scripts).mono (by simp)

section Registration

variable {location : Location} (h : tree.locate (Path.join directory entryName) = .ok location)

include h

/-- Where a directory is in the place of the entry file, registration is refused. -/
theorem registration_of_directory (hnode : tree.node? location = some .directory) :
    Refused ((registration directory scripts).run tree).1 := by
  have hthere : tree.isThere (Path.join directory entryName) = true := by
    rw [isThere_of_locate h, hnode, Option.isSome_some]
  have hread : tree.read (Path.join directory entryName) = .error .isADirectory := by
    rw [read_of_locate h, hnode]
  rw [registration, Run.run_bind_of_ok (Run.run_isThere _ _), hthere, if_pos rfl]
  exact ⟨_, _, by rw [Run.run_bind_of_error (registerIn_of_error hread _ _)]⟩

/-- Where the entry file is as it is to be, registration only looks at it. Otherwise it either is refused or
leaves the file as it is to be. -/
theorem registration_run (hnode : tree.node? location ≠ some .directory) :
    let result := registrationResult directory scripts (tree.text? location)
    if result.2 = tree.text? location then (registration directory scripts).run tree = (result.1, tree)
    else Refused ((registration directory scripts).run tree).1 ∨
      ∃ after, (registration directory scripts).run tree = (result.1, after) ∧
        after.node? location ≠ some .directory ∧ after.text? location = result.2 := by
  intro result
  rw [registration, Run.run_bind_of_ok (Run.run_isThere _ _), isThere_of_locate h]
  cases hfile : tree.node? location with
  | none =>
    have hsource : tree.text? location = none := by rw [text?, hfile]
    simp only [result, hsource]
    rfl
  | some node =>
    cases node with
    | directory => exact absurd hfile hnode
    | file source =>
      have hsource : tree.text? location = some source := text?_eq_some.2 hfile
      have hread : tree.read (Path.join directory entryName) = .ok source := by
        rw [read_of_locate h, hfile]
      rw [Option.isSome_some, if_pos rfl, Run.run_bind, registerIn_run hread]
      simp only [result, hsource, registrationResult]
      cases EntryFile.register source scripts.kind scripts.key with
      | none => simp only [if_true]
      | some updated =>
        simp only [Option.some.injEq]
        -- Nothing is written where registering changes nothing, so this cannot be refused.
        by_cases hsame : updated = source
        · simp only [if_pos hsame]
          rfl
        · simp only [if_neg hsame]
          cases hwrite : tree.write (Path.join directory entryName) updated with
          | error fault => exact .inl ⟨_, fault, rfl⟩
          | ok after =>
            have htext : after.text? location = some updated := by
              rw [text?_eq_some, node?_of_write hwrite, if_pos (eq_place_of_locate h)]
            exact .inr ⟨after, rfl, by simp [text?_eq_some.1 htext], htext⟩

/-- What an allowed registration comes to, and what it leaves of the entry file. -/
theorem registration_outcome {outcome : Except Failure (List String)}
    (hrun : (registration directory scripts).run tree = (outcome, after)) (hallowed : ¬ Refused outcome) :
    after.node? location ≠ some .directory ∧
      (outcome, after.text? location) = registrationResult directory scripts (tree.text? location) := by
  -- A directory in place of the entry file cannot be read, which counts as refused.
  have hnode : tree.node? location ≠ some .directory := by
    intro hnode
    have hrefused := registration_of_directory directory scripts h hnode
    rw [hrun] at hrefused
    exact hallowed hrefused
  have hcases := registration_run directory scripts h hnode
  rw [hrun] at hcases
  dsimp only at hcases
  split at hcases
  · rename_i hsame
    obtain ⟨rfl, rfl⟩ := Prod.mk.inj hcases
    exact ⟨hnode, Prod.ext rfl hsame.symm⟩
  · rcases hcases with hrefused | ⟨_, hcases, hnode, htext⟩
    · exact absurd hrefused hallowed
    · obtain ⟨rfl, rfl⟩ := Prod.mk.inj hcases
      exact ⟨hnode, Prod.ext rfl htext⟩

/-- Where the entry file has the action, registration leaves the tree as it is. -/
theorem registration_again (hnode : tree.node? location ≠ some .directory)
    (hstable : ∀ source, tree.text? location = some source →
      EntryFile.register source scripts.kind scripts.key = some source) :
    (registration directory scripts).run tree = (.ok [modulePath directory scripts.kind scripts.key,
      testPath directory scripts.kind scripts.key], tree) := by
  have hrun := registration_run directory scripts h hnode
  cases hsource : tree.text? location with
  | none =>
    rw [hsource, registrationResult] at hrun
    simpa using hrun
  | some source =>
    rw [hsource, registrationResult, hstable source hsource] at hrun
    simpa using hrun

end Registration

/-- Once both scripts are written, writing the action comes to the registration. To write it again, where
the scripts are still there, comes to the registration on the same tree. -/
theorem writeAction_of_writeScript {first second : FileTree} :
    let module := modulePath directory scripts.kind scripts.key
    let test := testPath directory scripts.kind scripts.key
    (writeScript module scripts.module).run tree = (.ok (), first) →
      (writeScript test scripts.test).run first = (.ok (), second) →
      FileTree.ChangesOnly [module, test] tree second ∧ second.read module = .ok scripts.module ∧
        second.read test = .ok scripts.test ∧
        (writeAction directory scripts).run tree = (registration directory scripts).run second ∧
        ∀ after, KeepsDirectories second after → after.read module = .ok scripts.module →
          after.read test = .ok scripts.test → ∃ again, Same after again ∧
            (writeAction directory scripts).run after = (registration directory scripts).run again := by
  intro module test hfirst hsecond
  simp only [writeAction_eq]
  obtain ⟨hmodule, hagain⟩ := writeScript_of_ok hfirst
  obtain ⟨htest, hagain'⟩ := writeScript_of_ok hsecond
  have hchanges := changesOnly_writeScript module scripts.module tree
  have hchanges' := changesOnly_writeScript test scripts.test first
  rw [hfirst] at hchanges
  rw [hsecond] at hchanges'
  refine ⟨(hchanges.mono (by simp)).trans (hchanges'.mono (by simp)), ?_, htest, ?_, ?_⟩
  · -- The module is not at the place of the test, which was written after it.
    refine hchanges'.keepsDirectories.read hmodule ?_
    rw [hchanges'.text?, text?_of_read hmodule]
    simpa using (place_testPath_ne_modulePath first directory scripts.kind scripts.key).symm
  · rw [Run.run_bind_of_ok hfirst, Run.run_bind_of_ok hsecond]
  · intro after hkeeps hmodule htest
    obtain ⟨again, hwritten, hsame⟩ := hagain after (hchanges'.keepsDirectories.trans hkeeps) hmodule
    obtain ⟨again', hwritten', hsame'⟩ :=
      hagain' again (hkeeps.trans hsame.keepsDirectories) (hsame.read htest)
    refine ⟨again', hsame.trans hsame', ?_⟩
    rw [Run.run_bind_of_ok hwritten, Run.run_bind_of_ok hwritten']

/-- Once both scripts are written, they stay as they are whatever comes of the registration, unless the
module is the entry file, where the action may be registered in it. -/
theorem text?_writeAction {first second : FileTree} :
    let module := modulePath directory scripts.kind scripts.key
    let test := testPath directory scripts.kind scripts.key
    let entry := Path.join directory entryName
    (writeScript module scripts.module).run tree = (.ok (), first) →
      (writeScript test scripts.test).run first = (.ok (), second) →
      let after := ((writeAction directory scripts).run tree).2
      after.text? (tree.place test) = some scripts.test ∧
        (after.text? (tree.place module) = some scripts.module ∨ tree.place module = tree.place entry ∧
          after.text? (tree.place module) = EntryFile.register scripts.module scripts.kind scripts.key) := by
  intro module test entry hfirst hsecond after
  obtain ⟨hchanges, hmodule, htest, hrun, -⟩ := writeAction_of_writeScript directory scripts hfirst hsecond
  have hplaces : second.place = tree.place := funext (place_eq hchanges.keepsDirectories.workingDirectory)
  have hmodule : second.text? (tree.place module) = some scripts.module := hplaces ▸ text?_of_read hmodule
  have htest : second.text? (tree.place test) = some scripts.test := hplaces ▸ text?_of_read htest
  have hafter := changesOnly_registration directory scripts second
  have hentry := text?_registration directory scripts second
  simp only [hplaces] at hentry
  rw [← hrun] at hafter hentry
  have hother : ∀ location, location ≠ tree.place entry → after.text? location = second.text? location :=
    fun location hne => hafter.text? location (by simpa [hplaces] using hne)
  refine ⟨(hother _ (place_testPath_ne_entryPath tree directory scripts.kind scripts.key)).trans htest, ?_⟩
  -- A key with slashes may lead the module to the place of the entry file.
  by_cases hsame : tree.place module = tree.place entry
  · rw [hsame] at hmodule ⊢
    rcases hentry with hkept | ⟨source, hsource, hregistered⟩
    · exact .inl (hkept.trans hmodule)
    · obtain rfl := Option.some.inj (hmodule.symm.trans hsource)
      exact .inr ⟨rfl, hregistered⟩
  · exact .inl ((hother _ hsame).trans hmodule)

/-- Writing an action is refused, unless both scripts can be written. -/
theorem refused_or_writeScript (tree : FileTree) :
    let module := modulePath directory scripts.kind scripts.key
    let test := testPath directory scripts.kind scripts.key
    Refused ((writeAction directory scripts).run tree).1 ∨ ∃ first second,
      (writeScript module scripts.module).run tree = (.ok (), first) ∧
        (writeScript test scripts.test).run first = (.ok (), second) := by
  intro module test
  rw [writeAction_eq]
  rcases writeScript_run module scripts.module tree with ⟨activities, fault, hrefused⟩ | ⟨first, hfirst, -⟩
  · exact .inl ⟨activities, fault, by rw [Run.run_bind_of_error (Prod.ext hrefused rfl)]⟩
  rw [Run.run_bind_of_ok hfirst]
  rcases writeScript_run test scripts.test first with ⟨activities, fault, hrefused⟩ | ⟨second, hsecond, -⟩
  · exact .inl ⟨activities, fault, by rw [Run.run_bind_of_error (Prod.ext hrefused rfl)]⟩
  · exact .inr ⟨first, second, hfirst, hsecond⟩

/-- Registering what was registered changes nothing. -/
theorem register_again {kind : ActionKind} {key source updated : String} (hkey : isName key)
    (hreturns : Text.returnsEndLines source.toList) (h : EntryFile.register source kind key = some updated) :
    EntryFile.register updated kind key = some updated := by
  obtain ⟨hreturn, hrequire, hentry⟩ :=
    EntryFile.registered_registerAll hkey hreturns h (List.forall_mem_nil _)
  exact EntryFile.register_of_any hreturn hrequire hentry

section Effect

variable {directory : String} {scripts : Scripts} {outcome : Except Failure (List String)}

/-- A script that is not the entry file is the same after registration. -/
theorem read_of_registration (hrun : (registration directory scripts).run tree = (outcome, after))
    (hread : tree.read path = .ok text)
    (hplace : tree.place path ≠ tree.place (Path.join directory entryName)) : after.read path = .ok text := by
  have hchanges := changesOnly_registration directory scripts tree
  rw [hrun] at hchanges
  refine hchanges.keepsDirectories.read hread ?_
  rw [hchanges.text? _ (by simpa using hplace), text?_of_read hread]

/-- After a registration that succeeded, the entry file has the action. -/
theorem stable_of_registration (hkey : isName scripts.key) {location : Location}
    (h : tree.locate (Path.join directory entryName) = .ok location)
    (hrun : (registration directory scripts).run tree = (outcome, after)) (hok : outcome.isOk)
    (hreturns : ∀ source, tree.text? location = some source → Text.returnsEndLines source.toList) :
    after.node? location ≠ some .directory ∧ ∀ source, after.text? location = some source →
      EntryFile.register source scripts.kind scripts.key = some source := by
  obtain ⟨hnode, hresult⟩ := registration_outcome directory scripts h hrun (not_refused_of_isOk hok)
  refine ⟨hnode, fun final hfinal => ?_⟩
  rw [hfinal] at hresult
  cases hsource : tree.text? location with
  | none =>
    rw [hsource] at hresult
    cases hresult
  | some source =>
    rw [hsource, registrationResult] at hresult
    -- Without a section registration fails; otherwise the file holds what registering gave.
    cases hregister : EntryFile.register source scripts.kind scripts.key with
    | none =>
      rw [hregister] at hresult
      obtain ⟨rfl, -⟩ := Prod.mk.inj hresult
      cases hok
    | some updated =>
      rw [hregister] at hresult
      obtain ⟨-, hfinal⟩ := Prod.mk.inj hresult
      obtain rfl := Option.some.inj hfinal
      exact register_again hkey (hreturns source hsource) hregister

end Effect

/-- What writing an action does to a project. No file changes but the module, the test and the entry file.
If no operation is refused, the scripts are in their files, and the entry file, if there is one, is as
before where it has no section for the action, and else has the action. After a success, writing the action
again writes the scripts alone, and changes nothing. -/
theorem writeAction_effect (tree : FileTree) (directory : String) {scripts : Scripts}
    (hkey : isName scripts.key) :
    let module := modulePath directory scripts.kind scripts.key
    let test := testPath directory scripts.kind scripts.key
    let entry := Path.join directory entryName
    ∀ outcome after, (writeAction directory scripts).run tree = (outcome, after) →
      (∀ location, location ∉ [module, test, entry].map tree.place →
        after.text? location = tree.text? location) ∧
      (¬ Refused outcome → after.read module = .ok scripts.module ∧ after.read test = .ok scripts.test ∧
        (outcome, after.text? (tree.place entry)) =
          registrationResult directory scripts (tree.text? (tree.place entry))) ∧
      (outcome.isOk → (∀ source, tree.text? (tree.place entry) = some source →
          Text.returnsEndLines source.toList) →
        ∃ again, (writeAction directory scripts).run after = (.ok [module, test], again) ∧
          Same after again) := by
  intro module test entry outcome after hrun
  have hframe := changesOnly_writeAction directory scripts tree
  rw [hrun] at hframe
  refine ⟨hframe.text?, ?_⟩
  -- Without both scripts the run was refused, and then it neither is allowed nor succeeds.
  rcases refused_or_writeScript directory scripts tree with hrefused | ⟨first, written, hfirst, hsecond⟩
  · rw [hrun] at hrefused
    exact ⟨fun hallowed => absurd hrefused hallowed, fun hok => absurd hrefused (not_refused_of_isOk hok)⟩
  obtain ⟨hchanges, hmodule, htest, hregistration, hagain⟩ :=
    writeAction_of_writeScript directory scripts hfirst hsecond
  rw [hregistration] at hrun
  have hslash : '/' ∉ scripts.key.toList := notMem_of_isName hkey (by decide)
  have hplaces : written.place = tree.place := funext (place_eq hchanges.keepsDirectories.workingDirectory)
  have hmoduleEntry := place_modulePath_ne_entryPath tree directory scripts.kind hslash
  have htestEntry := place_testPath_ne_entryPath tree directory scripts.kind scripts.key
  obtain ⟨location, hlocate, -⟩ := read_eq_ok.1 hmodule
  obtain ⟨location, hentry⟩ := exists_locate_entryPath written directory scripts.kind hslash hlocate
  obtain rfl := hplaces ▸ eq_place_of_locate hentry
  -- The entry file is still as it was.
  have hsource : written.text? (tree.place entry) = tree.text? (tree.place entry) := by
    refine hchanges.text? _ ?_
    simp [entry, hmoduleEntry.symm, htestEntry.symm]
  have hmodule' : after.read module = .ok scripts.module :=
    read_of_registration hrun hmodule (hplaces ▸ hmoduleEntry)
  have htest' : after.read test = .ok scripts.test := read_of_registration hrun htest (hplaces ▸ htestEntry)
  refine ⟨fun hallowed => ⟨hmodule', htest', ?_⟩, fun hok hreturns => ?_⟩
  · rw [← hsource]
    exact (registration_outcome directory scripts hentry hrun hallowed).2
  · -- Writing again finds the scripts as they are and the action in the entry file.
    obtain ⟨hnode, hstable⟩ := stable_of_registration hkey hentry hrun hok (hsource ▸ hreturns)
    have hkeeps := changesOnly_registration directory scripts written
    rw [hrun] at hkeeps
    obtain ⟨again, hsame, hrepeat⟩ := hagain after hkeeps.keepsDirectories hmodule' htest'
    have hentry' := (hkeeps.keepsDirectories.trans hsame.keepsDirectories).locate hentry
    refine ⟨again, ?_, hsame⟩
    rw [hrepeat]
    refine registration_again directory scripts hentry' (by rwa [hsame.node?]) fun source hsource => ?_
    exact hstable source (by rwa [← hsame.text?])

/-- An action is written twice to a project whose entry file has carriage returns. -/
theorem writeAction_effect_users :
    let source := "module.exports = \x7b\r\n  triggers: \x7b\x7d,\r\n\x7d;\n"
    let tree : FileTree := ⟨[(["app"], .directory), (["app", "index.js"], .file source)], []⟩
    let scripts : Scripts := ⟨.trigger, "users", "module text", "test text"⟩
    let after := ((writeAction "app" scripts).run tree).2
    let again := ((writeAction "app" scripts).run after).2
    ((writeAction "app" scripts).run tree).1 =
        .ok ["app/triggers/users.js", "app/test/triggers/users.test.js", "app/index.js"] ∧
      after.read "app/triggers/users.js" = .ok "module text" ∧
      ((writeAction "app" scripts).run after).1 =
        .ok ["app/triggers/users.js", "app/test/triggers/users.test.js"] ∧ Same after again := by
  intro source tree scripts after again
  have hpaths : modulePath "app" .trigger "users" = "app/triggers/users.js" ∧
      testPath "app" .trigger "users" = "app/test/triggers/users.test.js" := by decide +kernel
  have hok : ((writeAction "app" scripts).run tree).1 =
      .ok ["app/triggers/users.js", "app/test/triggers/users.test.js", "app/index.js"] := by decide +kernel
  obtain ⟨-, hallowed, hagain⟩ :=
    @writeAction_effect tree "app" scripts (by decide) _ after (Prod.ext hok rfl)
  -- The only line of the entry file that matters ends with a single carriage return.
  have hsource : ∀ text, tree.text? (tree.place (Path.join "app" entryName)) = some text →
      Text.returnsEndLines text.toList := by
    intro text htext
    have hentry : tree.text? (tree.place (Path.join "app" entryName)) = some source := by decide +kernel
    obtain rfl := Option.some.inj (hentry.symm.trans htext)
    decide
  obtain ⟨final, hrun, hsame⟩ := hagain rfl hsource
  refine ⟨hok, ?_, ?_, ?_⟩
  · rw [← hpaths.1]
    exact (hallowed (not_refused_of_isOk rfl)).1
  · rw [hrun, hpaths.1, hpaths.2]
  · rw [show again = final from congrArg Prod.snd hrun]
    exact hsame

end ActionForge.Project
