import ActionForge.CommandLine.Run
import ActionForge.Proofs.Generation
import ActionForge.Proofs.Project.Writing

/-!
# Effects of command lines

Commands read before they write. Settings and schema are loaded and the action is generated by a run that
only reads (`Options.preparation`), a dry run prints what it comes to, and any other run writes that. So a
command line that has nothing to write leaves the tree as it is, and the scripts that a dry run prints are
those that are written (`run_effects`).
-/

namespace ActionForge

namespace Options

variable (options : Options) (environment : Environment)

/-! ## Reading -/

/-- Loading settings and schema changes no file, whether the schema comes from a file or a service. -/
theorem readsOnly_load : Run.ReadsOnly (options.load environment) := by
  refine .bind ?_ fun settings => .bind (.lift _) fun source => .bind ?_ fun schema => .pure _
  · refine .bind (.isThere _) fun present => ?_
    cases present with
    | false => exact .pure _
    | true => exact .bind (.look _ _) fun text => .lift _
  · cases source with
    | service address headers => exact .lift _
    | file path => exact .bind (.look _ _) fun text => .lift _

/-- What is done for an action before anything is written. -/
def preparation (kind : ActionKind) (operation : String) : Run Scripts := do
  let context ← options.load environment
  let action ← Run.lift ((context.generate kind operation).mapError fun error =>
    (Cause.action error).failure.during (.generating kind operation))
  return action.scripts context.settings environment.time

/-- Preparing the scripts of an action changes no file. -/
theorem readsOnly_preparation (kind : ActionKind) (operation : String) :
    Run.ReadsOnly (options.preparation environment kind operation) :=
  .bind (options.readsOnly_load environment) fun _ => .bind (.lift _) fun _ => .pure _

/-- What is done with the scripts of an action. -/
def delivery (scripts : Scripts) : Run String := do
  if options.dryRun then return options.preview scripts
  let written ← Project.writeAction options.projectDirectory scripts
  return entriesReport options.output environment.display (written.map fun path => ("written", path))

/-- Generating is preparing the scripts and delivering them. -/
theorem runGenerate_eq (kind : ActionKind) (operation : String) :
    options.runGenerate environment kind operation =
      (options.preparation environment kind operation >>= options.delivery environment) := by
  simp only [runGenerate, preparation, delivery, bind_assoc, pure_bind]

/-- What was loaded and the action that it gives determine the scripts that are prepared. -/
theorem preparation_of_generate {kind : ActionKind} {operation : String} {tree : FileTree} {context : Context}
    {action : Action} (hload : ((options.load environment).run tree).1 = .ok context)
    (hgenerate : context.generate kind operation = .ok action) :
    ((options.preparation environment kind operation).run tree).1 =
      .ok (action.scripts context.settings environment.time) := by
  rw [preparation, Run.run_bind_of_ok (Prod.ext hload rfl), hgenerate]
  rfl

/-- The scripts are those of the action that was asked for. -/
theorem kind_and_key_of_preparation {kind : ActionKind} {operation : String} {tree : FileTree}
    {scripts : Scripts} (h : ((options.preparation environment kind operation).run tree).1 = .ok scripts) :
    scripts.kind = kind ∧ scripts.key = operation := by
  obtain ⟨context, mid, -, h⟩ := Run.exists_of_run_bind h
  obtain ⟨action, after, hlift, h⟩ := Run.exists_of_run_bind h
  obtain rfl := Except.ok.inj h
  rw [Run.run_lift] at hlift
  cases hgenerate : context.generate kind operation with
  | error e =>
    rw [hgenerate] at hlift
    cases hlift
  | ok generated =>
    rw [hgenerate] at hlift
    obtain rfl := Except.ok.inj (Prod.mk.inj hlift).1
    obtain ⟨root, -, -, rfl⟩ := (context.generate_eq_ok_iff kind operation generated).1 hgenerate
    exact ⟨rfl, rfl⟩

/-- A description is read and never written. -/
theorem readsOnly_runDescribe (kind : OperationKind) (operation : String) :
    Run.ReadsOnly (options.runDescribe environment kind operation) :=
  .bind (options.readsOnly_load environment) fun _ => .bind (.lift _) fun _ => .pure _

/-! ## Writing -/

/-- Saving settings changes the settings file and makes directories above it. -/
theorem changesOnly_saveSettings (path : String) (settings : Settings) :
    Run.ChangesOnly [path] (Project.saveSettings path settings) :=
  ((Project.changesOnly_makeParent path _).mono (by simp)).bind fun _ =>
    Project.changesOnly_write _ path _

/-- Default settings are written unless there are settings that are kept, and not in a dry run. -/
theorem runInit_cases (force : Bool) (tree : FileTree) :
    (options.runInit environment force).run tree =
      if tree.isThere options.settingsPath && !force then
        (.error (Cause.settingsExist options.settingsPath).failure, tree)
      else if options.dryRun then (.ok (Project.settingsText Settings.default), tree)
      else (do
        Project.saveSettings options.settingsPath Settings.default
        return entriesReport options.output environment.display
          [("config", options.settingsPath)] : Run String).run tree := by
  rw [runInit, Run.run_bind_of_ok (Run.run_isThere _ _)]
  -- Whether the file is there and which flags are set decides all three branches.
  cases tree.isThere options.settingsPath <;> cases force <;> cases options.dryRun <;> rfl

/-- The command `init` changes no file but that of the settings, and often not even that. -/
theorem changesOnly_runInit (force : Bool) :
    Run.ChangesOnly [options.settingsPath] (options.runInit environment force) := by
  intro tree
  rw [runInit_cases]
  split
  · exact .refl _ tree
  · split
    · exact .refl _ tree
    · exact (changesOnly_saveSettings _ _).bind (fun _ => (Run.ReadsOnly.pure _).changesOnly _) tree

/-- A generation that is prepared comes to what is done with the scripts, on the same tree. -/
theorem runGenerate_of_preparation {kind : ActionKind} {operation : String} {tree : FileTree}
    {scripts : Scripts} (h : ((options.preparation environment kind operation).run tree).1 = .ok scripts) :
    (options.runGenerate environment kind operation).run tree =
      (options.delivery environment scripts).run tree := by
  rw [runGenerate_eq]
  exact Run.run_bind_of_ok (Prod.ext h (options.readsOnly_preparation environment kind operation tree))

/-- The scripts of an action are written, except in a dry run. -/
theorem snd_delivery (scripts : Scripts) (tree : FileTree) (h : options.dryRun = false) :
    ((options.delivery environment scripts).run tree).2 =
      ((Project.writeAction options.projectDirectory scripts).run tree).2 := by
  rw [delivery, if_neg (by simp [h])]
  exact Run.snd_run_bind (fun _ => .pure _) tree

/-- What is printed for an action was prepared. -/
theorem exists_preparation {options : Options} {environment : Environment} {kind : ActionKind}
    {operation : String} {tree : FileTree} {printed : String}
    (h : ((options.runGenerate environment kind operation).run tree).1 = .ok printed) :
    ∃ scripts, ((options.preparation environment kind operation).run tree).1 = .ok scripts := by
  rw [runGenerate_eq] at h
  obtain ⟨scripts, mid, hprepared, -⟩ := Run.exists_of_run_bind h
  exact ⟨scripts, by rw [hprepared]⟩

end Options

namespace CommandLine

/-- A command line as a dry run or not. -/
def dry (line : CommandLine) (dryRun : Bool) : CommandLine :=
  { line with options := { line.options with dryRun } }

/-- The command lines that have nothing to write. -/
inductive ShowsOnly (line : CommandLine) (environment : Environment) (tree : FileTree) : Prop
  | dryRun (h : line.options.dryRun)
  | describe (kind : OperationKind) (operation : String) (h : line.command = .describe kind operation)
  | version (h : line.command = .version)
  | keptSettings (h : line.command = .init false) (hthere : tree.isThere line.options.settingsPath)
  | failedPreparation (kind : ActionKind) (operation : String) (failure : Failure)
      (h : line.command = .generate kind operation)
      (hfailure : ((line.options.preparation environment kind operation).run tree).1 = .error failure)

variable {line : CommandLine} {environment : Environment} {tree : FileTree}

/-- In a dry run no command changes the tree. -/
theorem snd_run_of_dryRun (h : line.options.dryRun) : ((line.run environment).run tree).2 = tree := by
  rw [run]
  split
  · rename_i force hcommand
    rw [Options.runInit_cases, if_pos h]
    split <;> rfl
  · rename_i kind operation hcommand
    refine (?_ : Run.ReadsOnly _) tree
    rw [Options.runGenerate_eq]
    refine .bind (line.options.readsOnly_preparation environment kind operation) fun scripts => ?_
    rw [Options.delivery, if_pos h]
    exact .pure _
  · exact line.options.readsOnly_runDescribe environment _ _ tree
  · rfl

/-- A command line that has nothing to write leaves the tree as it is. -/
theorem ShowsOnly.snd_run (h : line.ShowsOnly environment tree) :
    ((line.run environment).run tree).2 = tree := by
  cases h with
  | dryRun h => exact snd_run_of_dryRun h
  | describe kind operation h =>
    rw [run, h]
    exact line.options.readsOnly_runDescribe environment kind operation tree
  | version h =>
    rw [run, h]
    rfl
  | keptSettings h hthere =>
    rw [run, h]
    show ((line.options.runInit environment false).run tree).2 = tree
    rw [Options.runInit_cases, hthere]
    rfl
  -- Preparing only reads, so a run that fails in it has changed nothing yet.
  | failedPreparation kind operation failure h hfailure =>
    rw [run, h]
    show ((line.options.runGenerate environment kind operation).run tree).2 = tree
    rw [Options.runGenerate_eq, Run.run_bind_of_error
      (Prod.ext hfailure (line.options.readsOnly_preparation environment kind operation tree))]

/-- Once the scripts are prepared, a dry run prints them and any other run writes them. -/
theorem run_of_preparation {kind : ActionKind} {operation : String} {scripts : Scripts}
    (hcommand : line.command = .generate kind operation)
    (h : ((line.options.preparation environment kind operation).run tree).1 = .ok scripts) :
    (((line.dry true).run environment).run tree).1 = .ok (line.options.preview scripts) ∧
      (((line.dry false).run environment).run tree).2 =
        ((Project.writeAction line.options.projectDirectory scripts).run tree).2 := by
  have hrun : ∀ dryRun, (line.dry dryRun).run environment =
      (line.dry dryRun).options.runGenerate environment kind operation := fun dryRun => by
    rw [run, show (line.dry dryRun).command = _ from hcommand]
  -- Preparation does not ask whether this is a dry run.
  have hprepared : ∀ dryRun,
      (((line.dry dryRun).options.preparation environment kind operation).run tree).1 = .ok scripts :=
    fun _ => h
  rw [hrun, hrun, Options.runGenerate_of_preparation _ _ (hprepared true),
    Options.runGenerate_of_preparation _ _ (hprepared false)]
  exact ⟨rfl, Options.snd_delivery _ environment scripts tree rfl⟩

/-- What command lines do to files. Those that have nothing to write leave the tree as it is, and `init`
changes the settings file only. If a dry run for an action succeeds, it prints the paths of the module and
the test with their texts. Where the two can be written, the same line as no dry run writes these texts to
these paths, whatever comes of the registration, and changes no other file but the entry file. The module
is what was printed unless its path leads to the entry file: then the action may be registered in it. -/
theorem run_effects (line : CommandLine) (environment : Environment) (tree : FileTree) :
    let after := ((line.run environment).run tree).2
    (line.ShowsOnly environment tree → after = tree) ∧
    (∀ force, line.command = .init force → FileTree.ChangesOnly [line.options.settingsPath] tree after) ∧
    ∀ kind operation printed, line.command = .generate kind operation →
      (((line.dry true).run environment).run tree).1 = .ok printed →
      let module := Project.modulePath line.options.projectDirectory kind operation
      let test := Project.testPath line.options.projectDirectory kind operation
      let entry := Path.join line.options.projectDirectory Project.entryName
      ∃ moduleText testText,
        printed = "// " ++ module ++ "\n" ++ moduleText ++ "\n" ++ "// " ++ test ++ "\n" ++ testText ∧
        ∀ first second, (Project.writeScript module moduleText).run tree = (.ok (), first) →
          (Project.writeScript test testText).run first = (.ok (), second) →
          let written := (((line.dry false).run environment).run tree).2
          FileTree.ChangesOnly [module, test, entry] tree written ∧
            written.text? (tree.place test) = some testText ∧
            (written.text? (tree.place module) = some moduleText ∨ tree.place module = tree.place entry ∧
              written.text? (tree.place module) = EntryFile.register moduleText kind operation) := by
  refine ⟨ShowsOnly.snd_run, fun force h => ?_, ?_⟩
  · rw [run, h]
    exact line.options.changesOnly_runInit environment force tree
  · intro kind operation printed hcommand hdry module test entry
    have hgenerate : (line.dry true).run environment =
        (line.dry true).options.runGenerate environment kind operation := by
      rw [run, show (line.dry true).command = _ from hcommand]
    -- A dry run that succeeds has prepared scripts, and these are what any other run writes.
    obtain ⟨scripts, hprepared⟩ := Options.exists_preparation (hgenerate ▸ hdry)
    obtain ⟨hprinted, hwritten⟩ := run_of_preparation hcommand hprepared
    obtain ⟨rfl, rfl⟩ := Options.kind_and_key_of_preparation _ _ hprepared
    obtain rfl := Except.ok.inj (hdry.symm.trans hprinted)
    refine ⟨scripts.module, scripts.test, rfl, fun first second hfirst hsecond => ?_⟩
    simp only [hwritten]
    exact ⟨Project.changesOnly_writeAction line.options.projectDirectory scripts tree,
      Project.text?_writeAction line.options.projectDirectory scripts hfirst hsecond⟩

/-! ## A module that is the entry file -/

/-- A project whose schema has a root field that leads out of its section, and whose request has a header
with the name of the section. -/
def strayProject : FileTree where
  nodes :=
    [([".zapiergraphql.json"],
        .file "\x7b\"request\":\x7b\"headers\":\x7b\"triggers\":\"\x7b\"\x7d\x7d\x7d"),
      (["s.json"], .file ("\x7b\"__schema\":\x7b\"queryType\":\x7b\"name\":\"Q\"\x7d," ++
        "\"types\":[\x7b\"kind\":\"OBJECT\",\"name\":\"Q\",\"fields\":[\x7b\"name\":\"../index\"," ++
        "\"args\":[],\"type\":\x7b\"kind\":\"SCALAR\",\"name\":\"Int\"\x7d\x7d]\x7d]\x7d\x7d"))]
  workingDirectory := []

/-- A trigger for that root field. -/
def strayLine : CommandLine where
  options :=
    { output := .table, dryRun := false, projectDirectory := ".", settingsFile := none,
      schemaFile := some "s.json", address := none }
  command := .generate .trigger "../index"

/-- An environment without variables and network. -/
def silentEnvironment : Environment where
  envVar _ := none
  network _ _ := .unreachable
  time := "2024-05-01T12:00:00Z"

/-- The scripts of that trigger. -/
def strayScripts : Scripts :=
  ((strayLine.options.preparation silentEnvironment .trigger "../index").run strayProject).1.toOption.getD
    ⟨.trigger, "", "", ""⟩

/-- The scripts are prepared, and the module has a line that opens the section, so the action is registered
in it. -/
theorem prepared_strayScripts :
    ((strayLine.options.preparation silentEnvironment .trigger "../index").run strayProject).1 =
        .ok strayScripts ∧
      ∃ updated, EntryFile.register strayScripts.module .trigger "../index" = some updated ∧
        updated ≠ strayScripts.module := by
  have hrequire : (EntryFile.requireLine .trigger "../index").toList =
      "const indexTrigger = require('./triggers/../index');".toList := by decide +kernel
  have hentry : (EntryFile.entryLine .trigger "../index").toList =
      "[indexTrigger.key]: indexTrigger,".toList := by decide +kernel
  have hsection : ActionKind.trigger.sectionName.toList = "triggers".toList := rfl
  -- Texts are evaluated as lists of characters, which is faster.
  rw [String.toList_ofList] at hrequire hentry hsection
  have hevaluated : ((strayLine.options.load silentEnvironment).run strayProject).1.map (fun context =>
      (context.generate .trigger "../index").map fun action =>
        let source := (action.moduleText context.settings silentEnvironment.time).toList
        (EntryFile.registerLines .trigger "../index" (Text.lines source)).any fun grown =>
          EntryFile.joinLike source grown != source) = .ok (.ok true) := by
    simp only [EntryFile.registerLines, hrequire, hentry, hsection, Action.moduleText, String.toList_join]
    decide +kernel
  obtain ⟨context, hload, hgenerated⟩ := exists_of_map_eq_ok hevaluated
  obtain ⟨action, hgenerate, hregistered⟩ := exists_of_map_eq_ok hgenerated
  obtain ⟨grown, hgrown, hne⟩ := (Option.any_eq_true _ _).1 hregistered
  have hprepared := Options.preparation_of_generate _ _ hload hgenerate
  have hscripts : strayScripts = action.scripts context.settings silentEnvironment.time := by
    rw [strayScripts, hprepared]
    rfl
  rw [hscripts]
  refine ⟨hprepared, _, congrArg (Option.map _) hgrown, fun hsame => bne_iff_ne.1 hne ?_⟩
  rw [← String.toList_inj, String.toList_ofList] at hsame
  exact hsame

/-- Both scripts can be written, and then the entry file, which is where the module lies. -/
theorem writable_strayScripts : ∃ first second,
    (Project.writeScript "./triggers/../index.js" strayScripts.module).run strayProject = (.ok (), first) ∧
      (Project.writeScript "./test/triggers/../index.test.js" strayScripts.test).run first =
        (.ok (), second) ∧
      second.locate "./triggers/../index.js" = .ok ["index.js"] ∧
      second.writeLocation "./index.js" = .ok ["index.js"] := by
  let first := ((Project.writeScript "./triggers/../index.js" strayScripts.module).run strayProject).2
  let second := ((Project.writeScript "./test/triggers/../index.test.js" strayScripts.test).run first).2
  have hfirst : ((Project.writeScript "./triggers/../index.js" strayScripts.module).run strayProject).1 =
      .ok () := by decide +kernel
  have hsecond : ((Project.writeScript "./test/triggers/../index.test.js" strayScripts.test).run first).1 =
      .ok () := by decide +kernel
  have hmodule : second.locate "./triggers/../index.js" = .ok ["index.js"] := by decide +kernel
  have hentry : second.writeLocation "./index.js" = .ok ["index.js"] := by decide +kernel
  exact ⟨first, second, Prod.ext hfirst rfl, Prod.ext hsecond rfl, hmodule, hentry⟩

/-- The module of that trigger is written over the entry file, and the action is registered in it. -/
theorem text?_strayModule : ∃ first second,
    (((strayLine.dry true).run silentEnvironment).run strayProject).1 =
      .ok ("// " ++ "./triggers/../index.js" ++ "\n" ++ strayScripts.module ++ "\n" ++
        "// " ++ "./test/triggers/../index.test.js" ++ "\n" ++ strayScripts.test) ∧
    (Project.writeScript "./triggers/../index.js" strayScripts.module).run strayProject = (.ok (), first) ∧
    (Project.writeScript "./test/triggers/../index.test.js" strayScripts.test).run first = (.ok (), second) ∧
    (((strayLine.dry false).run silentEnvironment).run strayProject).2.text?
      (strayProject.place "./triggers/../index.js") ≠ some strayScripts.module := by
  obtain ⟨hprepared, updated, hregister, hne⟩ := prepared_strayScripts
  obtain ⟨hprinted, hwritten⟩ :=
    @run_of_preparation strayLine silentEnvironment strayProject _ _ _ rfl hprepared
  obtain ⟨hkind, hkey⟩ := Options.kind_and_key_of_preparation _ _ hprepared
  obtain ⟨first, second, hfirst, hsecond, hmodule, hentry⟩ := writable_strayScripts
  have hpaths : Project.modulePath "." strayScripts.kind strayScripts.key = "./triggers/../index.js" ∧
      Project.testPath "." strayScripts.kind strayScripts.key = "./test/triggers/../index.test.js" ∧
      Path.join "." Project.entryName = "./index.js" := by
    rw [hkind, hkey]
    decide +kernel
  refine ⟨first, second, ?_, hfirst, hsecond, ?_⟩
  · rw [hprinted, ← hpaths.1, ← hpaths.2.1]
    rfl
  · obtain ⟨hchanges, hread, -, hrun, -⟩ := Project.writeAction_of_writeScript "." strayScripts
      (hpaths.1 ▸ hfirst) (hpaths.2.1 ▸ hsecond)
    rw [hpaths.1] at hread
    obtain ⟨hform, hlocate, -⟩ := FileTree.writeLocation_eq_ok.1 hentry
    -- The path of the module leads to the entry file, which is where the tree is looked at.
    have hplace : strayProject.place "./triggers/../index.js" = ["index.js"] := by
      rw [← FileTree.place_eq hchanges.keepsDirectories.workingDirectory,
        ← FileTree.eq_place_of_locate hmodule]
    have hnode : second.node? ["index.js"] = some (.file strayScripts.module) := by
      rw [← FileTree.text?_eq_some, FileTree.eq_place_of_locate hmodule, FileTree.text?_of_read hread]
    have hsource : second.read "./index.js" = .ok strayScripts.module :=
      FileTree.read_eq_ok.2 ⟨_, hlocate, hnode⟩
    have hwrite : second.write "./index.js" updated = .ok (second.put ["index.js"] (.file updated)) :=
      FileTree.write_eq_ok.2 ⟨hform, _, hlocate, by simp [hnode], rfl⟩
    have hthere : second.isThere "./index.js" = true := by
      rw [FileTree.isThere_of_locate hlocate, hnode, Option.isSome_some]
    -- Registration comes last, so what it writes is what remains.
    have hfinal : ((Project.writeAction "." strayScripts).run strayProject).2 =
        second.put ["index.js"] (.file updated) := by
      rw [hrun, Project.snd_registration, hpaths.2.2, if_pos hthere, Project.registerIn_run hsource, hkind,
        hkey, hregister]
      simp only [if_neg hne, hwrite]
    rw [hwritten, show strayLine.options.projectDirectory = "." from rfl, hfinal, hplace, Ne,
      FileTree.text?_eq_some, FileTree.node?_put (by decide), if_pos rfl]
    simpa using hne

end CommandLine

end ActionForge
