import ModelForge.Proofs.Compile.Present

/-! What the tools are asked. Up to the first request a compilation does not depend on the tools,
and from then on it is two requests one after the other. The paths in them are those at which the
stages before have put things. -/
namespace ModelForge

namespace Compile

open Disk Stage

variable {here : Location} {settings : Settings} {model : Model} {toolchain : Toolchain}
  {disk : Disk} {progress final : Progress} {result : Except Error Unit}

/-- The stages before the first request. -/
def Stage.preparing : List Stage := all.take 10

theorem Stage.run_untooled {stage : Stage} (prepares : stage ∈ preparing) (a b : Toolchain) :
    stage.run here settings model a = stage.run here settings model b := by
  cases stage with
  | folder | source | schemas => rfl
  | bindings | build => exact absurd prepares (by decide)

theorem runAll_untooled {stages : List Stage} (prepare : stages ⊆ preparing) (a b : Toolchain) :
    runAll here settings model a stages = runAll here settings model b stages := by
  induction stages with
  | nil => rfl
  | cons stage rest ih =>
    rw [runAll, runAll, run_untooled (prepare List.mem_cons_self) a b,
      ih fun other member => prepare (List.mem_cons_of_mem _ member)]

/-- Nothing is asked and nothing is printed by operations on the disk. -/
theorem copyModules_quiet (modules : List SchemaModule)
    (ran : (copyModules here settings model modules).run.run progress = (result, final)) :
    final.requests = progress.requests ∧ final.printed = progress.printed := by
  induction modules generalizing progress with
  | nil =>
    cases ran
    exact ⟨rfl, rfl⟩
  | cons m rest ih =>
    rw [run_copyModules_cons] at ran
    split at ran
    · obtain ⟨requests, printed⟩ := ih ran
      exact ⟨requests, printed⟩
    · cases ran
      exact ⟨rfl, rfl⟩

theorem Stage.run_quiet {stage : Stage} (prepares : stage ∈ preparing)
    (ran : (stage.run here settings model toolchain).run.run progress = (result, final)) :
    final.requests = progress.requests ∧ final.printed = progress.printed := by
  cases stage with
  | folder f =>
    rw [Stage.run, Run.run_ensure] at ran
    cases ran
    exact ⟨rfl, rfl⟩
  | source kind =>
    rw [Stage.run, generate, Run.run_onDisk] at ran
    cases ran
    exact ⟨rfl, rfl⟩
  | schemas => exact copyModules_quiet _ ran
  | bindings | build => exact absurd prepares (by decide)

theorem runAll_quiet {stages : List Stage} (prepare : stages ⊆ preparing)
    (ran : (runAll here settings model toolchain stages).run.run progress = (result, final)) :
    final.requests = progress.requests ∧ final.printed = progress.printed := by
  induction stages generalizing progress with
  | nil =>
    cases ran
    exact ⟨rfl, rfl⟩
  | cons stage rest ih =>
    rw [runAll, Run.run_bind] at ran
    rcases first : (stage.run here settings model toolchain).run.run progress with
      ⟨_ | ⟨⟩, middle⟩
    all_goals
      rw [first] at ran
      obtain ⟨requests, printed⟩ := run_quiet (prepare List.mem_cons_self) first
    · cases ran
      exact ⟨requests, printed⟩
    · obtain ⟨requests', printed'⟩ := ih (fun other member =>
        prepare (List.mem_cons_of_mem _ member)) ran
      exact ⟨requests'.trans requests, printed'.trans printed⟩

/-- The two requests, the second if the first is met. -/
def callTools (here : Location) (settings : Settings) (toolchain : Toolchain) (model : Model)
    (ready : Disk) : Except Error Artifact × Progress :=
  let bindings := bindingRequest settings model
  let build := buildRequest settings model
  let bound := toolchain.perform here bindings ready
  match bound.result with
  | .error error => (.error error, ⟨bound.disk, [bindings], bound.printed⟩)
  | .ok () =>
    let built := toolchain.perform here build bound.disk
    (built.result.map fun _ => artifact settings model,
      ⟨built.disk, [bindings, build], bound.printed ++ built.printed⟩)

theorem unprinted_append (printed : Process.Printed) : {} ++ printed = printed := by
  obtain ⟨output, complaint⟩ := printed
  change (⟨"" ++ output, "" ++ complaint⟩ : Process.Printed) = _
  simp

/-- When everything has been prepared, what is left are the requests. -/
theorem runAll_callTools {two ready : Disk}
    (ran : (runAll here settings model toolchain preparing).run.run ⟨two, [], {}⟩ =
      (.ok (), ⟨ready, [], {}⟩)) :
    Prod.map (·.map fun _ => artifact settings model) id
        ((runAll here settings model toolchain all).run.run ⟨two, [], {}⟩) =
      callTools here settings toolchain model ready := by
  have shape : all = preparing ++ [bindings, build] := rfl
  rw [shape, runAll_append, Run.run_bind, ran]
  simp only [runAll, Stage.run, bind_pure_unit, Run.run_bind, Run.run_perform, callTools,
    List.nil_append, unprinted_append]
  rcases (toolchain.perform here (bindingRequest settings model) ready).result with _ | ⟨⟩ <;> rfl

/-- A compilation either ends without asking the tools for anything, or comes to a disk on which it
asks them. Either does not depend on the tools. -/
theorem compile_until_tools (here : Location) (settings : Settings) (model : Model) (disk : Disk) :
    (∃ error progress, progress.requests = [] ∧
      ∀ toolchain, compile here settings toolchain model disk = (.error error, progress)) ∨
    ∃ one two ready, disk.ensureDirectory here settings.outputPath = (.ok (), one) ∧
      one.ensureDirectory here (model.directory settings.outputPath) = (.ok (), two) ∧
      (∀ toolchain, (runAll here settings model toolchain preparing).run.run ⟨two, [], {}⟩ =
        (.ok (), ⟨ready, [], {}⟩)) ∧
      ∀ toolchain, compile here settings toolchain model disk =
        callTools here settings toolchain model ready := by
  cases accepted : model.validate with
  | error cause =>
    exact .inl ⟨.descriptor cause, ⟨disk, [], {}⟩, rfl, fun _ => by rw [compile, accepted]⟩
  | ok =>
    rcases root : disk.ensureDirectory here settings.outputPath with ⟨fault | ⟨⟩, one⟩
    · exact .inl ⟨_, _, rfl, fun _ => compile_noRoot accepted root⟩
    rcases directory : one.ensureDirectory here (model.directory settings.outputPath) with
      ⟨fault | ⟨⟩, two⟩
    · exact .inl ⟨_, _, rfl, fun _ => compile_noDirectory accepted root directory⟩
    have same : ∀ toolchain, runAll here settings model toolchain preparing =
        runAll here settings model (.standIn false false) preparing := fun toolchain =>
      runAll_untooled (List.Subset.refl _) toolchain _
    rcases ran : (runAll here settings model (.standIn false false) preparing).run.run
      ⟨two, [], {}⟩ with ⟨error | ⟨⟩, ⟨ready, requests, printed⟩⟩
    · obtain ⟨rfl, rfl⟩ := runAll_quiet (List.Subset.refl _) ran
      refine .inl ⟨error, ⟨ready, [], {}⟩, rfl, fun toolchain => ?_⟩
      have shape : all = preparing ++ [bindings, build] := rfl
      rw [compile_eq_stages accepted root directory, shape, runAll_append, Run.run_bind,
        same toolchain, ran]
      rfl
    · obtain ⟨rfl, rfl⟩ := runAll_quiet (List.Subset.refl _) ran
      refine .inr ⟨one, two, ready, rfl, directory, fun toolchain => by rw [same toolchain, ran],
        fun toolchain => ?_⟩
      rw [compile_eq_stages accepted root directory, runAll_callTools]
      rw [same toolchain, ran]

theorem isEmpty_directory_any (model : Model) (output : Path) :
    (model.directory output).isEmpty = false := by
  by_cases absolute : (Path.mk model.safeName).isAbsolute = true
  · simp [Model.directory, Path.child, Path.join, absolute, Model.isEmpty_safeName]
  · exact output.isEmpty_join (by simpa using absolute) model.isEmpty_safeName

theorem manifest_outside {two : Disk} (outside : two.entryAt here ≠ some .directory)
    (rest : List Stage) :
    (runAll here settings model toolchain (source .manifest :: rest)).run.run ⟨two, [], {}⟩ =
      (.error (.io .generateManifest ⟨"."⟩ .notFound), ⟨two, [], {}⟩) := by
  rw [runAll, Run.run_bind, Stage.run, generate, Run.run_onDisk]
  simp [outside, Step.ofKind]

theorem packageDirectory_within (output : Path) (model : Model) :
    model.packageDirectory output = (model.directory output).within ["src", "plugin"] := by
  simp only [Model.packageDirectory, Model.sourceDirectory, Path.within, List.foldl]

/-- When the tools are asked, every schema file is there, and so is the directory in which the
bindings are wanted. -/
theorem ready_prepared {one two ready : Disk} (free : disk.LinkFree)
    (root : disk.ensureDirectory here settings.outputPath = (.ok (), one))
    (directory : one.ensureDirectory here (model.directory settings.outputPath) = (.ok (), two))
    (ran : (runAll here settings model (.standIn false false) preparing).run.run ⟨two, [], {}⟩ =
      (.ok (), ⟨ready, [], {}⟩)) :
    (∀ m ∈ model.modules, ready.pathExists here (model.schemaFile settings.outputPath m) = true) ∧
      ready.isDirectory here (model.packageDirectory settings.outputPath) = true := by
  obtain ⟨second, there⟩ := ensureDirectory_spec directory
  have freeTwo := second.linkFree ((ensureDirectory_spec root).1.linkFree free)
  have inside : two.entryAt here = some .directory := by
    by_contra outside
    have shape : preparing = source .manifest :: preparing.tail := rfl
    rw [shape, manifest_outside outside] at ran
    cases ran
  have site := site_of_isDirectory freeTwo inside (there rfl (isEmpty_directory_any model _))
  have shape : preparing = early ++ [schemas] := rfl
  rw [shape, runAll_append] at ran
  obtain ⟨⟨⟩, middle, ranEarly, ranSchemas⟩ := Run.run_bind_ok ran
  obtain ⟨changes, sites⟩ := runAll_fixed early [[]] (by decide) placed_early
    (sites_of_site site) ranEarly
  rw [made_early] at sites
  have package := sites rfl ["src", "plugin"] (by simp)
  rw [runAll, runAll, bind_pure_unit, Stage.run] at ranSchemas
  obtain ⟨⟨-, kept⟩, -, present⟩ := copyModules_present model.modules (changes.linkFree freeTwo)
    package.inside ranSchemas
  refine ⟨present, ?_⟩
  rw [packageDirectory_within]
  exact package.isDirectory_keeps kept

/-- A schema file goes to the same path whether it is joined from the root of the tree or from the
schema directory. -/
theorem schemaFile_path (output : Path) (model : Model) (m : SchemaModule) :
    (model.directory output).join (Path.child ⟨"yang"⟩ m.fileName) = model.schemaFile output m := by
  rw [Path.child, ← Path.join_assoc]
  rfl

theorem outputFile_path (output : Path) (model : Model) :
    (model.directory output).join ((Path.child ⟨"src"⟩ Source.packageName).child "generated.rs") =
      model.packageFile output "generated.rs" := by
  rw [bindings_path, Model.packageFile, packageDirectory_within]

theorem callTools_file {ready : Disk} {made : Artifact} {final : Progress}
    (called : callTools here settings toolchain model ready = (.ok made, final)) :
    made = artifact settings model := by
  unfold callTools at called
  dsimp only at called
  split at called
  · cases congrArg Prod.fst called
  · rcases built : (toolchain.perform here (buildRequest settings model)
      (toolchain.perform here (bindingRequest settings model) ready).disk).result with _ | ⟨⟩
    all_goals
      have result := congrArg Prod.fst called
      rw [built] at result
      cases result
    rfl

/-- The modules as a definition sees them. -/
theorem modules_value (context : Source.Context) :
    Template.Scope.inBindings context.bindings "model.modules" =
      some (.list (context.model.modules.map Source.Context.moduleValue)) := by
  have cut : Text.cut? '.' "model.modules".toList =
      some ("model".toList, "modules".toList) := by decide
  unfold Template.Scope.inBindings
  rw [cut]
  rfl

/-- The tools are called with exactly what was prepared, whatever the names. The schema files in
the request are those that were copied, one for each module and in order, and their names are the
ones in the templates; the output file lies in the package directory, and the artifact is the one
of the result. A compilation that asks for anything has come to a disk that does not depend on the
tools, and if that has no links, every schema file is there and so is the directory of the output
file. -/
theorem tools_called (here : Location) (settings : Settings) (model : Model) (disk : Disk) :
    ∃ schemaFiles outputFile,
      bindingRequest settings model = .bindings
        ⟨model.directory settings.outputPath, model.libraryName⟩ schemaFiles outputFile
        Source.packageName ∧
      buildRequest settings model = .build ⟨model.directory settings.outputPath, model.libraryName⟩
        ((model.directory settings.outputPath).child model.identity.artifactName) settings.mode ∧
      schemaFiles.map (model.directory settings.outputPath).join =
        model.modules.map (model.schemaFile settings.outputPath) ∧
      (∃ (items : List Template.Value) (files : List String),
        Template.Scope.inBindings (context here settings model).bindings "model.modules" =
          some (.list items) ∧
        items.map (·.part? "file") = files.map (some <| .text ·) ∧
        schemaFiles.map (model.directory settings.outputPath).join =
          files.map (model.schemaDirectory settings.outputPath).child) ∧
      (model.directory settings.outputPath).join outputFile =
        model.packageFile settings.outputPath "generated.rs" ∧
      (∀ toolchain made final, compile here settings toolchain model disk = (.ok made, final) →
        made.file = (model.directory settings.outputPath).child model.identity.artifactName) ∧
      ((∃ error final, final.requests = [] ∧
          ∀ toolchain, compile here settings toolchain model disk = (.error error, final)) ∨
        ∃ ready,
          (∀ toolchain, compile here settings toolchain model disk =
            callTools here settings toolchain model ready) ∧
          (disk.LinkFree →
            (∀ path ∈ schemaFiles, ready.pathExists here
              ((model.directory settings.outputPath).join path) = true) ∧
            ready.isDirectory here (model.packageDirectory settings.outputPath) = true)) := by
  refine ⟨_, _, rfl, rfl, ?_, ⟨_, model.modules.map SchemaModule.fileName, modules_value _, ?_, ?_⟩,
    outputFile_path _ _, ?_, ?_⟩
  · simp [Function.comp_def, schemaFile_path]
  · simp [Function.comp_def, context, Source.Context.moduleValue, Template.Value.part?]
  · simp [Function.comp_def, schemaFile_path, Model.schemaFile]
  · intro toolchain made final compiled
    obtain ⟨error, progress, -, failed⟩ | ⟨one, two, ready, -, -, -, called⟩ :=
      compile_until_tools here settings model disk
    · rw [failed] at compiled
      cases compiled
    · rw [called] at compiled
      rw [callTools_file compiled, artifact, Model.artifact, Model.fileIn]
  · obtain failed | ⟨one, two, ready, root, directory, prepared, called⟩ :=
      compile_until_tools here settings model disk
    · exact .inl failed
    · refine .inr ⟨ready, called, fun free => ?_⟩
      obtain ⟨present, package⟩ := ready_prepared free root directory (prepared _)
      refine ⟨fun path member => ?_, package⟩
      obtain ⟨m, isModule, rfl⟩ := List.mem_map.1 member
      rw [schemaFile_path]
      exact present m isModule

theorem tools_called_sample :
    (sampleDisk Source.Kind.all).LinkFree ∧ ∃ ready,
      (∀ toolchain, compile ["w"] (sampleSettings "o") toolchain sampleModel
          (sampleDisk Source.Kind.all) =
        callTools ["w"] (sampleSettings "o") toolchain sampleModel ready) ∧
      ready.pathExists ["w"] (sampleModel.schemaFile ⟨"o"⟩ ⟨"a", "1", none, "A".toUTF8⟩) = true ∧
      ready.isDirectory ["w"] (sampleModel.packageDirectory ⟨"o"⟩) = true := by
  have free : (sampleDisk Source.Kind.all).LinkFree := by decide +kernel
  have ran := ran_of_summary sampleRun_summary
  obtain ⟨schemaFiles, -, -, -, copied, -, -, -, failed | ⟨ready, called, prepared⟩⟩ :=
    tools_called ["w"] (sampleSettings "o") sampleModel (sampleDisk Source.Kind.all)
  · obtain ⟨error, final, -, failed⟩ := failed
    rw [sampleRun, failed] at ran
    cases ran
  · obtain ⟨present, package⟩ := prepared free
    have members : ∀ path ∈ schemaFiles.map
        (sampleModel.directory (sampleSettings "o").outputPath).join,
        ready.pathExists ["w"] path = true := by simpa using present
    rw [copied] at members
    exact ⟨free, ready, called, members _ List.mem_cons_self, package⟩

end Compile

end ModelForge
