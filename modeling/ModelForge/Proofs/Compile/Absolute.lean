import ModelForge.Proofs.Compile.Containment
import ModelForge.Proofs.Disk.Absolute

/-! A compilation whose output is named from the working directory, beside the same compilation with
the output named from the root. The two do the same to the disk at every step, so that a run of
them ends in the same way; only the texts of their paths differ. -/
namespace ModelForge

/-- The same settings with the output named from the root, as seen from a working directory. -/
def Settings.fromRoot (here : Location) (settings : Settings) : Settings :=
  { settings with outputPath := here.path.join settings.outputPath }

namespace Compile

open Disk

/-- The same failure, of the same file. The file is named alike, or from the root. -/
def Error.Respells (here : Location) (near far : Error) : Prop :=
  far = near ∨ ∃ step path fault,
    near = .io step path fault ∧ far = .io step (here.path.join path) fault

/-- Two results that differ in how they name a file. -/
inductive Respelled (here : Location) {α : Type} (named : α → α → Prop) :
    Except Error α → Except Error α → Prop where
  | ok {near far : α} (same : named near far) : Respelled here named (.ok near) (.ok far)
  | error {near far : Error} (same : near.Respells here far) :
    Respelled here named (.error near) (.error far)

/-- The file of an artifact, named from the root. -/
def Artifact.fromRoot (here : Location) (artifact : Artifact) : Artifact :=
  { artifact with file := here.path.join artifact.file }

/-- The directories that a compilation makes. -/
def madePaths (settings : Settings) (model : Model) : List Path :=
  [settings.outputPath, model.directory settings.outputPath,
    model.sourceDirectory settings.outputPath, model.packageDirectory settings.outputPath,
    model.schemaDirectory settings.outputPath]

/-- None of the paths that a compilation uses is too long. -/
def Fits (settings : Settings) (model : Model) : Prop :=
  ∀ path ∈ madePaths settings model ++ writtenPaths settings model,
    path.text.utf8ByteSize ≤ pathLimit

instance (settings : Settings) (model : Model) : Decidable (Fits settings model) :=
  List.decidableBAll _ _

variable {here : Location} {settings : Settings} {model : Model}

section Steps

/-- Two runs that do the same to any disk on which the process works in a directory, and that end
in results which name files alike or from the root. -/
def RunsAlike (here : Location) (near far : Run Unit) : Prop :=
  ∀ a b : Progress, b.disk = a.disk → b.printed = a.printed →
    a.disk.entryAt here = some .directory →
    (far.run.run b).2.disk = (near.run.run a).2.disk ∧
      (far.run.run b).2.printed = (near.run.run a).2.printed ∧
      (near.run.run a).2.disk.entryAt here = some .directory ∧
      Respelled here Eq (near.run.run a).1 (far.run.run b).1

theorem RunsAlike.bind {near far : Run Unit} (first : RunsAlike here near far)
    {near' far' : Run Unit} (second : RunsAlike here near' far') :
    RunsAlike here (do near; near') (do far; far') := by
  intro a b disk printed inside
  obtain ⟨disk', printed', inside', result⟩ := first a b disk printed inside
  rw [Run.run_bind, Run.run_bind]
  rcases nearRan : near.run.run a with ⟨nearEnd, a'⟩
  rcases farRan : far.run.run b with ⟨farEnd, b'⟩
  rw [nearRan, farRan] at disk' printed' result
  rw [nearRan] at inside'
  cases result with
  | ok same => exact second a' b' disk' printed' inside'
  | error same => exact ⟨disk', printed', inside', .error same⟩

/-- Operations on the disk that have the same effect. -/
theorem runsAlike_onDisk {near far : Disk → Except Error Unit × Disk}
    (same : ∀ disk : Disk, disk.entryAt here = some .directory →
      (far disk).2 = (near disk).2 ∧ (near disk).2.entryAt here = some .directory ∧
        Respelled here Eq (near disk).1 (far disk).1) :
    RunsAlike here (Run.onDisk near) (Run.onDisk far) := by
  intro a b disk printed inside
  obtain ⟨disk', inside', result⟩ := same a.disk inside
  simp only [Run.run_onDisk, disk, printed, disk', inside', true_and]
  exact result

theorem respelled_refl (here : Location) (result : Except Error Unit) :
    Respelled here Eq result result := by
  cases result with
  | ok value => exact .ok rfl
  | error error => exact .error (.inl rfl)

theorem respelled_io (here : Location) (step : Step) (path : Path) (fault : Fault) :
    Respelled here Eq (.error (.io step path fault) : Except Error Unit)
      (.error (.io step (here.path.join path) fault)) :=
  .error (.inr ⟨step, path, fault, rfl, rfl⟩)

theorem ensure_alike (spellable : here.Spellable) (step : Step) {path : Path}
    (fits : (here.path.join path).text.utf8ByteSize ≤ pathLimit) :
    RunsAlike here (ensure here step path) (ensure here step (here.path.join path)) := by
  refine runsAlike_onDisk fun disk inside => ?_
  rw [ensureDirectory_join spellable inside fits]
  rcases ensured : disk.ensureDirectory here path with ⟨_ | _, new⟩
  all_goals
    have inside' := ensureDirectory_standing inside ensured
  · exact ⟨rfl, inside', respelled_io here step path _⟩
  · exact ⟨rfl, inside', .ok rfl⟩

/-- The way back is the same: it starts from the same directory. -/
theorem context_fromRoot (spellable : here.Spellable) (settings : Settings) (model : Model) :
    context here (settings.fromRoot here) model = context here settings model := by
  have rooted : here.path.isAbsolute = true := (Location.spells_path spellable).1
  have directory : model.directory (settings.fromRoot here).outputPath =
      here.path.join (model.directory settings.outputPath) := here.path.join_assoc _ _
  have absolute : (here.path.join (model.directory settings.outputPath)).isAbsolute = true :=
    Path.isAbsolute_join_of_isAbsolute rooted _
  have same : wayBack (settings.fromRoot here) model here.path =
      wayBack settings model here.path := by
    unfold wayBack
    rw [directory]
    simp only [absolute, if_true]
    by_cases own : (model.directory settings.outputPath).isAbsolute = true
    · simp [Path.join, own]
    · simp [own]
  rw [context, context, same]
  rfl

theorem target_fromRoot (kind : Source.Kind) (output : Path) (model : Model) :
    kind.target (here.path.join output) model = here.path.join (kind.target output model) := by
  cases kind <;>
    simp only [Source.Kind.target, Model.fileIn, Model.packageFile, Model.packageDirectory,
      Model.sourceDirectory, Model.directory, Path.child, Path.join_assoc]

theorem generate_alike (spellable : here.Spellable) (kind : Source.Kind)
    (same : SameFrom here (kind.target settings.outputPath model)
      (here.path.join (kind.target settings.outputPath model))) :
    RunsAlike here (generate here settings model kind)
      (generate here (settings.fromRoot here) model kind) := by
  refine runsAlike_onDisk fun disk inside => ?_
  have texts : Source.renderText disk here kind
        (kind.definitionPath (settings.fromRoot here).templatePath)
        (context here (settings.fromRoot here) model) =
      Source.renderText disk here kind (kind.definitionPath settings.templatePath)
        (context here settings model) := by
    rw [context_fromRoot spellable]
    rfl
  have target : kind.target (settings.fromRoot here).outputPath model =
      here.path.join (kind.target settings.outputPath model) := target_fromRoot kind _ model
  simp only [inside, if_true, Source.renderFile, texts, target]
  cases Source.renderText disk here kind (kind.definitionPath settings.templatePath)
    (context here settings model) with
  | error cause => exact ⟨rfl, inside, respelled_refl _ _⟩
  | ok text =>
    simp only [(same disk inside).write]
    cases written : disk.write here (kind.target settings.outputPath model) text.toUTF8 with
    | error fault => exact ⟨rfl, inside, respelled_io here _ _ fault⟩
    | ok new => exact ⟨rfl, write_standing inside written, .ok rfl⟩

/-- Taking a staged file away again. -/
theorem discard_standing {disk : Disk} {location : Location} {path : Path}
    (standing : disk.entryAt location = some .directory) :
    (discard disk here path).entryAt location = some .directory := by
  unfold discard
  split
  · exact unlink_standing standing ‹_›
  · exact standing

theorem stagingPath_join (path : Path) :
    stagingPath (here.path.join path) = here.path.join (stagingPath path) := by
  by_cases absolute : path.isAbsolute = true
  · have staged : (stagingPath path).isAbsolute = true := by
      obtain ⟨rest, chars⟩ := List.head?_eq_some_iff.1 (of_decide_eq_true absolute)
      simp [stagingPath, Path.isAbsolute, chars]
    simp [Path.join, absolute, staged]
  · have relative : path.isAbsolute = false := by simpa using absolute
    have staged : (stagingPath path).isAbsolute = false := by
      cases chars : path.text.toList with
      | nil => simp [stagingPath, Path.isAbsolute, chars]
      | cons c rest =>
        have other : c ≠ '/' := by simpa [Path.isAbsolute, chars] using relative
        simp [stagingPath, Path.isAbsolute, chars, other]
    rw [here.path.join_eq_stem relative, here.path.join_eq_stem staged, stagingPath, stagingPath,
      String.append_assoc]

/-- One schema file. -/
theorem writeSchema_same {disk : Disk} {path : Path} (same : SameFrom here path (here.path.join path))
    (staged : SameFrom here (stagingPath path) (here.path.join (stagingPath path)))
    (policy : CopyPolicy) (data : ByteArray) (inside : disk.entryAt here = some .directory) :
    (writeSchema disk here policy (here.path.join path) data).2 =
        (writeSchema disk here policy path data).2 ∧
      (writeSchema disk here policy path data).2.entryAt here = some .directory ∧
      Respelled here Eq (writeSchema disk here policy path data).1
        (writeSchema disk here policy (here.path.join path) data).1 := by
  unfold writeSchema
  simp only [(same disk inside).pathExists, stagingPath_join, (staged disk inside).write]
  split
  · exact ⟨rfl, inside, .ok rfl⟩
  cases written : disk.write here (stagingPath path) data with
  | error fault => exact ⟨rfl, inside, .error (.inr ⟨_, _, fault, rfl, rfl⟩)⟩
  | ok middle =>
    have inside' := write_standing inside written
    have moved := (staged middle inside').rename (same middle inside')
    simp only [moved, discard, (staged middle inside').unlink]
    cases renamed : middle.rename here (stagingPath path) path with
    | error fault =>
      exact ⟨rfl, discard_standing inside', .error (.inr ⟨_, _, fault, rfl, rfl⟩)⟩
    | ok new => exact ⟨rfl, rename_standing inside' renamed, .ok rfl⟩

theorem schemaFile_fromRoot (output : Path) (model : Model) (m : SchemaModule) :
    model.schemaFile (here.path.join output) m = here.path.join (model.schemaFile output m) := by
  simp only [Model.schemaFile, Model.schemaDirectory, Model.directory, Path.child, Path.join_assoc]

theorem copyModules_fromRoot (modules : List SchemaModule)
    (same : ∀ m ∈ modules, SameFrom here (model.schemaFile settings.outputPath m)
        (here.path.join (model.schemaFile settings.outputPath m)) ∧
      SameFrom here (stagingPath (model.schemaFile settings.outputPath m))
        (here.path.join (stagingPath (model.schemaFile settings.outputPath m)))) :
    RunsAlike here (copyModules here settings model modules)
      (copyModules here (settings.fromRoot here) model modules) := by
  induction modules with
  | nil => exact fun a b disk printed inside => ⟨disk, printed, inside, .ok rfl⟩
  | cons m rest ih =>
    intro a b disk printed inside
    obtain ⟨own, staged⟩ := same m List.mem_cons_self
    obtain ⟨disk', inside', result⟩ := writeSchema_same own staged settings.copyPolicy m.data inside
    have target : model.schemaFile (settings.fromRoot here).outputPath m =
        here.path.join (model.schemaFile settings.outputPath m) := schemaFile_fromRoot _ model m
    have policy : (settings.fromRoot here).copyPolicy = settings.copyPolicy := rfl
    rw [run_copyModules_cons, run_copyModules_cons, disk, target, policy]
    rcases near : writeSchema a.disk here settings.copyPolicy
      (model.schemaFile settings.outputPath m) m.data with ⟨nearEnd, a'⟩
    rcases far : writeSchema a.disk here settings.copyPolicy
      (here.path.join (model.schemaFile settings.outputPath m)) m.data with ⟨farEnd, b'⟩
    rw [near, far] at disk' result
    rw [near] at inside'
    cases result with
    | ok value =>
      exact ih (fun other member => same other (List.mem_cons_of_mem _ member)) _ _ disk' printed
        inside'
    | error error => exact ⟨disk', printed, inside', .error error⟩

/-- What the stand-in tools write. -/
theorem produce_same {disk : Disk} {path : Path} (same : SameFrom here path (here.path.join path))
    (step : Step) (content : String) (inside : disk.entryAt here = some .directory) :
    let near := Toolchain.produce here step path content disk
    let far := Toolchain.produce here step (here.path.join path) content disk
    far.disk = near.disk ∧ far.printed = near.printed ∧
      near.disk.entryAt here = some .directory ∧ Respelled here Eq near.result far.result := by
  unfold Toolchain.produce
  simp only [(same disk inside).write]
  cases written : disk.write here path content.toUTF8 with
  | error fault => exact ⟨rfl, rfl, inside, respelled_io here step path fault⟩
  | ok new => exact ⟨rfl, rfl, write_standing inside written, .ok rfl⟩

/-- Requests that a toolchain answers alike. -/
theorem perform_alike {toolchain : Toolchain} {near far : Request}
    (same : ∀ disk : Disk, disk.entryAt here = some .directory →
      let nearAnswer := toolchain.perform here near disk
      let farAnswer := toolchain.perform here far disk
      farAnswer.disk = nearAnswer.disk ∧ farAnswer.printed = nearAnswer.printed ∧
        nearAnswer.disk.entryAt here = some .directory ∧
        Respelled here Eq nearAnswer.result farAnswer.result) :
    RunsAlike here (perform here toolchain near) (perform here toolchain far) := by
  intro a b disk printed inside
  obtain ⟨disk', printed', inside', result⟩ := same a.disk inside
  simp only [Run.run_perform, disk, printed, disk', printed', inside', true_and]
  exact result

end Steps

section Paths

theorem outputFile_fromRoot (output : Path) (model : Model) :
    (model.directory (here.path.join output)).join
        ((Path.child ⟨"src"⟩ Source.packageName).child "generated.rs") =
      here.path.join ((model.directory output).join
        ((Path.child ⟨"src"⟩ Source.packageName).child "generated.rs")) := by
  simp only [Model.directory, Path.child, Path.join_assoc]

theorem artifact_fromRoot (output : Path) (model : Model) :
    model.artifact (here.path.join output) = here.path.join (model.artifact output) := by
  simp only [Model.artifact, Model.fileIn, Model.directory, Path.child, Path.join_assoc]

theorem madePaths_fromRoot (settings : Settings) (model : Model) :
    madePaths (settings.fromRoot here) model = (madePaths settings model).map here.path.join := by
  simp only [madePaths, Settings.fromRoot, Model.packageDirectory, Model.sourceDirectory,
    Model.schemaDirectory, Model.directory, Path.child, Path.join_assoc, List.map_cons,
    List.map_nil]

theorem writtenPaths_fromRoot (settings : Settings) (model : Model) :
    writtenPaths (settings.fromRoot here) model =
      (writtenPaths settings model).map here.path.join := by
  simp only [writtenPaths, Settings.fromRoot, target_fromRoot, schemaFile_fromRoot,
    stagingPath_join, outputFile_fromRoot, artifact_fromRoot, List.map_append, List.map_map,
    List.map_flatMap, List.map_cons, List.map_nil]
  rfl

theorem target_written (kind : Source.Kind) (settings : Settings) (model : Model) :
    kind.target settings.outputPath model ∈ writtenPaths settings model := by
  have listed : kind ∈ Source.Kind.all := by cases kind <;> decide
  exact List.mem_append_left _ (List.mem_append_left _ (List.mem_map_of_mem listed))

theorem outputFile_written (settings : Settings) (model : Model) :
    (model.directory settings.outputPath).join
        ((Path.child ⟨"src"⟩ Source.packageName).child "generated.rs") ∈
      writtenPaths settings model :=
  List.mem_append_right _ List.mem_cons_self

theorem artifact_written (settings : Settings) (model : Model) :
    model.artifact settings.outputPath ∈ writtenPaths settings model :=
  List.mem_append_right _ (List.mem_cons_of_mem _ List.mem_cons_self)

/-- No file that a compilation writes has the empty path. -/
theorem writtenPaths_nonempty {path : Path} (written : path ∈ writtenPaths settings model) :
    path.isEmpty = false := by
  simp only [writtenPaths, List.mem_append, List.mem_map, List.mem_flatMap, List.mem_pair]
    at written
  rcases written with (⟨kind, -, rfl⟩ | ⟨m, -, rfl | rfl⟩) | rfl | rfl
  · rw [target_eq]
    exact Path.isEmpty_child _ (isName_outputFile kind)
  · rw [Model.schemaFile]
    exact Path.isEmpty_child_of_ne _ m.fileName_ne_empty
  · simp [stagingPath, Path.isEmpty]
  · rw [bindings_path]
    exact Path.isEmpty_child _ (by decide)
  · rw [Model.artifact, Model.fileIn]
    refine Path.isEmpty_child_of_ne _ fun none => ?_
    have chars := congrArg String.toList none
    simp [Model.artifactName_toList, artifactMarker] at chars

/-- What is written is written to the same file. -/
theorem Fits.same (fits : Fits (settings.fromRoot here) model) (spellable : here.Spellable)
    {path : Path} (written : path ∈ writtenPaths settings model) :
    SameFrom here path (here.path.join path) := by
  refine sameFrom_join spellable (writtenPaths_nonempty written) (fits _ ?_)
  rw [writtenPaths_fromRoot]
  exact List.mem_append_right _ (List.mem_map_of_mem written)

/-- What is made is short enough. -/
theorem Fits.made (fits : Fits (settings.fromRoot here) model) {path : Path}
    (made : path ∈ madePaths settings model) :
    (here.path.join path).text.utf8ByteSize ≤ pathLimit := by
  refine fits _ ?_
  rw [madePaths_fromRoot]
  exact List.mem_append_left _ (List.mem_map_of_mem made)

end Paths

section Stages

variable {failBindings failBuild : Bool}

theorem folder_path (f : Folder) (settings : Settings) (model : Model) :
    ((model.directory settings.outputPath).within f.within).child f.name ∈
      madePaths settings model := by
  cases f with
  | source => simp [madePaths, Model.sourceDirectory, Path.within, Folder.within, Folder.name]
  | package => simp [madePaths, ← packageDirectory_eq]
  | schema => simp [madePaths, ← schemaDirectory_eq]

theorem Stage.run_fromRoot (stage : Stage) (spellable : here.Spellable)
    (fits : Fits (settings.fromRoot here) model) :
    RunsAlike here (stage.run here settings model (.standIn failBindings failBuild))
      (stage.run here (settings.fromRoot here) model (.standIn failBindings failBuild)) := by
  cases stage with
  | folder f =>
    have place : ((model.directory (settings.fromRoot here).outputPath).within f.within).child
        f.name = here.path.join
          (((model.directory settings.outputPath).within f.within).child f.name) := by
      cases f <;>
        simp only [Settings.fromRoot, Folder.within, Path.within, List.foldl, Model.directory,
          Path.child, Path.join_assoc]
    rw [Stage.run, Stage.run, place]
    exact ensure_alike spellable _ (fits.made (folder_path f settings model))
  | source kind =>
    exact generate_alike spellable kind (fits.same spellable (target_written kind settings model))
  | schemas =>
    refine copyModules_fromRoot model.modules fun m member => ?_
    have pair : ∀ path ∈ [model.schemaFile settings.outputPath m,
        stagingPath (model.schemaFile settings.outputPath m)], path ∈ writtenPaths settings model := by
      intro path own
      exact List.mem_append_left _ (List.mem_append_right _ (List.mem_flatMap.2 ⟨m, member, own⟩))
    exact ⟨fits.same spellable (pair _ (by simp)), fits.same spellable (pair _ (by simp))⟩
  | bindings =>
    refine perform_alike fun disk inside => ?_
    have same : SameFrom here _ _ := fits.same spellable (outputFile_written settings model)
    cases failBindings with
    | true =>
      simp only [Toolchain.standIn, bindingRequest, if_true]
      exact ⟨trivial, trivial, inside, respelled_refl _ _⟩
    | false =>
      simp only [Toolchain.standIn, bindingRequest, sourceTree, Settings.fromRoot,
        outputFile_fromRoot, Bool.false_eq_true, if_false]
      exact produce_same same .generateBindings "pub struct Device;\n" inside
  | build =>
    refine perform_alike fun disk inside => ?_
    have same : SameFrom here _ _ := fits.same spellable (artifact_written settings model)
    cases failBuild with
    | true =>
      simp only [Toolchain.standIn, buildRequest, if_true]
      exact ⟨trivial, trivial, inside, respelled_refl _ _⟩
    | false =>
      simp only [Toolchain.standIn, buildRequest, Settings.fromRoot, artifact_fromRoot,
        Bool.false_eq_true, if_false]
      exact produce_same same .build "fake artifact" inside

theorem runAll_fromRoot (stages : List Stage) (spellable : here.Spellable)
    (fits : Fits (settings.fromRoot here) model) :
    RunsAlike here (Stage.runAll here settings model (.standIn failBindings failBuild) stages)
      (Stage.runAll here (settings.fromRoot here) model (.standIn failBindings failBuild)
        stages) := by
  induction stages with
  | nil => exact fun a b disk printed inside => ⟨disk, printed, inside, .ok rfl⟩
  | cons stage rest ih => exact (stage.run_fromRoot spellable fits).bind ih

/-- What a compilation does, without what it returns. -/
def actions (here : Location) (settings : Settings) (model : Model) (toolchain : Toolchain) :
    Run Unit := do
  ensure here .ensureOutputRoot settings.outputPath
  ensure here .ensureModuleDirectory (model.directory settings.outputPath)
  Stage.runAll here settings model toolchain Stage.all

theorem steps_eq_actions (toolchain : Toolchain) : steps here settings model toolchain = (do
    actions here settings model toolchain
    pure (artifact settings model)) := by
  rw [steps_eq]
  simp only [actions, bind_assoc]

theorem actions_fromRoot (spellable : here.Spellable)
    (fits : Fits (settings.fromRoot here) model) :
    RunsAlike here (actions here settings model (.standIn failBindings failBuild))
      (actions here (settings.fromRoot here) model (.standIn failBindings failBuild)) := by
  have output : settings.outputPath ∈ madePaths settings model := by simp [madePaths]
  have directory : model.directory settings.outputPath ∈ madePaths settings model := by
    simp [madePaths]
  have place : model.directory (settings.fromRoot here).outputPath =
      here.path.join (model.directory settings.outputPath) := here.path.join_assoc _ _
  refine (ensure_alike spellable _ (fits.made output)).bind ?_
  rw [place]
  exact (ensure_alike spellable _ (fits.made directory)).bind
    (runAll_fromRoot Stage.all spellable fits)

end Stages

end Compile

end ModelForge
