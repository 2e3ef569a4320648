import ModelForge.Proofs.Compile.Absolute
import ModelForge.Proofs.Compile.Failure
import ModelForge.Proofs.Source.RenderFile

/-! Where the errors of a compilation come from. An error crosses several layers before it is
returned, and at one step two different things are done. In the end it still names the step that
failed, and the path it tells is the one on which an operation did fail. -/
namespace ModelForge.Compile

open Disk

namespace Request

/-- The step at which a request is made. -/
def step : Request → Step
  | bindings .. => .generateBindings
  | build .. => .build

/-- The file that a tool is asked to produce. -/
def product : Request → Path
  | bindings tree _ outputFile _ => tree.root.join outputFile
  | build _ artifact _ => artifact

end Request

/-- What a failing compilation has come upon, on the disk that it leaves. Looking for a definition,
reading it and a write that fails change nothing, so this is also the disk they were done on. -/
inductive Origin (here : Location) (settings : Settings) (model : Model) (left : Disk) :
    Error → Prop where
  | directory {step : Step} {path : Path} {fault : Fault} {before : Disk}
    (makes : step.directory? settings model = some path)
    (unmade : before.ensureDirectory here path = (.error fault, left)) :
    Origin here settings model left (.io step path fault)
  /-- The directory of the entry point has no step of its own. -/
  | sourceDirectory {fault : Fault} {before : Disk}
    (unmade : before.ensureDirectory here (model.sourceDirectory settings.outputPath) =
      (.error fault, left)) :
    Origin here settings model left
      (.io .generateEntryPoint (model.sourceDirectory settings.outputPath) fault)
  | missing (kind : Source.Kind)
    (noFile : left.isFile here (kind.definitionPath settings.templatePath) = false) :
    Origin here settings model left
      (.template (.ofKind kind) (.notFound (kind.definitionPath settings.templatePath)))
  | faulty {kind : Source.Kind} {source : String} {error : Template.Error}
    (isFile : left.isFile here (kind.definitionPath settings.templatePath) = true)
    (read : left.readText here (kind.definitionPath settings.templatePath) = .ok source)
    (failed : Template.render kind.definitionFile source
      (context here settings model).bindings = .error error) :
    Origin here settings model left (.template (.ofKind kind) (.template error))
  | unreadable {kind : Source.Kind} {fault : Fault}
    (isFile : left.isFile here (kind.definitionPath settings.templatePath) = true)
    (unread : left.readText here (kind.definitionPath settings.templatePath) = .error fault) :
    Origin here settings model left
      (.io (.ofKind kind) (kind.definitionPath settings.templatePath) fault)
  | unwritable {kind : Source.Kind} {text : String} {fault : Fault}
    (rendered : Source.renderText left here kind (kind.definitionPath settings.templatePath)
      (context here settings model) = .ok text)
    (unwritten : left.write here (kind.target settings.outputPath model) text.toUTF8 =
      .error fault) :
    Origin here settings model left
      (.io (.ofKind kind) (kind.target settings.outputPath model) fault)
  | staging {m : SchemaModule} {fault : Fault} (member : m ∈ model.modules)
    (unwritten : left.write here (stagingPath (model.schemaFile settings.outputPath m)) m.data =
      .error fault) :
    Origin here settings model left
      (.io .copyModules (stagingPath (model.schemaFile settings.outputPath m)) fault)
  | schemaFile {m : SchemaModule} {fault : Fault} {staged : Disk} (member : m ∈ model.modules)
    (unmoved : staged.rename here (stagingPath (model.schemaFile settings.outputPath m))
      (model.schemaFile settings.outputPath m) = .error fault) :
    Origin here settings model left
      (.io .copyModules (model.schemaFile settings.outputPath m) fault)
  | product {request : Request} {content : String} {fault : Fault}
    (asked : request ∈ [bindingRequest settings model, buildRequest settings model])
    (unwritten : left.write here request.product content.toUTF8 = .error fault) :
    Origin here settings model left (.io request.step request.product fault)
  | tool {request : Request}
    (asked : request ∈ [bindingRequest settings model, buildRequest settings model])
    (program reason : String) :
    Origin here settings model left (.externalProcess request.step program reason)

variable {here : Location} {settings : Settings} {model : Model}

/-- An end that leaves the process in a directory, and whose error tells where it comes from. -/
structure Sound (here : Location) (settings : Settings) (model : Model) (result : Except Error α)
    (left : Disk) : Prop where
  inside : left.entryAt here = some .directory
  origin : ∀ error, result = .error error → Origin here settings model left error

theorem Sound.ok {left : Disk} (inside : left.entryAt here = some .directory) (value : α) :
    Sound here settings model (.ok value) left :=
  ⟨inside, by rintro error ⟨⟩⟩

theorem Sound.error {left : Disk} {error : Error} (inside : left.entryAt here = some .directory)
    (origin : Origin here settings model left error) :
    Sound here settings model (.error error : Except Error α) left :=
  ⟨inside, by rintro _ ⟨⟩; exact origin⟩

/-- An action that always ends so when it starts in a directory. -/
def Truthful (here : Location) (settings : Settings) (model : Model) (action : Run α) : Prop :=
  ∀ progress : Progress, progress.disk.entryAt here = some .directory →
    Sound here settings model (action.run.run progress).1 (action.run.run progress).2.disk

theorem Truthful.bind {action : Run α} {next : α → Run β}
    (first : Truthful here settings model action)
    (second : ∀ value, Truthful here settings model (next value)) :
    Truthful here settings model (action >>= next) := by
  intro progress inside
  have sound := first progress inside
  rw [Run.run_bind]
  rcases ran : action.run.run progress with ⟨error | value, middle⟩
  all_goals rw [ran] at sound
  · exact .error sound.inside (sound.origin error rfl)
  · exact second value middle sound.inside

theorem truthful_pure (value : α) : Truthful here settings model (pure value) :=
  fun _ inside => .ok inside value

theorem truthful_onDisk {operation : Disk → Except Error α × Disk}
    (sound : ∀ disk : Disk, disk.entryAt here = some .directory →
      Sound here settings model (operation disk).1 (operation disk).2) :
    Truthful here settings model (Run.onDisk operation) := by
  intro progress inside
  rw [Run.run_onDisk]
  exact sound progress.disk inside

section Steps

theorem ensure_truthful {step : Step} {path : Path}
    (tells : ∀ {fault} {before left : Disk}, before.ensureDirectory here path =
      (.error fault, left) → Origin here settings model left (.io step path fault)) :
    Truthful here settings model (ensure here step path) := by
  refine truthful_onDisk fun disk inside => ?_
  rcases ensured : disk.ensureDirectory here path with ⟨fault | ⟨⟩, left⟩
  all_goals
    have inside' := ensureDirectory_standing inside ensured
  · exact .error inside' (tells ensured)
  · exact .ok inside' ()

theorem folder_truthful (f : Folder) : Truthful here settings model (ensure here f.step
    (((model.directory settings.outputPath).within f.within).child f.name)) := by
  refine ensure_truthful fun {fault before left} unmade => ?_
  cases f with
  | source => exact .sourceDirectory unmade
  | package =>
    rw [← packageDirectory_eq] at unmade ⊢
    exact .directory rfl unmade
  | schema =>
    rw [← schemaDirectory_eq] at unmade ⊢
    exact .directory rfl unmade

/-- What reading or writing runs into is told as it is, and the rest as the fault of the
definition. -/
theorem origin_of_cause {left : Disk} {kind : Source.Kind} {cause : Source.RenderError}
    (why : Source.Cause left here kind (kind.definitionPath settings.templatePath)
      (context here settings model) (kind.target settings.outputPath model) cause) :
    Origin here settings model left (.ofRender (.ofKind kind) cause) := by
  cases why with
  | missing noFile => exact .missing kind noFile
  | unreadable isFile unread => exact .unreadable isFile unread
  | faulty isFile read failed => exact .faulty isFile read failed
  | unwritable rendered unwritten => exact .unwritable rendered unwritten

theorem generate_truthful (kind : Source.Kind) :
    Truthful here settings model (generate here settings model kind) := by
  refine truthful_onDisk fun disk inside => ?_
  simp only [inside, if_true]
  cases made : Source.renderFile disk here kind (kind.definitionPath settings.templatePath)
      (context here settings model) (kind.target settings.outputPath model) with
  | error cause => exact .error inside (origin_of_cause (Source.renderFile_error_iff.1 made))
  | ok left =>
    obtain ⟨text, -, written⟩ := Source.renderFile_eq_ok made
    exact .ok (write_standing inside written) ()

/-- A schema file cannot be written beside its place, or cannot be moved there. -/
theorem writeSchema_sound {disk : Disk} {m : SchemaModule} (member : m ∈ model.modules)
    (inside : disk.entryAt here = some .directory) :
    let ended := writeSchema disk here settings.copyPolicy
      (model.schemaFile settings.outputPath m) m.data
    Sound here settings model ended.1 ended.2 := by
  dsimp only [writeSchema]
  split
  · exact .ok inside _
  cases staged : disk.write here (stagingPath (model.schemaFile settings.outputPath m)) m.data with
  | error fault => exact .error inside (.staging member staged)
  | ok middle =>
    have inside' := write_standing inside staged
    cases moved : middle.rename here (stagingPath (model.schemaFile settings.outputPath m))
        (model.schemaFile settings.outputPath m) with
    | error fault =>
      simp only [moved]
      exact .error (discard_standing inside') (.schemaFile member moved)
    | ok left =>
      simp only [moved]
      exact .ok (rename_standing inside' moved) _

theorem copyModules_truthful (modules : List SchemaModule) (sub : modules ⊆ model.modules) :
    Truthful here settings model (copyModules here settings model modules) := by
  induction modules with
  | nil => exact truthful_pure ()
  | cons m rest ih =>
    refine (truthful_onDisk fun disk inside => ?_).bind fun _ =>
      ih fun other member => sub (List.mem_cons_of_mem _ member)
    exact writeSchema_sound (sub List.mem_cons_self) inside

variable {failBindings failBuild : Bool}

/-- The stand-in tools refuse, or write the file they are asked for. -/
theorem perform_truthful {request : Request}
    (asked : request ∈ [bindingRequest settings model, buildRequest settings model]) :
    Truthful here settings model (perform here (.standIn failBindings failBuild) request) := by
  intro progress inside
  have produced : ∀ content, Sound here settings model
      (Toolchain.produce here request.step request.product content progress.disk).result
      (Toolchain.produce here request.step request.product content progress.disk).disk := by
    intro content
    unfold Toolchain.produce
    cases written : progress.disk.write here request.product content.toUTF8 with
    | error fault => exact .error inside (.product asked written)
    | ok new => exact .ok (write_standing inside written) ()
  have refused : ∀ program reason, Sound here settings model
      (.error (.externalProcess request.step program reason) : Except Error Unit) progress.disk :=
    fun program reason => .error inside (.tool asked program reason)
  rw [Run.run_perform]
  cases request with
  | bindings tree schemaFiles outputFile package =>
    cases failBindings with
    | true => exact refused _ _
    | false => exact produced _
  | build tree artifact mode =>
    cases failBuild with
    | true => exact refused _ _
    | false => exact produced _

theorem Stage.run_truthful (stage : Stage) : Truthful here settings model
    (stage.run here settings model (.standIn failBindings failBuild)) := by
  cases stage with
  | folder f => exact folder_truthful f
  | source kind => exact generate_truthful kind
  | schemas => exact copyModules_truthful model.modules (List.Subset.refl _)
  | bindings => exact perform_truthful List.mem_cons_self
  | build => exact perform_truthful (List.mem_cons_of_mem _ List.mem_cons_self)

theorem runAll_truthful (stages : List Stage) : Truthful here settings model
    (Stage.runAll here settings model (.standIn failBindings failBuild) stages) := by
  induction stages with
  | nil => exact truthful_pure ()
  | cons stage rest ih => exact stage.run_truthful.bind fun _ => ih

theorem steps_truthful : Truthful here settings model
    (steps here settings model (.standIn failBindings failBuild)) := by
  rw [steps_eq]
  exact (ensure_truthful (.directory rfl)).bind fun _ =>
    (ensure_truthful (.directory rfl)).bind fun _ =>
      (runAll_truthful Stage.all).bind fun _ => truthful_pure _

end Steps

theorem Origin.names_step {left : Disk} {error : Error}
    (origin : Origin here settings model left error) : error.step? ≠ none := by
  cases origin <;> simp [Error.step?]

/-- An error is about the descriptor exactly when the model is refused, and only then names no
step. Any other tells the step that has failed, and why. -/
theorem compile_error_origin {failBindings failBuild : Bool} {disk : Disk} {error : Error}
    {final : Progress} (inside : disk.entryAt here = some .directory)
    (failed : compile here settings (.standIn failBindings failBuild) model disk =
      (.error error, final)) :
    (∀ cause, error = .descriptor cause ↔ model.validate = .error cause) ∧
    (error.step? = none ↔ ∃ cause, model.validate = .error cause) ∧
    (model.validate = .ok () → Origin here settings model final.disk error) := by
  unfold compile at failed
  cases accepted : model.validate with
  | error cause =>
    rw [accepted] at failed
    cases failed
    simp [Error.step?]
  | ok =>
    rw [accepted] at failed
    dsimp only at failed
    have truthful : Truthful here settings model
        (steps here settings model (.standIn failBindings failBuild)) := steps_truthful
    have sound := truthful ⟨disk, [], {}⟩ inside
    rw [failed] at sound
    have origin := sound.origin error rfl
    refine ⟨fun cause => ⟨?_, by rintro ⟨⟩⟩, ⟨?_, by rintro ⟨cause, ⟨⟩⟩⟩, fun _ => origin⟩
    · rintro rfl
      exact absurd rfl origin.names_step
    · exact fun none => absurd none origin.names_step

set_option maxRecDepth 10000 in
/-- The definition of the second file is missing. -/
theorem compile_error_origin_sample :
    (sampleDisk [.manifest]).entryAt ["w"] = some .directory ∧
    ∃ error final, compile ["w"] (sampleSettings "o") (.standIn false false) sampleModel
        (sampleDisk [.manifest]) = (.error error, final) ∧
      error.step? = some .generateEntryPoint ∧
      Origin ["w"] (sampleSettings "o") sampleModel final.disk error := by
  have inside : (sampleDisk [.manifest]).entryAt ["w"] = some .directory := by decide +kernel
  have ended : summary (sampleRun "o" sampleModel (sampleDisk [.manifest])).1 =
      .error (some .generateEntryPoint) := by decide +kernel
  obtain ⟨error, failed, step⟩ := error_of_summary ended
  have ran : compile ["w"] (sampleSettings "o") (.standIn false false) sampleModel
      (sampleDisk [.manifest]) =
        (.error error, (sampleRun "o" sampleModel (sampleDisk [.manifest])).2) :=
    Prod.ext failed rfl
  exact ⟨inside, error, _, ran, step, (compile_error_origin inside ran).2.2 (by decide)⟩

end ModelForge.Compile
