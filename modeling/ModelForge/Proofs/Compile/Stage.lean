import ModelForge.Compile.Pipeline
import ModelForge.Proofs.Compile.SchemaFile

/-! The pipeline as a list. After the directory of a model has been made, a compilation is a fixed
list of stages; each works in one directory of the layout and owns a few places there. No two
stages own the same place. -/
namespace ModelForge

/-- A path with names joined to it. -/
def Path.within (base : Path) (names : List String) : Path := names.foldl Path.child base

namespace Compile

/-- The directories inside the directory of a model. -/
inductive Folder where
  | source
  | package
  | schema
deriving DecidableEq

namespace Folder

def within : Folder → List String
  | source | schema => []
  | package => ["src"]

def name : Folder → String
  | source => "src"
  | package => "plugin"
  | schema => "yang"

def step : Folder → Step
  | source => .generateEntryPoint
  | package => .ensurePackageDirectory
  | schema => .ensureSchemaDirectory

theorem isName (folder : Folder) : Path.IsName folder.name := by
  cases folder <;> decide

end Folder

/-- Where in the directory of a model a generated file lies. -/
def sourceWithin (kind : Source.Kind) : List String :=
  match kind with
  | .manifest => []
  | .entryPoint => ["src"]
  | _ => ["src", "plugin"]

theorem isName_outputFile (kind : Source.Kind) : Path.IsName kind.outputFile := by
  cases kind <;> decide

theorem isName_definitionFile (kind : Source.Kind) : Path.IsName kind.definitionFile := by
  cases kind <;> decide

inductive Stage where
  | folder (folder : Folder)
  | source (kind : Source.Kind)
  | schemas
  | bindings
  | build
deriving DecidableEq

namespace Stage

def step : Stage → Step
  | folder f => f.step
  | source kind => .ofKind kind
  | schemas => .copyModules
  | bindings => .generateBindings
  | build => .build

/-- The directory in which a stage works, seen from the directory of the model. -/
def within : Stage → List String
  | folder f => f.within
  | source kind => sourceWithin kind
  | schemas => ["yang"]
  | bindings => ["src", "plugin"]
  | build => []

/-- The directories that are there after a stage and were not needed by it. -/
def makes : Stage → List (List String)
  | folder f => [f.within ++ [f.name]]
  | _ => []

/-- The places that a stage may touch, seen from the directory of the model. -/
def Owns (model : Model) : Stage → Location → Prop
  | folder f, below => below = f.name :: f.within.reverse
  | source kind, below => below = kind.outputFile :: (sourceWithin kind).reverse
  | schemas, below => ∃ m ∈ model.modules, SchemaPlace ["yang"] m.fileName below
  | bindings, below => below = ["generated.rs", "plugin", "src"]
  | build, below => below = [model.identity.artifactName]

/-- The one place of a stage, unless it depends on the model. -/
def fixed? : Stage → Option Location
  | folder f => some (f.name :: f.within.reverse)
  | source kind => some (kind.outputFile :: (sourceWithin kind).reverse)
  | bindings => some ["generated.rs", "plugin", "src"]
  | schemas | build => none

def requests (settings : Settings) (model : Model) : Stage → List Request
  | bindings => [bindingRequest settings model]
  | build => [buildRequest settings model]
  | _ => []

def run (here : Location) (settings : Settings) (model : Model) (toolchain : Toolchain) :
    Stage → Run Unit
  | folder f =>
    ensure here f.step (((model.directory settings.outputPath).within f.within).child f.name)
  | source kind => generate here settings model kind
  | schemas => copyModules here settings model model.modules
  | bindings => perform here toolchain (bindingRequest settings model)
  | build => perform here toolchain (buildRequest settings model)

def runAll (here : Location) (settings : Settings) (model : Model) (toolchain : Toolchain) :
    List Stage → Run Unit
  | [] => pure ()
  | stage :: rest => do
    stage.run here settings model toolchain
    runAll here settings model toolchain rest

/-- What comes after the directory of the model is there. -/
def all : List Stage :=
  [source .manifest, folder .source, source .entryPoint, folder .package, source .model,
    source .unmarshaller, source .validator, source .plugin, folder .schema, schemas, bindings,
    build]

/-- Whether each stage works in a directory that is known or made by a stage before it. -/
def Placed : List (List String) → List Stage → Prop
  | _, [] => True
  | known, stage :: rest => stage.within ∈ known ∧ Placed (stage.makes ++ known) rest

theorem placed_all : Placed [[]] all := by
  simp [Placed, all, within, makes, sourceWithin, Folder.within, Folder.name]

theorem mem_all (stage : Stage) : stage ∈ all := by
  cases stage with
  | folder f => cases f <;> decide
  | source kind => cases kind <;> decide
  | _ => decide

/-- A file or directory with a fixed name lies where no schema file and no artifact can. -/
theorem fixed_spec {stage : Stage} {place : Location} (fixed : stage.fixed? = some place) :
    place.tail ≠ ["yang"] ∧
      ∀ name, place = [name] → ¬artifactMarker.toList <:+: name.toList := by
  have checked : ∀ stage ∈ all, ∀ place ∈ stage.fixed?, place.tail ≠ ["yang"] ∧
      (place.length = 1 → ∀ name ∈ place, ¬artifactMarker.toList <:+: name.toList) := by
    decide
  obtain ⟨away, unmarked⟩ := checked stage (mem_all stage) place fixed
  refine ⟨away, ?_⟩
  rintro name rfl
  exact unmarked rfl name List.mem_cons_self

theorem fixed_injective {a b : Stage} {place : Location} (first : a.fixed? = some place)
    (second : b.fixed? = some place) : a = b := by
  have checked : ∀ a ∈ all, ∀ b ∈ all, a.fixed?.isSome → a.fixed? = b.fixed? → a = b := by
    decide
  exact checked a (mem_all a) b (mem_all b) (by simp [first]) (first.trans second.symm)

/-- What owning a place says about the place. -/
theorem owns_cases {model : Model} {stage : Stage} {below : Location}
    (owns : stage.Owns model below) :
    stage.fixed? = some below ∨ (stage = schemas ∧ below.tail = ["yang"]) ∨
      (stage = build ∧ below = [model.identity.artifactName]) := by
  cases stage with
  | folder f => exact .inl (congrArg some owns.symm)
  | source kind => exact .inl (congrArg some owns.symm)
  | schemas =>
    obtain ⟨m, -, rfl | rfl⟩ := owns <;> exact .inr (.inl ⟨rfl, rfl⟩)
  | bindings => exact .inl (congrArg some owns.symm)
  | build => exact .inr (.inr ⟨rfl, owns⟩)

/-- Only the loop over the modules puts anything into the schema directory. -/
theorem owns_schema {model : Model} {stage : Stage} {name : String}
    (owns : stage.Owns model [name, "yang"]) :
    ∃ m ∈ model.modules, name = m.fileName ∨ name = stagedName m.fileName := by
  rcases owns_cases owns with fixed | ⟨rfl, -⟩ | ⟨-, only⟩
  · exact absurd rfl (fixed_spec fixed).1
  · obtain ⟨m, member, eq | eq⟩ := owns
    · exact ⟨m, member, .inl (List.cons.inj eq).1⟩
    · exact ⟨m, member, .inr (List.cons.inj eq).1⟩
  · simp at only

theorem owns_unique {model : Model} {a b : Stage} {below : Location}
    (first : a.Owns model below) (second : b.Owns model below) : a = b := by
  have unmarked : ∀ {stage : Stage}, stage.fixed? = some below →
      below ≠ [model.identity.artifactName] := by
    intro stage fixed only
    exact Model.artifactName_ne ((fixed_spec fixed).2 _ only) model.identity rfl
  rcases owns_cases first with fixed | ⟨rfl, away⟩ | ⟨rfl, only⟩ <;>
    rcases owns_cases second with fixed' | ⟨rfl, away'⟩ | ⟨rfl, only'⟩
  · exact fixed_injective fixed fixed'
  · exact absurd away' (fixed_spec fixed).1
  · exact absurd only' (unmarked fixed)
  · exact absurd away (fixed_spec fixed').1
  · rfl
  · simp [only'] at away
  · exact absurd only (unmarked fixed')
  · simp [only] at away'
  · rfl

/-- The definition of a source is never what a stage writes. -/
theorem ne_definitionFile {model : Model} {stage : Stage} {name : String} {within : Location}
    (owns : stage.Owns model (name :: within)) (kind : Source.Kind) :
    name ≠ kind.definitionFile := by
  have checked : ∀ stage ∈ all, ∀ place ∈ stage.fixed?,
      place.head? ≠ some kind.definitionFile := by
    cases kind <;> decide
  have last : kind.definitionFile.toList.reverse.head? = some 'a' := by
    cases kind <;> decide
  rintro rfl
  rcases owns_cases owns with fixed | ⟨rfl, -⟩ | ⟨rfl, only⟩
  · exact checked stage (mem_all stage) _ fixed rfl
  · obtain ⟨m, -, same | same⟩ := owns
    · rw [(List.cons.inj same).1] at last
      simp [SchemaModule.fileName_toList] at last
    · rw [(List.cons.inj same).1] at last
      simp [stagedName] at last
  · have unmarked : ¬artifactMarker.toList <:+: kind.definitionFile.toList := by
      cases kind <;> decide
    exact Model.artifactName_ne unmarked model.identity (List.cons.inj only).1.symm

/-- Every place that a stage owns is below the directory of the model. -/
theorem owns_ne_nil {model : Model} {stage : Stage} {below : Location}
    (owns : stage.Owns model below) : below ≠ [] := by
  cases stage with
  | schemas => obtain ⟨m, -, rfl | rfl⟩ := owns <;> simp
  | _ => rw [Owns] at owns; simp [owns]

/-- The places of a stage when the directory of the model lies at `root`. -/
def Places (model : Model) (root : Location) (stage : Stage) (location : Location) : Prop :=
  ∃ below, stage.Owns model below ∧ location = below ++ root

theorem places_append_iff {model : Model} {root : Location} {stage : Stage} {below : Location} :
    stage.Places model root (below ++ root) ↔ stage.Owns model below := by
  constructor
  · rintro ⟨below', owns, same⟩
    rwa [List.append_cancel_right same]
  · exact fun owns => ⟨below, owns, rfl⟩

theorem places_source (model : Model) (root : Location) (kind : Source.Kind) :
    (source kind).Places model root (kind.outputFile :: ((sourceWithin kind).reverse ++ root)) :=
  ⟨_, rfl, rfl⟩

theorem places_schema {model : Model} {m : SchemaModule} (member : m ∈ model.modules)
    (root : Location) : schemas.Places model root (m.fileName :: "yang" :: root) :=
  ⟨[m.fileName, "yang"], ⟨m, member, .inl rfl⟩, rfl⟩

theorem places_staged {model : Model} {m : SchemaModule} (member : m ∈ model.modules)
    (root : Location) : schemas.Places model root (stagedName m.fileName :: "yang" :: root) :=
  ⟨[stagedName m.fileName, "yang"], ⟨m, member, .inr rfl⟩, rfl⟩

theorem places_bindings (model : Model) (root : Location) :
    bindings.Places model root ("generated.rs" :: "plugin" :: "src" :: root) :=
  ⟨["generated.rs", "plugin", "src"], rfl, rfl⟩

theorem places_artifact (model : Model) (root : Location) :
    build.Places model root (model.identity.artifactName :: root) :=
  ⟨[model.identity.artifactName], rfl, rfl⟩

theorem places_unique {model : Model} {root : Location} {a b : Stage} {location : Location}
    (first : a.Places model root location) (second : b.Places model root location) : a = b := by
  obtain ⟨below, owns, rfl⟩ := first
  exact owns_unique owns (places_append_iff.1 second)

end Stage

namespace Run

variable {progress : Progress}

theorem run_bind (action : Run α) (next : α → Run β) :
    (action >>= next).run.run progress =
      match action.run.run progress with
      | (.ok value, progress) => (next value).run.run progress
      | (.error error, progress) => (.error error, progress) := by
  rw [ExceptT.run_bind, StateT.run_bind]
  rcases h : action.run.run progress with ⟨_ | _, _⟩ <;> rfl

theorem run_bind_ok {final : Progress} {action : Run α} {next : α → Run β} {value : β}
    (ran : (action >>= next).run.run progress = (.ok value, final)) :
    ∃ between middle, action.run.run progress = (.ok between, middle) ∧
      (next between).run.run middle = (.ok value, final) := by
  rw [run_bind] at ran
  split at ran
  · exact ⟨_, _, ‹_›, ran⟩
  · cases ran

theorem run_get : (get : Run Progress).run.run progress = (.ok progress, progress) := rfl

theorem run_set (after : Progress) :
    (set after : Run PUnit).run.run progress = (.ok (), after) := rfl

theorem run_pure (value : α) : (pure value : Run α).run.run progress = (.ok value, progress) := rfl

theorem run_throw (error : Error) :
    (throw error : Run α).run.run progress = (.error error, progress) := rfl

theorem run_onDisk (operation : Disk → Except Error α × Disk) :
    (onDisk operation).run.run progress =
      ((operation progress.disk).1, { progress with disk := (operation progress.disk).2 }) := by
  rcases done : operation progress.disk with ⟨error | value, disk⟩ <;>
    simp only [onDisk, run_bind, run_get, run_set, done, run_pure, run_throw]

theorem run_ensure (here : Location) (step : Step) (path : Path) :
    (ensure here step path).run.run progress =
      ((progress.disk.ensureDirectory here path).1.mapError (.io step path),
        { progress with disk := (progress.disk.ensureDirectory here path).2 }) := by
  rw [ensure, run_onDisk]
  rcases progress.disk.ensureDirectory here path with ⟨_ | _, _⟩ <;> rfl

theorem run_perform (here : Location) (toolchain : Toolchain) (request : Request) :
    (perform here toolchain request).run.run progress =
      ((toolchain.perform here request progress.disk).result,
        { disk := (toolchain.perform here request progress.disk).disk
          requests := progress.requests ++ [request]
          printed := progress.printed ++
            (toolchain.perform here request progress.disk).printed }) := by
  rcases done : (toolchain.perform here request progress.disk).result with error | ⟨⟩ <;>
    simp only [perform, run_bind, run_get, run_set, done, run_pure, run_throw]

end Run

variable {here : Location} {settings : Settings} {model : Model} {toolchain : Toolchain}

theorem steps_eq : steps here settings model toolchain = (do
    ensure here .ensureOutputRoot settings.outputPath
    ensure here .ensureModuleDirectory (model.directory settings.outputPath)
    Stage.runAll here settings model toolchain Stage.all
    pure (artifact settings model)) := by
  simp only [steps, Stage.runAll, Stage.all, Stage.run, bind_assoc, pure_bind, Folder.step,
    Folder.within, Folder.name, Path.within, List.foldl, Model.schemaDirectory,
    Model.packageDirectory, Model.sourceDirectory]

end Compile

end ModelForge
