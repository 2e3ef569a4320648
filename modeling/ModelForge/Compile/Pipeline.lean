import ModelForge.Compile.SchemaFile
import ModelForge.Compile.Toolchain
import ModelForge.Json.Quoted

/-! Compiling a model: thirteen steps, the first failure ends the run, and what was done before
stays on the disk. A later run writes over it. -/
namespace ModelForge.Compile

/-- A finished library. -/
structure Artifact where
  name : String
  version : String
  file : Path
deriving DecidableEq, Repr

/-- The artifact as a JSON object without blanks. -/
def Artifact.toJson (artifact : Artifact) : String :=
  let field (name value : String) : String := Json.quoted name ++ ":" ++ Json.quoted value
  "\x7b" ++ String.intercalate "," [field "name" artifact.name,
    field "version" artifact.version, field "file" artifact.file.text] ++ "\x7d"

/-- The disk so far, what the tools have been asked to do, and what they have printed. -/
structure Progress where
  disk : Disk
  requests : List Request
  printed : Process.Printed

abbrev Run := ExceptT Error (StateM Progress)

namespace Run

/-- An operation that leaves a disk behind even when it fails. -/
def onDisk (operation : Disk → Except Error α × Disk) : Run α := do
  let progress ← get
  let (result, disk) := operation progress.disk
  set { progress with disk }
  match result with
  | .ok value => pure value
  | .error error => throw error

end Run

section Steps

variable (here : Location) (settings : Settings) (model : Model)

def ensure (step : Step) (path : Path) : Run Unit :=
  Run.onDisk fun disk =>
    match disk.ensureDirectory here path with
    | (.ok (), disk) => (.ok (), disk)
    | (.error fault, disk) => (.error (.io step path fault), disk)

/-- The way from the generated tree back to the working directory. -/
def wayBack (workingDirectory : Path) : Path :=
  let directory := model.directory settings.outputPath
  let directory := if directory.isAbsolute then directory else workingDirectory.join directory
  Path.between directory workingDirectory

def context : Source.Context :=
  ⟨model, settings.mode, settings.toolchainVersion, wayBack settings model here.path⟩

def generate (kind : Source.Kind) : Run Unit :=
  Run.onDisk fun disk =>
    let step := Step.ofKind kind
    if disk.entryAt here = some .directory then
      match Source.renderFile disk here kind (kind.definitionPath settings.templatePath)
          (context here settings model) (kind.target settings.outputPath model) with
      | .ok disk => (.ok (), disk)
      | .error error => (.error (.ofRender step error), disk)
    else (.error (.io step ⟨"."⟩ .notFound), disk)

def copyModules : List SchemaModule → Run Unit
  | [] => pure ()
  | m :: rest => do
    let _ ← Run.onDisk fun disk =>
      writeSchema disk here settings.copyPolicy (model.schemaFile settings.outputPath m) m.data
    copyModules rest

def perform (toolchain : Toolchain) (request : Request) : Run Unit := do
  let progress ← get
  let answer := toolchain.perform here request progress.disk
  set { progress with
    disk := answer.disk
    requests := progress.requests ++ [request]
    printed := progress.printed ++ answer.printed }
  match answer.result with
  | .ok () => pure ()
  | .error error => throw error

def sourceTree : SourceTree := ⟨model.directory settings.outputPath, model.libraryName⟩

/-- The request for bindings names every schema file of the model, in order. -/
def bindingRequest : Request :=
  .bindings (sourceTree settings model)
    (model.modules.map fun m => Path.child ⟨"yang"⟩ m.fileName)
    ((Path.child ⟨"src"⟩ Source.packageName).child "generated.rs") Source.packageName

def buildRequest : Request :=
  .build (sourceTree settings model) (model.artifact settings.outputPath) settings.mode

def artifact : Artifact :=
  ⟨model.name, model.version, model.artifact settings.outputPath⟩

/-- All the steps. The source directory is made by the step that puts the first file there. -/
def steps (toolchain : Toolchain) : Run Artifact := do
  let output := settings.outputPath
  ensure here .ensureOutputRoot output
  ensure here .ensureModuleDirectory (model.directory output)
  generate here settings model .manifest
  ensure here .generateEntryPoint (model.sourceDirectory output)
  generate here settings model .entryPoint
  ensure here .ensurePackageDirectory (model.packageDirectory output)
  generate here settings model .model
  generate here settings model .unmarshaller
  generate here settings model .validator
  generate here settings model .plugin
  ensure here .ensureSchemaDirectory (model.schemaDirectory output)
  copyModules here settings model model.modules
  perform here toolchain (bindingRequest settings model)
  perform here toolchain (buildRequest settings model)
  pure (artifact settings model)

end Steps

/-- Compiles a model, unless it is refused. Nothing is touched before the model is accepted. -/
def compile (here : Location) (settings : Settings) (toolchain : Toolchain) (model : Model)
    (disk : Disk) : Except Error Artifact × Progress :=
  match model.validate with
  | .error cause => (.error (.descriptor cause), ⟨disk, [], {}⟩)
  | .ok () => (steps here settings model toolchain).run.run ⟨disk, [], {}⟩

end ModelForge.Compile
