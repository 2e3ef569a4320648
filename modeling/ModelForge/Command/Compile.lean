import ModelForge.Command.Command
import ModelForge.Command.Outcome
import ModelForge.Compile.Pipeline

/-! The command that compiles a model. The arguments of all modules are looked at before the first
file is read, and all files are read before anything is written. -/
namespace ModelForge.Command

/-- Why a module argument is refused. -/
inductive ModuleFault where
  | noSeparator (argument : String)
  | badKey (cause : DescriptorError)
  | emptyPath (key : Identity)
deriving DecidableEq, Repr

def ModuleFault.message : ModuleFault → String
  | noSeparator argument => s!"module '{argument}' must have the form name@version=path"
  | badKey cause => cause.message
  | emptyPath key => s!"module '{key.key}' has an empty path"

/-- A key and a path with the first `=` between them. -/
def moduleArgument (argument : String) : Except ModuleFault (Identity × Path) :=
  match Text.cut? '=' argument.toList with
  | none => .error (.noSeparator argument)
  | some (key, path) =>
    match Identity.ofKey (String.ofList key) with
    | .error cause => .error (.badKey cause)
    | .ok key => if path.isEmpty then .error (.emptyPath key) else .ok (key, ⟨String.ofList path⟩)

section Files

variable (disk : Disk) (here : Location)

def readModule (key : Identity) (path : Path) : Except Failure SchemaModule :=
  match disk.read here path with
  | .ok data => .ok (key.withData data)
  | .error fault => .error (.ofFault s!"cannot read module {key.key} from '{path}'" fault)

/-- The model that the options describe, with the modules in their order. -/
def readModel (options : CompileOptions) : Except Failure Model := do
  let arguments ← (options.modules.mapM moduleArgument).mapError fun fault => ⟨fault.message, []⟩
  let modules ← arguments.mapM fun (key, path) => readModule disk here key path
  pure ⟨options.model.name, options.model.version, modules⟩

end Files

/-- Compiles a model with the tools that the options and the surroundings name. -/
def CompileOptions.run (options : CompileOptions) (builder : String) (here : Location)
    (disk : Disk) : Outcome × Disk :=
  match readModel disk here options with
  | .error failure => (.failed failure, disk)
  | .ok model =>
    let toolchain := Compile.Toolchain.programs options.bindingGenerator builder
    let (result, progress) := Compile.compile here options.settings toolchain model disk
    let outcome : Outcome := match result with
      | .error error =>
        .failed (.ofCompile s!"failed to compile model {model.identity.key}" error)
      | .ok artifact =>
        .printed [s!"✓ Compiled {artifact.name} {artifact.version} → {artifact.file}"]
    (outcome.after progress.printed, progress.disk)

end ModelForge.Command
