import ModelForge.Process.Outcome
import ModelForge.Source.Render

/-! The steps of a compilation in their order, and the ways in which one can fail. -/
namespace ModelForge.Compile

inductive Step where
  | ensureOutputRoot
  | ensureModuleDirectory
  | generateManifest
  | generateEntryPoint
  | ensurePackageDirectory
  | generateModel
  | generateUnmarshaller
  | generateValidator
  | generatePlugin
  | ensureSchemaDirectory
  | copyModules
  | generateBindings
  | build
deriving DecidableEq, Repr

namespace Step

def text : Step → String
  | ensureOutputRoot => "ensure output root"
  | ensureModuleDirectory => "ensure module dir"
  | generateManifest => "generate manifest"
  | generateEntryPoint => "generate entry point"
  | ensurePackageDirectory => "ensure package dir"
  | generateModel => "generate model"
  | generateUnmarshaller => "generate unmarshaller"
  | generateValidator => "generate validator"
  | generatePlugin => "generate plugin"
  | ensureSchemaDirectory => "ensure schema dir"
  | copyModules => "copy modules"
  | generateBindings => "generate bindings"
  | build => "build"

/-- The step that generates a file. -/
def ofKind : Source.Kind → Step
  | .manifest => generateManifest
  | .entryPoint => generateEntryPoint
  | .model => generateModel
  | .unmarshaller => generateUnmarshaller
  | .validator => generateValidator
  | .plugin => generatePlugin

/-- All steps in order. -/
def all : List Step :=
  [ensureOutputRoot, ensureModuleDirectory, generateManifest, generateEntryPoint,
    ensurePackageDirectory, generateModel, generateUnmarshaller, generateValidator,
    generatePlugin, ensureSchemaDirectory, copyModules, generateBindings, build]

end Step

inductive Error where
  | descriptor (cause : DescriptorError)
  | io (step : Step) (path : Path) (fault : Fault)
  | template (step : Step) (cause : Source.RenderError)
  | externalProcess (step : Step) (program reason : String)

namespace Error

/-- A model that is refused fails before the first step. -/
def step? : Error → Option Step
  | descriptor _ => none
  | io step _ _ => some step
  | template step _ => some step
  | externalProcess step _ _ => some step

def message : Error → String
  | descriptor cause => "invalid model descriptor: " ++ cause.message
  | io step path fault => s!"{step.text}: I/O error at {path}: {fault.message}"
  | template step cause => s!"{step.text}: {cause.message}"
  | externalProcess step program reason => s!"{step.text}: \x60{program}\x60 {reason}"

/-- The messages of what caused an error, nearest first. -/
def causes : Error → List String
  | descriptor cause => [cause.message]
  | io _ _ fault => [fault.message]
  | template _ (.template error) => (Source.RenderError.template error).message :: error.chain
  | template _ cause => [cause.message]
  | externalProcess _ _ _ => []

/-- A file that could not be read or written is an error of the step, not of the definition. -/
def ofRender (step : Step) : Source.RenderError → Error
  | .io path fault => io step path fault
  | other => template step other

end Error

end ModelForge.Compile
