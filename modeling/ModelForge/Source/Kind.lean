import ModelForge.Model.Layout
import ModelForge.Source.Defaults

/-! The six files that are generated for a model, with the definition each is made from. -/
namespace ModelForge.Source

inductive Kind where
  | manifest
  | entryPoint
  | model
  | unmarshaller
  | validator
  | plugin
deriving DecidableEq, Repr

namespace Kind

/-- All kinds in the order in which they are generated. -/
def all : List Kind := [manifest, entryPoint, model, unmarshaller, validator, plugin]

def outputFile : Kind → String
  | manifest => "Cargo.toml"
  | entryPoint => "lib.rs"
  | model => "model.rs"
  | unmarshaller => "unmarshaller.rs"
  | validator => "validator.rs"
  | plugin => "plugin.rs"

def definitionFile (kind : Kind) : String := kind.outputFile ++ ".tera"

/-- Whether the file belongs to the package inside the library. -/
def isPackageFile : Kind → Bool
  | manifest | entryPoint => false
  | _ => true

def definitionPath (kind : Kind) (templates : Path) : Path := templates.child kind.definitionFile

/-- Where the generated file of a model goes. -/
def target (kind : Kind) (output : Path) (m : Model) : Path :=
  match kind with
  | manifest => m.fileIn output kind.outputFile
  | entryPoint => (m.sourceDirectory output).child kind.outputFile
  | _ => m.packageFile output kind.outputFile

def defaultDefinition : Kind → String
  | manifest => Defaults.manifest
  | entryPoint => Defaults.entryPoint
  | model => Defaults.model
  | unmarshaller => Defaults.unmarshaller
  | validator => Defaults.validator
  | plugin => Defaults.plugin

end Kind

end ModelForge.Source
