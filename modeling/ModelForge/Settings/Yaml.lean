import ModelForge.Settings.Json
import ModelForge.Yaml.Record
import ModelForge.Yaml.Written

/-! Settings written as a YAML document. A field that is not there keeps its default. -/
namespace ModelForge.Settings

open ModelForge.Yaml

def yamlShape : Shape Settings where
  expected := documentName
  fields := [
    ("template_path", fun node => do
      let s ← anyText "path string" node
      pure fun settings => { settings with templatePath := ⟨s⟩ }),
    ("output_path", fun node => do
      let s ← anyText "path string" node
      pure fun settings => { settings with outputPath := ⟨s⟩ }),
    ("mode", fun node => do
      let mode ← choice Mode.named node
      pure fun settings => { settings with mode }),
    ("toolchain_version", fun node => do
      let s ← anyText "a string" node
      pure fun settings => { settings with toolchainVersion := s }),
    ("copy_policy", fun node => do
      let copyPolicy ← choice CopyPolicy.named node
      pure fun settings => { settings with copyPolicy })]
  start := {}
  required := []

def ofYaml (document : String) : Except Yaml.Error Settings :=
  record yamlShape (Document.ofText document)

/-- The document of some settings. Every field is written, in a fixed order. -/
def toYaml (settings : Settings) : String :=
  String.ofList ([
    ("template_path", settings.templatePath.text),
    ("output_path", settings.outputPath.text),
    ("mode", settings.mode.text),
    ("toolchain_version", settings.toolchainVersion),
    ("copy_policy", settings.copyPolicy.text)].flatMap fun (key, value) => Written.entry key value)

end ModelForge.Settings
