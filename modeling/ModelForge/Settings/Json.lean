import ModelForge.Json.Record
import ModelForge.Settings.Basic

/-! Settings written as a JSON document. A field that is not there keeps its default. -/
namespace ModelForge

/-- The modes by name. -/
def Mode.named : List (String × Mode) := [("binary", .binary), ("module", .loadable)]

/-- The copy policies by name. -/
def CopyPolicy.named : List (String × CopyPolicy) :=
  [("skip_existing", .skipExisting), ("overwrite", .overwrite)]

namespace Settings

open Json.Reader

/-- What a settings document is called in messages. -/
def documentName : String := "struct CompilationSettings"

def jsonShape : Shape Settings where
  expected := documentName
  fields := [
    ("template_path", do
      let s ← anyText "path string"
      pure fun settings => { settings with templatePath := ⟨s⟩ }),
    ("output_path", do
      let s ← anyText "path string"
      pure fun settings => { settings with outputPath := ⟨s⟩ }),
    ("mode", do
      let mode ← choice Mode.named
      pure fun settings => { settings with mode }),
    ("toolchain_version", do
      let s ← anyText "a string"
      pure fun settings => { settings with toolchainVersion := s }),
    ("copy_policy", do
      let copyPolicy ← choice CopyPolicy.named
      pure fun settings => { settings with copyPolicy })]
  start := {}
  required := []
  expectedList := documentName ++ " with 5 elements"

def ofJson (document : String) : Except Json.Error Settings :=
  Json.readDocument (record jsonShape) document.toUTF8.data.toList

end Settings

end ModelForge
