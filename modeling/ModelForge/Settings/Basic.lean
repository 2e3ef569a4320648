import ModelForge.Model.Basic
import ModelForge.Path.Basic

/-! How a model is compiled. -/
namespace ModelForge

structure Settings where
  /-- Where the template definitions lie. -/
  templatePath : Path := ⟨"templates"⟩
  /-- The directory under which every working tree is made. -/
  outputPath : Path := ⟨"."⟩
  mode : Mode := .loadable
  /-- The least toolchain version that the generated manifest asks for. -/
  toolchainVersion : String := "1.75"
  copyPolicy : CopyPolicy := .skipExisting
deriving DecidableEq, Repr

end ModelForge
