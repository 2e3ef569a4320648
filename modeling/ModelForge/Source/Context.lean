import ModelForge.Model.Layout
import ModelForge.Template.Value

/-! What a definition can refer to: the model with its modules, and how it is compiled. The data
of the modules are not part of it. -/
namespace ModelForge.Source

/-- The name of the symbol that a loader looks for in a library. -/
def loaderSymbol : String := "MODEL_PLUGIN"

/-- The package that holds the generated code. -/
def packageName : String := "plugin"

/-- The version of this program. -/
def programVersion : String := "0.1.0"

structure Context where
  model : Model
  mode : Mode
  toolchainVersion : String
  /-- The way from the generated library back to the invoking directory. -/
  relativePath : Path

namespace Context

open Template (Value)

def moduleValue (m : SchemaModule) : Value :=
  .record [
    ("file", .text m.fileName),
    ("name", .text m.name),
    ("organization", match m.organization with
      | some organization => .text organization
      | none => .null),
    ("version", .text m.version)]

def modelValue (m : Model) : Value :=
  .record [
    ("lib_name", .text m.libraryName),
    ("modules", .list (m.modules.map moduleValue)),
    ("name", .text m.name),
    ("safe_name", .text m.safeName),
    ("version", .text m.version)]

/-- Separators are slashes in any case. -/
def compilerValue (context : Context) : Value :=
  .record [
    ("crate_version", .text programVersion),
    ("mode", .text context.mode.text),
    ("package", .text packageName),
    ("relative_path", .text (Text.substitute '\\' '/' context.relativePath.text)),
    ("symbol", .text loaderSymbol),
    ("version", .text context.toolchainVersion)]

/-- The names that a definition starts from. -/
def bindings (context : Context) : List (String × Value) :=
  [("compiler", context.compilerValue), ("model", modelValue context.model)]

def toValue (context : Context) : Value := .record context.bindings

end Context

end ModelForge.Source
