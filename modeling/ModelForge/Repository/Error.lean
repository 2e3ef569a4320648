import ModelForge.Disk.Fault
import ModelForge.Path.Basic

/-! What can go wrong with a repository of compiled models. -/
namespace ModelForge.Repository

inductive Error where
  | load (path : Path) (reason : String)
  | symbolNotFound (path : Path) (symbol : String)
  | invalidContract (path : Path) (reason : String)
  | io (path : Path) (fault : Fault)
  | config (path : Path) (reason : String)
deriving DecidableEq, Repr

namespace Error

def path : Error → Path
  | load path _ => path
  | symbolNotFound path _ => path
  | invalidContract path _ => path
  | io path _ => path
  | config path _ => path

def message : Error → String
  | load path reason => s!"failed to load model artifact {path}: {reason}"
  | symbolNotFound path symbol => s!"model artifact {path} does not export \x60{symbol}\x60"
  | invalidContract path reason =>
    s!"model artifact {path} has an invalid plugin declaration: {reason}"
  | io path fault => s!"I/O error at {path}: {fault.message}"
  | config path reason => s!"failed to parse repository config at {path}: {reason}"

/-- The message of what caused an error, if it had a cause. -/
def causes : Error → List String
  | io _ fault => [fault.message]
  | config _ reason => [reason]
  | _ => []

end Error

end ModelForge.Repository
