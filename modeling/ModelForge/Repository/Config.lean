import ModelForge.Disk.Operation
import ModelForge.Repository.Error
import ModelForge.Yaml.Record

/-! The file that says where a repository lies. -/
namespace ModelForge.Repository

structure Config where
  path : Path
deriving DecidableEq, Repr

namespace Config

open ModelForge.Yaml

def shape : Shape Config where
  expected := "struct RepositoryConfig"
  fields := [
    ("path", fun node => do
      let s ← anyText "path string" node
      pure fun _ => ⟨⟨s⟩⟩)]
  start := ⟨⟨""⟩⟩
  required := ["path"]

def ofYaml (document : String) : Except Yaml.Error Config :=
  record shape (Document.ofText document)

/-- The config in a file. A relative path in it is kept as it is. -/
def load (disk : Disk) (here : Location) (file : Path) : Except Error Config :=
  match disk.readText here file with
  | .error fault => .error (.io file fault)
  | .ok document =>
    match ofYaml document with
    | .error error => .error (.config file error.message)
    | .ok config => .ok config

end Config

end ModelForge.Repository
