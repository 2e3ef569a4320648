import ModelForge.Text.Fields

/-! What a model is: a name, a version and schema modules. `Model.validate` is the only gate;
a model that passes has a non-empty name and version, so have its modules, and no two modules
share both. -/
namespace ModelForge

/-- A name and a version. Models and schema modules are told apart by it. -/
structure Identity where
  name : String
  version : String
deriving DecidableEq, Repr

-- The comparison of bytes is the same one wherever this module is read.
local instance (priority := 2000) decidableEqData : DecidableEq ByteArray := ByteArray.decEq

/-- A schema file that belongs to a model. The data are copied and never read. -/
structure SchemaModule where
  name : String
  version : String
  organization : Option String
  data : ByteArray
deriving DecidableEq

structure Model where
  name : String
  version : String
  modules : List SchemaModule
deriving DecidableEq

/-- How the generated entry point exposes a model: linked into a program, or loaded by one. -/
inductive Mode where
  | binary
  | loadable
deriving DecidableEq, Repr

/-- What becomes of a schema file that is already there. -/
inductive CopyPolicy where
  | skipExisting
  | overwrite
deriving DecidableEq, Repr

/-- Why a model, or the key of a module, is refused. Modules are counted from zero. -/
inductive DescriptorError where
  | badKey (key : String)
  | emptyName
  | emptyVersion (model : String)
  | emptyModuleField (model : String) (index : Nat)
  | duplicateModule (model name version : String)
deriving DecidableEq, Repr

namespace DescriptorError

def message : DescriptorError → String
  | badKey key => s!"module key '{key}' must be in the format $name@$version"
  | emptyName => "model name must not be empty"
  | emptyVersion model => s!"version of model '{model}' must not be empty"
  | emptyModuleField model index =>
    s!"module #{index} of model '{model}' has an empty name or version"
  | duplicateModule model name version =>
    s!"module {name}@{version} is declared twice in model '{model}'"

end DescriptorError

namespace Mode

def text : Mode → String
  | binary => "binary"
  | loadable => "module"

end Mode

namespace CopyPolicy

def text : CopyPolicy → String
  | skipExisting => "skip_existing"
  | overwrite => "overwrite"

end CopyPolicy

namespace Identity

/-- A key holds exactly one `@`, with text on both sides. -/
def ofKey (key : String) : Except DescriptorError Identity :=
  match Text.fields '@' key.toList with
  | [name, version] =>
    if name.isEmpty ∨ version.isEmpty then .error (.badKey key)
    else .ok ⟨String.ofList name, String.ofList version⟩
  | _ => .error (.badKey key)

def key (identity : Identity) : String := identity.name ++ "@" ++ identity.version

/-- The module that a key and the bytes of its file make. -/
def withData (identity : Identity) (data : ByteArray) : SchemaModule :=
  ⟨identity.name, identity.version, none, data⟩

end Identity

namespace SchemaModule

def identity (m : SchemaModule) : Identity := ⟨m.name, m.version⟩

/-- The name of the file that holds a module's data. -/
def fileName (m : SchemaModule) : String := m.identity.key ++ ".yang"

end SchemaModule

namespace Model

def identity (model : Model) : Identity := ⟨model.name, model.version⟩

/-- Looks at the modules in order, knowing the identities that came before. -/
def validateModules (model : String) (index : Nat) (seen : List Identity) :
    List SchemaModule → Except DescriptorError Unit
  | [] => .ok ()
  | m :: rest =>
    if m.name.isEmpty ∨ m.version.isEmpty then .error (.emptyModuleField model index)
    else if m.identity ∈ seen then .error (.duplicateModule model m.name m.version)
    else validateModules model (index + 1) (m.identity :: seen) rest

/-- The first thing wrong with a model: its own name, its version, then its modules in order. -/
def validate (model : Model) : Except DescriptorError Unit :=
  if model.name.isEmpty then .error .emptyName
  else if model.version.isEmpty then .error (.emptyVersion model.name)
  else validateModules model.name 0 [] model.modules

end Model

end ModelForge
