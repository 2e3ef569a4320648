import ModelForge.Model.Basic
import ModelForge.Path.Basic
import ModelForge.Text.Search

/-! Where everything that belongs to a model lies. Below the output path a model owns one
directory:

```text
<name>_<version>/                 dots become underscores
  Cargo.toml
  src/lib.rs
  src/plugin/{model,unmarshaller,validator,plugin,generated}.rs
  yang/<module>@<version>.yang
  <name>.so.<version>
```

Nothing here looks at a disk. -/
namespace ModelForge

namespace Text

def substitute (old new : Char) (text : String) : String :=
  String.ofList (text.toList.map fun c => if c = old then new else c)

end Text

/-- The text that every artifact's file name contains. -/
def artifactMarker : String := ".so."

namespace Identity

def artifactName (identity : Identity) : String :=
  identity.name ++ artifactMarker ++ identity.version

end Identity

namespace Path

/-- Whether the last name of a path carries the artifact marker. -/
def isArtifact (path : Path) : Bool :=
  match path.fileName? with
  | some name => Text.occursIn artifactMarker.toList name.toList
  | none => false

end Path

namespace Model

def safeName (model : Model) : String :=
  Text.substitute '.' '_' (model.name ++ "_" ++ model.version)

/-- A library's name may not hold a dash. -/
def libraryName (model : Model) : String := Text.substitute '-' '_' model.safeName

/-- The directory that a model owns. -/
def directory (model : Model) (output : Path) : Path := output.child model.safeName

def fileIn (model : Model) (output : Path) (file : String) : Path :=
  (model.directory output).child file

def sourceDirectory (model : Model) (output : Path) : Path :=
  (model.directory output).child "src"

def packageDirectory (model : Model) (output : Path) : Path :=
  (model.sourceDirectory output).child "plugin"

def packageFile (model : Model) (output : Path) (file : String) : Path :=
  (model.packageDirectory output).child file

def schemaDirectory (model : Model) (output : Path) : Path :=
  (model.directory output).child "yang"

def schemaFile (model : Model) (output : Path) (m : SchemaModule) : Path :=
  (model.schemaDirectory output).child m.fileName

def artifact (model : Model) (output : Path) : Path :=
  model.fileIn output model.identity.artifactName

end Model

end ModelForge
