import ModelForge.Compile.Error
import ModelForge.Settings.Basic

/-! Putting the data of one schema module into its file. The data are written beside the file
first and take its place in one stroke, so a reader never sees half of them. -/
namespace ModelForge.Compile

/-- The name under which a file is written before it takes its place. -/
def stagingPath (path : Path) : Path := ⟨path.text ++ ".config-model.tmp"⟩

inductive SchemaWrite where
  | written
  | skipped
deriving DecidableEq, Repr

/-- Takes a staged file away again if it can be. -/
def discard (disk : Disk) (here : Location) (path : Path) : Disk :=
  match disk.unlink here path with
  | .ok disk => disk
  | .error _ => disk

/-- Writes a schema file unless one is there that the policy keeps. -/
def writeSchema (disk : Disk) (here : Location) (policy : CopyPolicy) (path : Path)
    (data : ByteArray) : Except Error SchemaWrite × Disk :=
  if policy = .skipExisting ∧ disk.pathExists here path then (.ok .skipped, disk)
  else
    let staged := stagingPath path
    match disk.write here staged data with
    | .error fault => (.error (.io .copyModules staged fault), disk)
    | .ok disk =>
      match disk.rename here staged path with
      | .ok disk => (.ok .written, disk)
      | .error fault => (.error (.io .copyModules path fault), discard disk here staged)

end ModelForge.Compile
