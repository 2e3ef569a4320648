import ModelForge.Plugin.Basic
import ModelForge.Repository.Discovery

/-! Loading models from a repository: one by its name and version, or all that are there. The
paths that were tried are kept beside the outcome. -/
namespace ModelForge.Repository

/-- What makes a handle of an artifact. -/
abbrev Loader := Path → Except Error Plugin.Handle

/-- An outcome with the paths whose loading was tried, in order. -/
structure Traced (α : Type) where
  result : Except Error α
  tried : List Path

/-- The artifact of a model that lies directly in a repository. -/
def artifactOf (repository : Path) (identity : Identity) : Path :=
  repository.child identity.artifactName

def getModel (loader : Loader) (repository : Path) (identity : Identity) :
    Traced Plugin.Handle :=
  let path := artifactOf repository identity
  ⟨loader path, [path]⟩

/-- Loads one artifact after the other, up to the first that fails. -/
def loadAll (loader : Loader) : List Path → Traced (List Plugin.Handle)
  | [] => ⟨.ok [], []⟩
  | path :: rest =>
    match loader path with
    | .error error => ⟨.error error, [path]⟩
    | .ok handle =>
      let more := loadAll loader rest
      ⟨(handle :: ·) <$> more.result, path :: more.tried⟩

def listModels (disk : Disk) (listing : Listing) (loader : Loader) (here : Location)
    (repository : Path) : Traced (List Plugin.Handle) :=
  match artifacts disk listing here repository with
  | .error error => ⟨.error error, []⟩
  | .ok paths => loadAll loader paths

end ModelForge.Repository
