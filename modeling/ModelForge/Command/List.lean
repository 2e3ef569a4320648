import ModelForge.Command.Command
import ModelForge.Command.Outcome
import ModelForge.Repository.Config
import ModelForge.Repository.Lookup

/-! The command that lists a repository. It prints either everything or nothing. -/
namespace ModelForge.Command

/-- The repository that the options name. -/
def repositoryAt (disk : Disk) (here : Location) : Whereabouts → Except Failure Path
  | .at path => .ok path
  | .configured file =>
    match Repository.Config.load disk here file with
    | .ok config => .ok config.path
    | .error error => .error (.ofRepository s!"cannot load repository config '{file}'" error)

def artifactLines (repository : Path) (artifacts : List Path) : List String :=
  if artifacts.isEmpty then [s!"No model artifacts under {repository}"]
  else artifacts.map Path.text

def moduleLine (m : Plugin.ModuleInfo) : String :=
  match m.organization with
  | some organization => s!"  · {m.name}@{m.version} ({organization})"
  | none => s!"  · {m.name}@{m.version}"

/-- A model on a line, and its modules on the lines after it. -/
def modelLines (info : Plugin.Info) : List String :=
  s!"{info.name} {info.version}" :: info.modules.map moduleLine

def listing (repository : Path) (models : List Plugin.Handle) : List String :=
  if models.isEmpty then [s!"No models under {repository}"]
  else models.flatMap fun model => modelLines model.info

/-- Lists a repository, whatever the order in which directories list their entries. -/
def ListOptions.run (options : ListOptions) (order : Repository.Listing)
    (loader : Repository.Loader) (here : Location) (disk : Disk) : Outcome :=
  match repositoryAt disk here options.whereabouts with
  | .error failure => .failed failure
  | .ok repository =>
    if options.artifactsOnly then
      match Repository.artifacts disk order here repository with
      | .error error => .failed (.ofRepository s!"cannot search '{repository}'" error)
      | .ok artifacts => .printed (artifactLines repository artifacts)
    else
      match (Repository.listModels disk order loader here repository).result with
      | .error error => .failed (.ofRepository s!"cannot list models in '{repository}'" error)
      | .ok models => .printed (listing repository models)

end ModelForge.Command
