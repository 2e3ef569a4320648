import ModelForge.Command.Compile
import ModelForge.Command.List
import ModelForge.Repository.Loader

/-! Running a command. -/
namespace ModelForge.Command

/-- What the program finds where it runs. -/
structure Surroundings where
  here : Location
  platform : Repository.Platform
  /-- The toolchain that the program itself was built with. -/
  toolchain : String
  /-- The program that builds libraries. -/
  builder : String

/-- The name by which the program goes. -/
def programName : String := "config-model"

/-- Runs the command that the arguments spell. Only a compilation changes the disk. -/
def run (surroundings : Surroundings) (arguments : List String) (disk : Disk) : Outcome × Disk :=
  match ofArguments arguments with
  | .error (.misuse misuse) => (.misused misuse, disk)
  | .error .help => (.printed [purpose], disk)
  | .error .version => (.printed [s!"{programName} {Source.programVersion}"], disk)
  | .ok (.compile options) => options.run surroundings.builder surroundings.here disk
  | .ok (.list options) =>
    let host : Repository.Host :=
      ⟨surroundings.platform, surroundings.toolchain, disk, surroundings.here⟩
    let loader := Repository.nativeLoader host []
    (options.run .sorted loader surroundings.here disk, disk)

end ModelForge.Command
