import ModelForge.Command.Run
import ModelForge.Disk.Tree
import ModelForge.Machine

/-! The command line. What the arguments name is taken in from the file system beside what every
machine has, the command runs on it, and what the command changed is written back. -/
namespace ModelForge.Main

/-- The paths that a command reads or writes, as far as a disk tells. -/
def touched (disk : Disk) (here : Location) : Command → List Path
  | .compile options =>
    options.settings.templatePath :: options.settings.outputPath :: ⟨options.bindingGenerator⟩
      :: options.modules.filterMap fun argument =>
        (Command.moduleArgument argument).toOption.map Prod.snd
  | .list options =>
    match options.whereabouts with
    | .at path => [path]
    | .configured file =>
      match Repository.Config.load disk here file with
      | .ok config => [file, config.path]
      | .error _ => [file]

/-- What has been taken in so far, and the directories that are complete. -/
structure Taken where
  disk : Disk
  directories : List Path

/-- Takes in what lies at an absolute path. A path that leads elsewhere becomes a link. -/
partial def takeIn (taken : Taken) (path : Path) : IO Taken := do
  if taken.directories.contains path then return taken
  let .ok real ← (IO.FS.realPath path.text).toBaseIO | return taken
  if real.toString ≠ path.text then
    takeIn { taken with disk := (taken.disk.placeLink [] path ⟨real.toString⟩).2 }
      ⟨real.toString⟩
  else if ← real.isDir then
    let mut taken : Taken :=
      ⟨(taken.disk.ensureDirectory [] path).2, path :: taken.directories⟩
    for entry in ← real.readDir do
      taken ← takeIn taken (path.child entry.fileName)
    return taken
  else
    let content ← IO.FS.readBinFile real
    -- Whether a file may be run cannot be seen from here; a script says so in its first bytes.
    let executable := content.data.toList.take 2 = "#!".toUTF8.data.toList
    return { taken with disk := (taken.disk.place [] path content executable).2 }

/-- Writes an entry that a command has changed. -/
def writeBack (before : Disk) (location : Location) (entry : Entry) : IO Unit := do
  if before.entryAt location = some entry then return
  match entry with
  | .directory => IO.FS.createDirAll location.path.text
  | .file content _ => IO.FS.writeBinFile location.path.text content
  | .link _ | .device _ => return

/-- Takes away a file that a command has removed. -/
def removeBack (after : Disk) (location : Location) (entry : Entry) : IO Unit := do
  match after.entryAt location, entry with
  | none, .file _ _ => IO.FS.removeFile location.path.text
  | _, _ => return

/-- Directories come before what is in them. -/
def inOrder (entries : List (Location × Entry)) : List (Location × Entry) :=
  entries.mergeSort fun a b => a.1.length ≤ b.1.length

/-- No libraries are opened from here. -/
def platform : Repository.Platform :=
  ⟨fun _ => none, fun _ => none, "this program opens no libraries"⟩

/-- Runs the program in the working directory and gives its exit status. -/
def perform (arguments : List String) : IO UInt32 := do
  let workingDirectory : Path := ⟨(← IO.currentDir).toString⟩
  let builder := (← IO.getEnv "CARGO").getD "cargo"
  let mut taken ← takeIn ⟨Machine.disk, []⟩ workingDirectory
  let here := (taken.disk.locate [] workingDirectory).toOption.getD []
  if let .ok command := Command.ofArguments arguments then
    -- A config file has to be there before the path in it is known.
    for _ in [1, 2] do
      for path in Path.mk builder :: touched taken.disk here command do
        taken ← takeIn taken (workingDirectory.join path).normalize
  let before := taken.disk
  let surroundings : Command.Surroundings := ⟨here, platform, "lean 4", builder⟩
  let (outcome, after) := Command.run surroundings arguments before
  for (location, entry) in inOrder after.entries.toList do
    writeBack before location entry
  for (location, entry) in before.entries.toList do
    removeBack after location entry
  IO.print outcome.output
  IO.eprint outcome.complaint
  return outcome.status.toUInt32

end ModelForge.Main

def main (arguments : List String) : IO UInt32 := ModelForge.Main.perform arguments
