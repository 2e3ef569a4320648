import ModelForge.Process.Launch

/-! What every machine has: two devices, and the plainest programs of its system, as they behave
when they are given options that are meant for other programs. -/
namespace ModelForge.Machine

def programs : List (String × Process.Native) := [
  ("cat", .refuses 1), ("chmod", .refuses 1), ("dash", .shell), ("date", .refuses 1),
  ("echo", .echo), ("false", .exits 1), ("head", .refuses 1), ("ln", .refuses 1),
  ("ls", .refuses 2), ("mkdir", .refuses 1), ("mv", .refuses 1), ("pwd", .refuses 1),
  ("rm", .refuses 1), ("sh", .shell), ("sleep", .refuses 1),
  ("tail", .refuses 1), ("tee", .refuses 1), ("touch", .refuses 1), ("true", .exits 0),
  ("wc", .refuses 1)]

def devices : List (String × Device) := [("full", .full), ("null", .null)]

/-- Puts several entries into a directory. -/
def fill (parent : Location) (disk : Disk) (entries : List (String × Entry)) : Disk :=
  entries.foldl (fun disk (name, entry) => disk.put name parent entry) disk

/-- The directory of programs has a second, shorter name. -/
def disk : Disk :=
  let directories := fill [] .empty
    [("bin", .link ⟨"usr/bin"⟩), ("dev", .directory), ("usr", .directory)]
  let directories := fill ["usr"] directories [("bin", .directory)]
  let withDevices :=
    fill ["dev"] directories (devices.map fun (name, device) => (name, .device device))
  fill ["bin", "usr"] withDevices
    (programs.map fun (name, program) => (name, .file program.image true))

end ModelForge.Machine
