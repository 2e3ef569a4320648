import ModelForge.Disk.Operation

/-! A directory seen as a whole, and putting things where their directories may still be
missing. -/
namespace ModelForge.Disk

/-- The way down from a directory to a location below it. -/
def wayDown (directory location : Location) : String :=
  String.intercalate "/" (location.take (location.length - directory.length)).reverse

/-- An entry on a line: directories end in a slash, files tell their size, links their target. -/
def line (path : String) : Entry → String
  | .directory => path ++ "/"
  | .file content _ => s!"{path} {content.size}"
  | .link target => s!"{path} -> {target}"
  | .device _ => path ++ " 0"

/-- Everything below a directory, sorted by line. -/
def lines (disk : Disk) (directory : Location) : List String :=
  ((disk.below directory).map fun (location, entry) =>
    line (wayDown directory location) entry).mergeSort (· ≤ ·)

/-- What lies below a path. Each directory is opened under the path by which it was found, which
may have become too long. -/
def tree (disk : Disk) (here : Location) (path : Path) : Except Fault (List String) :=
  match disk.locate here path with
  | .error fault => .error fault
  | .ok directory =>
    if disk.found directory ≠ .directory then .error .notADirectory
    else if (disk.below directory).any fun (location, entry) =>
        entry = .directory
          && pathLimit < (path.child (wayDown directory location)).text.utf8ByteSize then
      .error .nameTooLong
    else .ok (disk.lines directory)

/-- Makes the directory that a path lies in. -/
def ensureParent (disk : Disk) (here : Location) (path : Path) : Except Fault Unit × Disk :=
  disk.ensureDirectory here (path.ancestors.headD ⟨""⟩)

/-- Does something where the parent of a path has been made first. -/
def inParent (disk : Disk) (here : Location) (path : Path) (action : Disk → Except Fault Disk) :
    Except Fault Unit × Disk :=
  match disk.ensureParent here path with
  | (.error fault, disk) => (.error fault, disk)
  | (.ok (), disk) =>
    match action disk with
    | .error fault => (.error fault, disk)
    | .ok disk => (.ok (), disk)

/-- Writes a file with its parents. -/
def place (disk : Disk) (here : Location) (path : Path) (content : ByteArray)
    (executable : Bool) : Except Fault Unit × Disk :=
  disk.inParent here path fun disk => do
    let disk ← disk.write here path content
    if executable then disk.setExecutable here path true else pure disk

/-- Makes a link with its parents. -/
def placeLink (disk : Disk) (here : Location) (path target : Path) : Except Fault Unit × Disk :=
  disk.inParent here path fun disk => disk.makeLink here path target

end ModelForge.Disk
