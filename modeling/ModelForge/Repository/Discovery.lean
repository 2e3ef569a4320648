import ModelForge.Disk.Operation
import ModelForge.Model.Layout
import ModelForge.Repository.Error

/-! Finding the artifacts below a directory. The walk goes level by level through directories,
does not follow links inside, and its result does not hang on the order in which a directory
lists its entries. -/
namespace ModelForge.Repository

/-- The order in which directories list their names. -/
structure Listing where
  order : Location → List String → List String
  complete : ∀ location names, (order location names).Perm names

/-- Every directory lists its names in the order of their bytes. -/
def Listing.sorted : Listing := ⟨fun _ names => names, fun _ _ => .refl _⟩

/-- A directory with the path by which it was reached. -/
structure Visited where
  path : Path
  location : Location

section Walk

variable (disk : Disk) (listing : Listing)

/-- What a directory holds, in the order in which it is listed. -/
def contents (directory : Visited) : List (Visited × Entry) :=
  (listing.order directory.location (disk.names directory.location)).filterMap fun name =>
    (disk.entryAt (name :: directory.location)).map fun entry =>
      (⟨directory.path.child name, name :: directory.location⟩, entry)

def filesIn (directory : Visited) : List Path :=
  (contents disk listing directory).filterMap fun (found, entry) =>
    match entry with
    | .file _ _ => some found.path
    | _ => none

def directoriesIn (directory : Visited) : List Visited :=
  (contents disk listing directory).filterMap fun (found, entry) =>
    match entry with
    | .directory => some found
    | _ => none

/-- Some directories and those below, level by level, at most so many levels. -/
def directoriesBelow : Nat → List Visited → List Visited
  | 0, _ => []
  | levels + 1, directories =>
    directories ++ directoriesBelow levels (directories.flatMap (directoriesIn disk listing))

/-- Every level has an entry of its own, so there are no more levels than entries. -/
def levelLimit : Nat := disk.entries.size + 1

/-- The artifacts below a path in the order of their paths. A directory is opened under the path
by which it was found, which may have become too long. -/
def artifacts (here : Location) (path : Path) : Except Error (List Path) :=
  match disk.locate here path with
  | .error fault => .error (.io path fault)
  | .ok location =>
    if disk.found location = .directory then
      let directories := directoriesBelow disk listing (levelLimit disk) [⟨path, location⟩]
      let isTooDeep (directory : Visited) : Bool :=
        Disk.pathLimit < directory.path.text.utf8ByteSize
      match directories.find? isTooDeep with
      | some directory => .error (.io directory.path .nameTooLong)
      | none =>
        .ok (((directories.flatMap (filesIn disk listing)).filter Path.isArtifact).mergeSort
          Path.precedes)
    else .error (.io path .notADirectory)

end Walk

end ModelForge.Repository
