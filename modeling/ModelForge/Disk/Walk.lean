import ModelForge.Disk.Basic
import ModelForge.Disk.Fault

/-! Finding the entry that a path stands for. A walk goes name by name through directories and
follows the links it meets, at most forty of them. Every stretch between slashes, an empty one
too, has to start from a directory; that is why a slash after the name of a file is an error. -/
namespace ModelForge.Disk

/-- Where a walk ends: at an entry, or at a name that its directory does not hold. -/
inductive Place where
  | taken (location : Location)
  | vacant (name : String) (parent : Location)
deriving DecidableEq, Repr

/-- How many links one walk follows. -/
def linkLimit : Nat := 40

/-- The longest name, in bytes. -/
def nameLimit : Nat := 255

/-- The longest path, in bytes. -/
def pathLimit : Nat := 4095

/-- What lies where a walk has come to. A process can stay in a directory after it was taken away:
such a directory has no entry, is empty, and nothing can be put into it. -/
def found (disk : Disk) (location : Location) : Entry :=
  (disk.entryAt location).getD .directory

/-- Walks along the stretches of a path. `onLink` goes on from the directory of a link with the
stretches of its target in front of the remaining ones. A file that is about to be created may
not be named with a slash at the end. -/
def walkWith (disk : Disk) (creating : Bool)
    (onLink : Location → List String → Except Fault Place) (here : Location) :
    List String → Except Fault Place
  | [] => .ok (.taken here)
  | piece :: rest =>
    let standing := disk.entryAt here
    if standing ≠ none ∧ standing ≠ some .directory then .error .notADirectory
    else if piece = "" ∨ piece = "." then disk.walkWith creating onLink here rest
    else if piece = ".." then disk.walkWith creating onLink here.tail rest
    else
      let isLast := rest.all (· = "")
      if creating ∧ isLast ∧ rest ≠ [] then .error .isADirectory
      else if standing = none then .error .notFound
      else if nameLimit < piece.utf8ByteSize then .error .nameTooLong
      else match disk.entryAt (piece :: here) with
        | none => if isLast then .ok (.vacant piece here) else .error .notFound
        | some (.link target) =>
          onLink (if target.isAbsolute then [] else here) (target.pieces ++ rest)
        | some _ => disk.walkWith creating onLink (piece :: here) rest

/-- Walks with a number of links that may still be followed. -/
def walk (disk : Disk) (creating : Bool) : Nat → Location → List String → Except Fault Place
  | 0 => disk.walkWith creating fun _ _ => .error .tooManyLinks
  | links + 1 => disk.walkWith creating (disk.walk creating links)

/-- What is wrong with the text of a path, before any directory is looked at. -/
def textFault? (path : Path) : Option Fault :=
  if '\x00' ∈ path.text.toList then some .nulInPath
  else if path.isEmpty then some .notFound
  else if pathLimit < path.text.utf8ByteSize then some .nameTooLong
  else none

/-- The place that a path means, seen from a directory. -/
def reach (disk : Disk) (creating : Bool) (here : Location) (path : Path) : Except Fault Place :=
  match textFault? path with
  | some fault => .error fault
  | none => disk.walk creating linkLimit (if path.isAbsolute then [] else here) path.pieces

/-- The location of an existing entry, links followed. -/
def locate (disk : Disk) (here : Location) (path : Path) : Except Fault Location :=
  match disk.reach false here path with
  | .ok (.taken location) => .ok location
  | .ok (.vacant _ _) => .error .notFound
  | .error fault => .error fault

/-- What a path names without following a link at its end. -/
inductive Name where
  | plain (name : String) (parent : Location)
  /-- The path ends in `.` or `..`, or is the root. -/
  | special (last : Path.Component) (location : Location)
deriving DecidableEq, Repr

/-- The directory that holds the last name of a path, and that name. -/
def reachName (disk : Disk) (here : Location) (path : Path) : Except Fault Name :=
  match textFault? path with
  | some fault => .error fault
  | none =>
    let start := if path.isAbsolute then [] else here
    let pieces := (path.pieces.reverse.dropWhile (· = "")).reverse
    match pieces.getLast? with
    | none => .ok (.special .root [])
    | some last =>
      match disk.walk false linkLimit start pieces.dropLast with
      | .error fault => .error fault
      | .ok (.vacant _ _) => .error .notFound
      | .ok (.taken parent) =>
        let standing := disk.entryAt parent
        if standing ≠ none ∧ standing ≠ some .directory then .error .notADirectory
        else if last = "." then .ok (.special .current parent)
        else if last = ".." then .ok (.special .parent parent.tail)
        else if standing = none then .error .notFound
        else if nameLimit < last.utf8ByteSize then .error .nameTooLong
        else .ok (.plain last parent)

/-- The entry that a path stands for, links followed. -/
def status? (disk : Disk) (here : Location) (path : Path) : Option Entry :=
  match disk.locate here path with
  | .ok location => some (disk.found location)
  | .error _ => none

def isFile (disk : Disk) (here : Location) (path : Path) : Bool :=
  match disk.status? here path with
  | some (.file _ _) => true
  | _ => false

def isDirectory (disk : Disk) (here : Location) (path : Path) : Bool :=
  disk.status? here path = some .directory

def pathExists (disk : Disk) (here : Location) (path : Path) : Bool :=
  (disk.status? here path).isSome

end ModelForge.Disk
