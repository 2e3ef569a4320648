import ModelForge.Disk.Walk

/-! Reading and changing a disk. Each single operation either succeeds or leaves the disk as it
was; `ensureDirectory`, which makes the missing ancestors too, may stop half-way and so returns a
disk in any case. -/
namespace ModelForge.Disk

def read (disk : Disk) (here : Location) (path : Path) : Except Fault ByteArray :=
  match disk.locate here path with
  | .error fault => .error fault
  | .ok location =>
    match disk.found location with
    | .file content _ => .ok content
    | .directory => .error .isADirectory
    | .device _ => .ok ByteArray.empty
    | .link _ => .error .notFound

def readText (disk : Disk) (here : Location) (path : Path) : Except Fault String :=
  match disk.read here path with
  | .error fault => .error fault
  | .ok content =>
    match String.fromUTF8? content with
    | some text => .ok text
    | none => .error .notUtf8

/-- Puts content at a place. A file keeps its permission to run unless another one is given. -/
def store (disk : Disk) (content : ByteArray) (executable : Option Bool) :
    Place → Except Fault Disk
  | .vacant name parent => .ok (disk.put name parent (.file content (executable.getD false)))
  | .taken location =>
    match location, disk.found location with
    | name :: parent, .file _ before =>
      .ok (disk.put name parent (.file content (executable.getD before)))
    | _, .device .null => .ok disk
    | _, .device .full => if content.isEmpty then .ok disk else .error .noSpace
    | _, .link _ => .error .notFound
    | _, _ => .error .isADirectory

/-- Replaces the content of the file that a path stands for, or makes the file. -/
def write (disk : Disk) (here : Location) (path : Path) (content : ByteArray) :
    Except Fault Disk :=
  match disk.reach true here path with
  | .error fault => .error fault
  | .ok place => disk.store content none place

/-- Sets whether a file may be run. Only files have that property. -/
def setExecutable (disk : Disk) (here : Location) (path : Path) (executable : Bool) :
    Except Fault Disk :=
  match disk.locate here path with
  | .error fault => .error fault
  | .ok [] => .ok disk
  | .ok (name :: parent) =>
    match disk.entryAt (name :: parent) with
    | some (.file content _) => .ok (disk.put name parent (.file content executable))
    | _ => .ok disk

/-- Puts a new entry where no entry is, not even a link that leads nowhere. -/
def create (disk : Disk) (here : Location) (path : Path) (entry : Entry) : Except Fault Disk :=
  match disk.reachName here path with
  | .error fault => .error fault
  | .ok (.special _ _) => .error .alreadyExists
  | .ok (.plain name parent) =>
    if (disk.entryAt (name :: parent)).isSome then .error .alreadyExists
    else .ok (disk.put name parent entry)

def makeDirectory (disk : Disk) (here : Location) (path : Path) : Except Fault Disk :=
  disk.create here path .directory

/-- Makes a link. A slash at the end of a new name asks for a directory, which a link is not. -/
def makeLink (disk : Disk) (here : Location) (path target : Path) : Except Fault Disk :=
  match textFault? target with
  | some fault => .error fault
  | none =>
    match disk.create here path (.link target) with
    | .error fault => .error fault
    | .ok changed =>
      if path.text.toList.getLast? = some '/' then .error .notFound else .ok changed

/-- A directory that could not be made will do when it is there already. -/
def settle (disk : Disk) (here : Location) (path : Path) (fault : Fault) :
    Except Fault (Option Location) :=
  if disk.isDirectory here path then .ok none else .error fault

/-- Makes the first directory of a list, after those that follow it if it needs them. Each path
is the next one with one more component. The result tells where the first directory lies when it
has just been made; a name in it can then be made without walking there again. -/
def ensureChain (disk : Disk) (here : Location) :
    List Path → Except Fault (Option Location) × Disk
  | [] => (.ok none, disk)
  | path :: ancestors =>
    match disk.makeDirectory here path with
    | .ok disk => (.ok (disk.locate here path).toOption, disk)
    | .error .notFound =>
      match disk.ensureChain here ancestors with
      | (.error fault, disk) => (.error fault, disk)
      | (.ok made, disk) =>
        match made, path.fileName? with
        | some parent, some name =>
          if nameLimit < name.utf8ByteSize then (.error .nameTooLong, disk)
          else (.ok (some (name :: parent)), disk.put name parent .directory)
        | _, _ =>
          match disk.makeDirectory here path with
          | .ok disk => (.ok (disk.locate here path).toOption, disk)
          | .error fault => (disk.settle here path fault, disk)
    | .error fault => (disk.settle here path fault, disk)

/-- Makes a directory and its missing ancestors. -/
def ensureDirectory (disk : Disk) (here : Location) (path : Path) : Except Fault Unit × Disk :=
  let again (disk : Disk) : Except Fault Unit × Disk :=
    match disk.makeDirectory here path with
    | .ok disk => (.ok (), disk)
    | .error fault => ((disk.settle here path fault).map fun _ => (), disk)
  if path.isEmpty then (.ok (), disk)
  else match disk.makeDirectory here path with
    | .error .notFound =>
      match disk.ensureChain here path.ancestors with
      | (.error fault, disk) => (.error fault, disk)
      | (.ok _, disk) => again disk
    | _ => again disk

/-- Takes away a file or a link. -/
def unlink (disk : Disk) (here : Location) (path : Path) : Except Fault Disk :=
  match disk.reachName here path with
  | .error fault => .error fault
  | .ok (.special _ _) => .error .isADirectory
  | .ok (.plain name parent) =>
    match disk.entryAt (name :: parent) with
    | none => .error .notFound
    | some .directory => .error .isADirectory
    | some _ => .ok (disk.remove (name :: parent))

/-- Why a directory cannot be taken away under a name that is not its own. -/
def specialFault : Path.Component → Fault
  | .current => .invalidArgument
  | .parent => .notEmpty
  | _ => .busy

/-- Takes away a directory that holds nothing. -/
def removeEmpty (disk : Disk) (here : Location) (path : Path) : Except Fault Disk :=
  match disk.reachName here path with
  | .error fault => .error fault
  | .ok (.special last _) => .error (specialFault last)
  | .ok (.plain name parent) =>
    match disk.entryAt (name :: parent) with
    | none => .error .notFound
    | some .directory =>
      if (disk.names (name :: parent)).isEmpty then .ok (disk.remove (name :: parent))
      else .error .notEmpty
    | some _ => .error .notADirectory

/-- The location that a path names. A link at its end is followed only when a slash comes after
it. -/
def identify (disk : Disk) (here : Location) (path : Path) : Except Fault Location :=
  if path.text.toList.getLast? = some '/' then disk.locate here path
  else match disk.reachName here path with
    | .error fault => .error fault
    | .ok (.special _ location) => .ok location
    | .ok (.plain name parent) =>
      if (disk.entryAt (name :: parent)).isSome then .ok (name :: parent) else .error .notFound

/-- Takes away whatever lies in a directory, but not the directory. -/
def clear (disk : Disk) (location : Location) : Disk :=
  (disk.names location).foldl (fun disk name => disk.remove (name :: location)) disk

/-- Takes away whatever a path names. A directory loses what it holds first; when it cannot be
taken away under the name that it was given, it stays empty. -/
def removeAll (disk : Disk) (here : Location) (path : Path) : Except Fault Unit × Disk :=
  let settled (disk : Disk) : Except Fault Disk → Except Fault Unit × Disk
    | .ok disk => (.ok (), disk)
    | .error fault => (.error fault, disk)
  match disk.identify here path with
  | .error fault => (.error fault, disk)
  | .ok location =>
    if disk.found location = .directory then
      let cleared := disk.clear location
      settled cleared (cleared.removeEmpty here path)
    else settled disk (disk.unlink here path)

/-- Where a process is that worked in a directory. What has been taken away has no name any more,
so that a directory made later at the same place is another one. -/
def stranded (disk : Disk) : Location → Location
  | [] => []
  | name :: parent =>
    (if disk.entryAt (name :: parent) = some .directory then name else "") :: disk.stranded parent

/-- Gives a file or link another name, in place of the file or link that had it. -/
def rename (disk : Disk) (here : Location) (source target : Path) : Except Fault Disk :=
  match disk.reachName here source, disk.reachName here target with
  | .error fault, _ => .error fault
  | _, .error fault => .error fault
  | .ok (.special _ _), _ => .error .busy
  | _, .ok (.special _ _) => .error .busy
  | .ok (.plain name parent), .ok (.plain name' parent') =>
    match disk.entryAt (name :: parent), disk.entryAt (name' :: parent') with
    | none, _ => .error .notFound
    | some .directory, _ => .error .isADirectory
    | some _, some .directory => .error .isADirectory
    | some entry, _ =>
      if name :: parent = name' :: parent' then .ok disk
      else .ok ((disk.remove (name :: parent)).put name' parent' entry)

/-- Copies a file with its permission to run. A file copied onto itself is left empty. -/
def copy (disk : Disk) (here : Location) (source target : Path) : Except Fault Disk :=
  match disk.locate here source with
  | .error fault => .error fault
  | .ok location =>
    match disk.found location with
    | .file content executable =>
      match disk.reach true here target with
      | .error fault => .error fault
      | .ok place =>
        disk.store (if place = .taken location then ByteArray.empty else content)
          (some executable) place
    | _ => .error .notRegularSource

end ModelForge.Disk
