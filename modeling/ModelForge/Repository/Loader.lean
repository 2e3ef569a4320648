import ModelForge.Plugin.Device
import ModelForge.Plugin.Header
import ModelForge.Repository.Lookup

/-! The two loaders. One opens libraries through a platform; the other goes by file names alone
and loads nothing. -/
namespace ModelForge.Repository

/-- What a library exports under the loader symbol. -/
inductive Export where
  | absent
  | null
  | declaration (header : Plugin.Header) (handle : Plugin.Handle)

/-- How a platform opens libraries: what the bytes of a file make, if they are a library at all,
and what a name without a slash leads to. Such a name is not looked for in the working
directory. -/
structure Platform where
  library? : ByteArray → Option Export
  installed? : String → Option Export
  /-- What the platform says of a file that is no library. -/
  complaint : String

/-- The libraries that a process holds open, by the texts of the paths it opened them with. -/
abbrev Opened := List (String × Export)

/-- What a process finds around it when it loads a library. -/
structure Host where
  platform : Platform
  /-- The toolchain that the process itself was built with. -/
  toolchain : String
  disk : Disk
  here : Location

namespace Host

/-- The library for a path. One that is open already is not opened again, even if the file has
become another one since. -/
def open? (host : Host) (opened : Opened) (path : Path) : Option Export :=
  match opened.lookup path.text with
  | some found => some found
  | none =>
    if '/' ∈ path.text.toList then
      match host.disk.read host.here path with
      | .ok content => host.platform.library? content
      | .error _ => none
    else host.platform.installed? path.text

end Host

/-- Opens the library at a path, finds its declaration, checks the header and takes the handle. -/
def nativeLoader (host : Host) (opened : Opened) : Loader := fun path =>
  if host.disk.isFile host.here path then
    match host.open? opened path with
    | none => .error (.load path host.platform.complaint)
    | some .absent => .error (.symbolNotFound path Source.loaderSymbol)
    | some .null => .error (.symbolNotFound path Source.loaderSymbol)
    | some (.declaration header handle) => do
      header.verify host.toolchain path
      pure handle
  else .error (.load path "no such file")

/-- What is open once loading has been tried with some paths. A library whose handle was taken is
never closed; any other is closed at once. -/
def Host.openedBy (host : Host) (opened : Opened) : List Path → Opened
  | [] => opened
  | path :: rest =>
    match nativeLoader host opened path, host.open? opened path with
    | .ok _, some found => host.openedBy ((path.text, found) :: opened) rest
    | _, _ => host.openedBy opened rest

/-- A handle that knows a name and a version and nothing else. -/
def nominalHandle (identity : Identity) : Plugin.Handle where
  info := ⟨identity.name, identity.version, []⟩
  unmarshal _ := .error (.unmarshal "fake")
  validate _ := .ok ()

/-- The text before and after the first artifact marker. -/
def splitAtMarker : List Char → Option (List Char × List Char)
  | [] => none
  | c :: rest =>
    let marker := artifactMarker.toList
    if marker.isPrefixOf (c :: rest) then some ([], (c :: rest).drop marker.length)
    else (splitAtMarker rest).map fun (before, after) => (c :: before, after)

/-- The identity that a file name spells. -/
def identityOf (fileName : String) : Identity :=
  match splitAtMarker fileName.toList with
  | some (name, version) => ⟨String.ofList name, String.ofList version⟩
  | none => ⟨fileName, ""⟩

/-- Takes any file for an artifact unless its name starts with `broken`. -/
def nominalLoader (disk : Disk) (here : Location) : Loader := fun path =>
  let fileName := path.fileName?.getD ""
  if disk.isFile here path ∧ ¬ "broken".toList.isPrefixOf fileName.toList then
    .ok (nominalHandle (identityOf fileName))
  else .error (.load path "fake load failure")

end ModelForge.Repository
