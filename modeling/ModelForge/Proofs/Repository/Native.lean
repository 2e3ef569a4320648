import ModelForge.Proofs.Disk.Reach
import ModelForge.Proofs.Model.Names
import ModelForge.Proofs.Path.Join
import ModelForge.Repository.Loader

/-! Looking a model up with the loader of the platform. The check that there is a file reads the
path from the working directory, and the platform reads the same text once more. The two mean one
file as long as the text has a slash in it; a bare name the platform looks for elsewhere. -/
namespace ModelForge.Repository

variable {host : Host} {opened : Opened} {path repository : Path} {identity : Identity}
  {header : Plugin.Header} {handle : Plugin.Handle}

section Opening

/-- Whatever a process holds open is what it would find there if it opened it now. -/
def Host.Current (host : Host) (opened : Opened) : Prop :=
  ∀ path found, opened.lookup path.text = some found → host.open? [] path = some found

theorem Host.Current.open?_eq (current : host.Current opened) (path : Path) :
    host.open? opened path = host.open? [] path := by
  cases held : opened.lookup path.text with
  | none => simp [Host.open?, held]
  | some found =>
    rw [current path found held]
    simp [Host.open?, held]

theorem Host.Current.cons {found : Export} (current : host.Current opened)
    (finds : host.open? [] path = some found) : host.Current ((path.text, found) :: opened) := by
  intro other found' held
  rw [List.lookup_cons] at held
  split at held
  · rename_i same
    obtain rfl : other = path := congrArg Path.mk (eq_of_beq same)
    exact finds.trans held
  · exact current other found' held

/-- However many artifacts a process has tried before, what it holds open is up to date, as long as
the disk stays the same. -/
theorem Host.Current.openedBy (current : host.Current opened) (paths : List Path) :
    host.Current (host.openedBy opened paths) := by
  induction paths generalizing opened with
  | nil => exact current
  | cons path rest ih =>
    rw [Host.openedBy]
    split
    · rename_i found finds
      exact ih (current.cons (current.open?_eq path ▸ finds))
    · exact ih current

theorem Host.current_nil (host : Host) : host.Current [] := by
  intro path found held
  cases held

end Opening

/-- What comes of a file when the platform has opened something for its path. -/
def Host.take (host : Host) (path : Path) : Option Export → Except Error Plugin.Handle
  | none => .error (.load path host.platform.complaint)
  | some .absent => .error (.symbolNotFound path Source.loaderSymbol)
  | some .null => .error (.symbolNotFound path Source.loaderSymbol)
  | some (.declaration header handle) => (header.verify host.toolchain path).map fun _ => handle

theorem nativeLoader_of_isFile (isFile : host.disk.isFile host.here path = true) :
    nativeLoader host opened path = host.take path (host.open? opened path) := by
  rw [nativeLoader, if_pos isFile]
  cases host.open? opened path with
  | none => rfl
  | some found =>
    cases found with
    | absent => rfl
    | null => rfl
    | declaration header handle =>
      unfold Host.take
      cases header.verify host.toolchain path <;> rfl

/-- A path leads to a file that is a plugin for this host: the platform can load it, and it exports
a declaration with a header that fits. -/
structure Host.Offers (host : Host) (path : Path) (header : Plugin.Header)
    (handle : Plugin.Handle) : Prop where
  library : ∃ content executable,
    host.disk.status? host.here path = some (.file content executable) ∧
      host.platform.library? content = some (.declaration header handle)
  magic : header.magic = Plugin.expectedMagic
  abiVersion : header.abiVersion = Plugin.expectedAbiVersion
  toolchain : header.toolchainText = host.toolchain

namespace Host.Offers

theorem isFile (offers : host.Offers path header handle) :
    host.disk.isFile host.here path = true := by
  obtain ⟨content, executable, found, -⟩ := offers.library
  simp [Disk.isFile, found]

theorem take (offers : host.Offers path header handle) (other : Path) :
    host.take other (some (.declaration header handle)) = .ok handle := by
  have fits : header.verify host.toolchain other = .ok () := by
    simp [Plugin.Header.verify, offers.magic, offers.abiVersion, offers.toolchain]
  rw [Host.take, fits]
  rfl

/-- The file that a text with a slash in it is opened as is the one that was looked at. -/
theorem open?_slashed (offers : host.Offers path header handle)
    (slashed : '/' ∈ path.text.toList) :
    host.open? [] path = some (.declaration header handle) := by
  obtain ⟨content, executable, found, library⟩ := offers.library
  have read : host.disk.read host.here path = .ok content := by
    unfold Disk.status? at found
    unfold Disk.read
    split at found
    · rename_i location located
      simp only [located, Option.some.inj found]
    · cases found
  simp [Host.open?, slashed, read, library]

end Host.Offers

theorem open?_bare (bare : '/' ∉ path.text.toList) :
    host.open? [] path = host.platform.installed? path.text := by
  simp [Host.open?, bare]

theorem slash_mem_artifactName :
    '/' ∈ identity.artifactName.toList ↔ ¬identity.Unslashed := by
  constructor
  · exact fun slashed unslashed => (Model.isName_artifactName unslashed).unslashed slashed
  · intro some
    by_contra none
    simp only [Model.artifactName_toList, List.mem_append, not_or] at none
    exact some ⟨none.1.1, none.2⟩

theorem slash_mem_stem {base : Path} : '/' ∈ base.stem.toList ↔ base.isEmpty = false := by
  cases empty : base.isEmpty with
  | true => simp [Path.stem, empty]
  | false =>
    rw [base.stem_of_nonempty empty]
    split
    · simpa using List.mem_of_getLast? ‹_›
    · simp

/-- Only an empty repository leaves the name of an artifact without a slash. -/
theorem slash_mem_artifactOf : '/' ∈ (artifactOf repository identity).text.toList ↔
    repository.isEmpty = false ∨ ¬identity.Unslashed := by
  by_cases unslashed : identity.Unslashed
  · have bare := mt slash_mem_artifactName.1 (not_not.2 unslashed)
    rw [artifactOf, repository.child_eq_stem bare, String.toList_append, List.mem_append,
      slash_mem_stem]
    simp [bare, unslashed]
  · have slashed := slash_mem_artifactName.2 unslashed
    refine iff_of_true ?_ (.inr unslashed)
    unfold artifactOf Path.child Path.join
    split
    · exact slashed
    · split <;> simp [slashed]

/-- A lookup with the loader of the platform, when its path leads to a plugin for this host. However
the repository is spelled, the lookup gives the model of that plugin, except for an empty repository
and a name and a version without slashes: then it gives what the platform makes of the bare name. -/
theorem native_lookup (current : host.Current opened)
    (offers : host.Offers (artifactOf repository identity) header handle) :
    (repository.isEmpty = false ∨ ¬identity.Unslashed →
      (getModel (nativeLoader host opened) repository identity).result = .ok handle) ∧
    (repository.isEmpty = true → identity.Unslashed →
      (getModel (nativeLoader host opened) repository identity).result =
        host.take ⟨identity.artifactName⟩ (host.platform.installed? identity.artifactName)) := by
  have loaded : (getModel (nativeLoader host opened) repository identity).result =
      host.take (artifactOf repository identity)
        (host.open? [] (artifactOf repository identity)) := by
    rw [getModel, nativeLoader_of_isFile offers.isFile, current.open?_eq]
  rw [loaded]
  constructor
  · intro spelled
    rw [offers.open?_slashed (slash_mem_artifactOf.2 spelled), offers.take]
  · intro empty unslashed
    have bare : artifactOf repository identity = ⟨identity.artifactName⟩ := by
      simp [artifactOf, Path.child, Path.join, empty]
    rw [open?_bare fun slashed => ?_, bare]
    rcases slash_mem_artifactOf.1 slashed with some | slashed
    · simp [empty] at some
    · exact slashed unslashed

/-- A host that takes every file that is not empty for a library, and finds nothing elsewhere. Its
working directory `/w` holds such a file. -/
def sampleHost : Host where
  platform.library? content :=
    if content.isEmpty then none
    else some (.declaration (.stamped "rustc 1") (nominalHandle ⟨"m", "1"⟩))
  platform.installed? _ := none
  platform.complaint := "cannot open shared object file"
  toolchain := "rustc 1"
  disk := (Disk.empty.put "w" [] .directory).put "m.so.1" ["w"] (.file "x".toUTF8 false)
  here := ["w"]

theorem sampleHost_offers {repository : Path}
    (found : sampleHost.disk.status? ["w"] (artifactOf repository ⟨"m", "1"⟩) =
      some (.file "x".toUTF8 false)) :
    sampleHost.Offers (artifactOf repository ⟨"m", "1"⟩) (.stamped "rustc 1")
      (nominalHandle ⟨"m", "1"⟩) where
  library := ⟨_, _, found, rfl⟩
  magic := rfl
  abiVersion := rfl
  toolchain := by decide +kernel

/-- The working directory, spelled from the one above it, and a plugin that has been loaded
before. -/
theorem native_lookup_spelled :
    sampleHost.Current (sampleHost.openedBy [] [⟨"../w/m.so.1"⟩]) ∧
    sampleHost.Offers (artifactOf ⟨"../w"⟩ ⟨"m", "1"⟩) (.stamped "rustc 1")
      (nominalHandle ⟨"m", "1"⟩) ∧
    (getModel (nativeLoader sampleHost (sampleHost.openedBy [] [⟨"../w/m.so.1"⟩])) ⟨"../w"⟩
      ⟨"m", "1"⟩).result = .ok (nominalHandle ⟨"m", "1"⟩) := by
  have found : sampleHost.disk.status? ["w"] (artifactOf ⟨"../w"⟩ ⟨"m", "1"⟩) =
      some (.file "x".toUTF8 false) := by decide +kernel
  have current := sampleHost.current_nil.openedBy [⟨"../w/m.so.1"⟩]
  have offers := sampleHost_offers found
  exact ⟨current, offers, (native_lookup current offers).1 (.inl (by decide))⟩

/-- Spelled by the empty text, the working directory holds the same plugin, and the check finds it,
but the platform is asked for a bare name. -/
theorem native_lookup_bare :
    sampleHost.Current [] ∧
    sampleHost.Offers (artifactOf ⟨""⟩ ⟨"m", "1"⟩) (.stamped "rustc 1")
      (nominalHandle ⟨"m", "1"⟩) ∧
    (getModel (nativeLoader sampleHost []) ⟨""⟩ ⟨"m", "1"⟩).result =
      .error (.load ⟨"m.so.1"⟩ "cannot open shared object file") := by
  have found : sampleHost.disk.status? ["w"] (artifactOf ⟨""⟩ ⟨"m", "1"⟩) =
      some (.file "x".toUTF8 false) := by decide +kernel
  have offers := sampleHost_offers found
  refine ⟨sampleHost.current_nil, offers, ?_⟩
  have bare : '/' ∉ (artifactOf ⟨""⟩ ⟨"m", "1"⟩).text.toList := by decide
  rw [getModel, nativeLoader_of_isFile offers.isFile, open?_bare bare]
  rfl

end ModelForge.Repository
