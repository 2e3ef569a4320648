import ModelForge.Command.Run
import ModelForge.Proofs.Path.Order
import ModelForge.Proofs.Repository.Compiled

/-! What a repository lists, exactly: the files below its directory that have the marker in their
own name, in the order of their paths. The walk goes through a list of directories that grows while
it is gone through; it ends because no link is followed. -/
namespace ModelForge

/-- Names lead down from a place through directories, one in the other. A link is none. -/
def Disk.Descends (disk : Disk) : Location → List String → Prop
  | _, [] => True
  | location, name :: rest =>
    disk.entryAt (name :: location) = some .directory ∧ disk.Descends (name :: location) rest

theorem Disk.descends_iff_leads {disk : Disk} {location : Location} {names : List String} :
    disk.Descends location names ↔ disk.Leads location names := by
  induction names generalizing location with
  | nil => exact ⟨fun _ => .inl rfl, fun _ => trivial⟩
  | cons name rest ih => rw [Descends, ih, leads_cons]

namespace Repository

variable {disk : Disk} {listing : Listing} {here location : Location} {path file : Path}
  {directory found : Visited} {directories visited : List Visited}

/-- Going through directories, those below each put at the end of the list, visits these. -/
inductive Walks (disk : Disk) (listing : Listing) : List Visited → List Visited → Prop
  | over : Walks disk listing [] []
  | next {directory rest visited} :
    Walks disk listing (rest ++ directoriesIn disk listing directory) visited →
      Walks disk listing (directory :: rest) (directory :: visited)

/-- A whole level is gone through while the next one gathers behind it. -/
theorem Walks.level {level behind : List Visited}
    (walks : Walks disk listing (behind ++ level.flatMap (directoriesIn disk listing)) visited) :
    Walks disk listing (level ++ behind) (level ++ visited) := by
  induction level generalizing behind with
  | nil => simpa using walks
  | cons directory rest ih =>
    rw [List.cons_append, List.cons_append]
    refine .next ?_
    rw [List.append_assoc]
    refine ih ?_
    rwa [List.flatMap_cons, ← List.append_assoc] at walks

/-- The walk is over as soon as the levels are. -/
theorem walks_directoriesBelow (levels : Nat)
    (bounded : ∀ directory ∈ directories, ∀ names, disk.Leads directory.location names →
      names.length < levels) :
    Walks disk listing directories (directoriesBelow disk listing levels directories) := by
  induction levels generalizing directories with
  | zero =>
    obtain rfl : directories = [] := by
      refine List.eq_nil_iff_forall_not_mem.2 fun directory member => ?_
      exact absurd (bounded directory member [] (.inl rfl)) (Nat.not_lt_zero _)
    exact .over
  | succ levels ih =>
    have below : Walks disk listing ([] ++ directories.flatMap (directoriesIn disk listing))
        (directoriesBelow disk listing levels (directories.flatMap (directoriesIn disk listing))) :=
      ih ?_
    · simpa [directoriesBelow] using below.level
    · intro found member names leads
      obtain ⟨directory, listed, member⟩ := List.mem_flatMap.1 member
      obtain ⟨name, there, rfl⟩ := mem_directoriesIn.1 member
      have fewer := bounded directory listed (name :: names) (Disk.leads_cons.2 ⟨there, leads⟩)
      simpa using fewer

theorem walks_directories : Walks disk listing [directory]
    (directoriesBelow disk listing (levelLimit disk) [directory]) := by
  refine walks_directoriesBelow _ fun other member names leads => ?_
  obtain rfl := List.mem_singleton.1 member
  exact length_lt_levelLimit leads

/-- A file below a place, links left aside, that has the marker in its own name; under the path that
leads to it from a path to the place. -/
def Holds (disk : Disk) (path : Path) (location : Location) (file : Path) : Prop :=
  ∃ names name content executable, disk.Descends location names ∧
    disk.entryAt (name :: (names.reverse ++ location)) = some (.file content executable) ∧
    artifactMarker.toList <:+: name.toList ∧ file = (path.within names).child name

theorem holds_iff (named : disk.NamedBelow location) (standing : disk.found location = .directory) :
    Holds disk path location file ↔ file.isArtifact = true ∧ ∃ names content executable,
      disk.entryAt (names.reverse ++ location) = some (.file content executable) ∧
        file = path.within names := by
  constructor
  · rintro ⟨names, name, content, executable, -, there, marked, rfl⟩
    have isName := named (name :: names.reverse) (by simp [there]) name List.mem_cons_self
    exact ⟨(Path.isArtifact_child_iff _ isName).2 marked, names ++ [name], content, executable,
      by simpa using there, (path.within_concat names name).symm⟩
  · rintro ⟨marked, names, content, executable, there, rfl⟩
    rcases List.eq_nil_or_concat names with rfl | ⟨names, name, rfl⟩
    · have there : disk.entryAt location = some (.file content executable) := there
      simp [Disk.found, there] at standing
    rw [List.concat_eq_append] at there marked ⊢
    have there : disk.entryAt (name :: (names.reverse ++ location)) =
        some (.file content executable) := by simpa using there
    have isName := named (name :: names.reverse) (by simp [there]) name List.mem_cons_self
    rw [path.within_concat, Path.isArtifact_child_iff _ isName] at marked
    exact ⟨names, name, content, executable,
      Disk.descends_iff_leads.2 (.inr (Disk.entryAt_parent (by rw [there]; rfl))), there, marked,
      path.within_concat names name⟩

theorem artifacts_sorted (listing : Listing) (located : disk.locate here path = .ok location)
    (standing : disk.found location = .directory) (named : disk.NamedBelow location)
    (short : ∀ names, disk.Descends location names →
      (path.within names).text.utf8ByteSize ≤ Disk.pathLimit) :
    ∃ paths, artifacts disk listing here path = .ok paths ∧
      (∀ file, file ∈ paths ↔ Holds disk path location file) ∧
      paths.Pairwise fun a b => a.compare b = .lt := by
  have short : ∀ names, disk.Leads location names →
      (path.within names).text.utf8ByteSize ≤ Disk.pathLimit :=
    fun names leads => short names (Disk.descends_iff_leads.2 leads)
  obtain ⟨paths, listed, members, -⟩ := artifacts_listed listing located standing short
  refine ⟨paths, listed, fun file => (members file).trans (holds_iff named standing).symm, ?_⟩
  unfold artifacts at listed
  simp only [located, if_pos standing] at listed
  split at listed
  · cases listed
  · cases listed
    exact Path.pairwise_mergeSort_lt ((files_distinct named path).filter _)

theorem artifacts_deep (listing : Listing) (located : disk.locate here path = .ok location)
    (standing : disk.found location = .directory) {names : List String}
    (leads : disk.Descends location names)
    (long : Disk.pathLimit < (path.within names).text.utf8ByteSize) :
    ∃ others, disk.Descends location others ∧
      Disk.pathLimit < (path.within others).text.utf8ByteSize ∧
      artifacts disk listing here path = .error (.io (path.within others) .nameTooLong) := by
  have leads := Disk.descends_iff_leads.1 leads
  unfold artifacts
  simp only [located, if_pos standing]
  split
  · rename_i deep first
    have tooDeep : Disk.pathLimit < deep.path.text.utf8ByteSize := by
      simpa using List.find?_some first
    obtain ⟨others, leads, rfl⟩ := mem_directories.1 (List.mem_of_find?_eq_some first)
    exact ⟨others, Disk.descends_iff_leads.2 leads, tooDeep, rfl⟩
  · rename_i none
    have short := List.find?_eq_none.1 none _ (mem_directories.2 ⟨names, leads, rfl⟩)
    exact absurd (decide_eq_true long) short

theorem artifacts_elsewhere (nowhere : disk.isDirectory here path = false) :
    ∃ fault, ∀ listing, artifacts disk listing here path = .error (.io path fault) := by
  cases located : disk.locate here path with
  | error fault => exact ⟨fault, fun listing => by simp [artifacts, located]⟩
  | ok location =>
    have other : disk.found location ≠ .directory := fun standing => by
      obtain ⟨clean, reaches⟩ := Disk.locate_eq_ok_iff.1 located
      rw [Disk.isDirectory_iff.2 ⟨location, clean, reaches, standing⟩] at nowhere
      cases nowhere
    exact ⟨.notADirectory, fun listing => by simp [artifacts, located, other]⟩

/-- What a repository lists, whatever links there are and whatever the order in which directories
list their entries. The walk comes to an end; it visits each directory that is reached without a
link once. If every one of them has a path that can be opened, the list is the same for every order:
the files that the repository holds, strictly in the order of their paths. A directory whose path is
too long makes the listing fail, and where there is no directory to begin with, the error names the
repository. The command that lists leaves the disk as it is. -/
theorem artifacts_exact (disk : Disk) (here : Location) (path : Path)
    (named : disk.NamedBelow []) :
    (disk.isDirectory here path = false →
      ∃ fault, ∀ listing, artifacts disk listing here path = .error (.io path fault)) ∧
    (disk.isDirectory here path = true → ∃ location, disk.locate here path = .ok location ∧
      (∀ listing, ∃ visited, Walks disk listing [⟨path, location⟩] visited ∧
        (visited.Pairwise fun a b => a.location ≠ b.location) ∧
        ∀ found, found ∈ visited ↔ ∃ names, disk.Descends location names ∧
          found = ⟨path.within names, names.reverse ++ location⟩) ∧
      ((∀ names, disk.Descends location names →
          (path.within names).text.utf8ByteSize ≤ Disk.pathLimit) →
        ∃ paths, (∀ listing, artifacts disk listing here path = .ok paths) ∧
          (∀ file, file ∈ paths ↔ Holds disk path location file) ∧
          paths.Pairwise fun a b => a.compare b = .lt) ∧
      ∀ names, disk.Descends location names →
        Disk.pathLimit < (path.within names).text.utf8ByteSize → ∀ listing, ∃ others,
          disk.Descends location others ∧
          Disk.pathLimit < (path.within others).text.utf8ByteSize ∧
          artifacts disk listing here path = .error (.io (path.within others) .nameTooLong)) ∧
    ∀ surroundings arguments options, Command.ofArguments arguments = .ok (.list options) →
      (Command.run surroundings arguments disk).2 = disk := by
  refine ⟨artifacts_elsewhere, fun there => ?_, ?_⟩
  · obtain ⟨location, clean, reaches, standing⟩ := Disk.isDirectory_iff.1 there
    have located := Disk.locate_eq_ok_iff.2 ⟨clean, reaches⟩
    have named : disk.NamedBelow location := fun below present name member =>
      named (below ++ location) (by simpa using present) name (List.mem_append_left _ member)
    refine ⟨location, located, fun listing => ⟨_, walks_directories, ?_, fun found => ?_⟩,
      fun short => ?_, fun names leads long listing =>
        artifacts_deep listing located standing leads long⟩
    · exact directoriesBelow_distinct _ location.length _ (by simp) (List.pairwise_singleton _ _)
    · simp only [mem_directories, Disk.descends_iff_leads]
      rfl
    · obtain ⟨paths, listed, members, sorted⟩ :=
        artifacts_sorted .sorted located standing named short
      refine ⟨paths, fun listing => ?_, members, sorted⟩
      obtain ⟨others, listed', members', sorted'⟩ :=
        artifacts_sorted listing located standing named short
      rw [listed', Path.eq_of_lt sorted' sorted fun file => (members' file).trans (members file).symm]
  · intro surroundings arguments options spelled
    rw [Command.run, spelled]

/-- A repository `/w/r` with a file and a directory that have the marker, a file in that directory,
and a link back to the repository. -/
def sampleDisk : Disk :=
  (((Disk.empty.put "w" [] .directory).put "r" ["w"] .directory).put "d.so.1" ["r", "w"] .directory)
    |>.put "b.so.2" ["d.so.1", "r", "w"] (.file "b".toUTF8 false)
    |>.put "l.so.1" ["r", "w"] (.link ⟨"../r"⟩)
    |>.put "a.so.1" ["r", "w"] (.file "a".toUTF8 false)

set_option maxRecDepth 10000 in
theorem artifacts_exact_sample : sampleDisk.NamedBelow [] ∧
    sampleDisk.isDirectory ["w"] ⟨"r"⟩ = true ∧ ∃ paths,
      (∀ listing, artifacts sampleDisk listing ["w"] ⟨"r"⟩ = .ok paths) ∧
      (∀ file, file ∈ paths ↔ Holds sampleDisk ⟨"r"⟩ ["r", "w"] file) ∧
      paths.Pairwise fun a b => a.compare b = .lt := by
  have each : ∀ below entry, sampleDisk.entryAt (below ++ []) = some entry →
      ∀ name ∈ below, Path.IsName name := by decide +kernel
  have named : sampleDisk.NamedBelow [] := fun below present => by
    obtain ⟨entry, found⟩ := Option.ne_none_iff_exists'.1 present
    exact each below entry found
  have there : sampleDisk.isDirectory ["w"] ⟨"r"⟩ = true := by decide +kernel
  have place : sampleDisk.locate ["w"] ⟨"r"⟩ = .ok ["r", "w"] := by decide +kernel
  have near : ∀ below entry, sampleDisk.entryAt (below ++ ["r", "w"]) = some entry →
      ((Path.mk "r").within below.reverse).text.utf8ByteSize ≤ Disk.pathLimit := by decide +kernel
  obtain ⟨location, located, -, short, -⟩ := (artifacts_exact sampleDisk ["w"] ⟨"r"⟩ named).2.1 there
  obtain rfl : ["r", "w"] = location := Except.ok.inj (place.symm.trans located)
  refine ⟨named, there, short fun names descends => ?_⟩
  rcases Disk.descends_iff_leads.1 descends with rfl | found
  · decide
  · simpa using near names.reverse .directory found

/-- There is a directory, and no order lists it: what lies below goes too deep. -/
theorem artifacts_unlisted : (Compile.deepDisk 17).isDirectory ["w"] ⟨"o"⟩ = true ∧
    ∀ listing paths, artifacts (Compile.deepDisk 17) listing ["w"] ⟨"o"⟩ ≠ .ok paths := by
  obtain ⟨free, there⟩ := Compile.deepDisk_spec 17
  have directory := (Compile.deepDisk_output 17).2
  refine ⟨directory, fun listing paths => ?_⟩
  obtain ⟨location, clean, reaches, -⟩ := Disk.isDirectory_iff.1 directory
  obtain rfl : location = ["o", "w"] := (reaches.eq_follow free).trans (by decide)
  refine artifacts_tooDeep listing (Disk.locate_eq_ok_iff.2 ⟨clean, reaches⟩) (.inr ?_)
    Compile.deepDisk_long paths
  rw [List.reverse_replicate]
  exact there

end Repository

end ModelForge
