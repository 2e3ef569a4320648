import Mathlib.Data.List.Nodup
import Mathlib.Data.List.Perm.Subperm
import ModelForge.Proofs.Compile.Stage
import ModelForge.Proofs.Path.Ancestors
import ModelForge.Repository.Lookup

/-! What the walk below a directory finds: every directory and every file down there once, whatever
the order in which directories list their names. -/
namespace ModelForge

namespace Disk

variable {disk : Disk} {location : Location}

/-- Whatever exists has an entry for each name on the way to it. -/
theorem length_le_size (present : disk.entryAt location ≠ none) :
    location.length ≤ disk.entries.size := by
  have distinct : ∀ location : Location, location.tails.Nodup := by
    intro location
    induction location with
    | nil => simp
    | cons name parent ih =>
      rw [List.tails_cons, List.nodup_cons]
      refine ⟨fun member => ?_, ih⟩
      have shorter := ((List.mem_tails _ _).1 member).length_le
      rw [List.length_cons] at shorter
      omega
  have listed : location.tails ⊆ [] :: disk.entries.keys := by
    intro higher member
    cases higher with
    | nil => simp
    | cons name parent =>
      have there : disk.entryAt (name :: parent) ≠ none := by
        by_cases own : name :: parent = location
        · rwa [own]
        · simp [entryAt_suffix ((List.mem_tails _ _).1 member) present own]
      refine List.mem_cons_of_mem _ ?_
      rw [Std.ExtTreeMap.mem_keys, Std.ExtTreeMap.mem_iff_isSome_getElem?]
      exact Option.isSome_iff_ne_none.2 there
  have bound := ((distinct location).subperm listed).length_le
  simp only [List.length_tails, List.length_cons, Std.ExtTreeMap.length_keys] at bound
  omega

theorem names_nodup (disk : Disk) (location : Location) : (disk.names location).Nodup := by
  unfold names
  refine List.Nodup.filterMap ?_ Std.ExtTreeMap.nodup_keys
  intro a b name first second
  cases a with
  | nil => cases first
  | cons name' parent =>
    cases b with
    | nil => cases second
    | cons name'' parent' =>
      simp only [Option.mem_def, Option.ite_none_right_eq_some, Option.some.injEq] at first second
      obtain ⟨⟨-, rfl⟩, rfl⟩ := first
      obtain ⟨⟨-, rfl⟩, rfl⟩ := second
      rfl

/-- Some names lead down from a directory to a directory. -/
def Leads (disk : Disk) (location : Location) (names : List String) : Prop :=
  names = [] ∨ disk.entryAt (names.reverse ++ location) = some .directory

theorem leads_cons {name : String} {rest : List String} :
    disk.Leads location (name :: rest) ↔
      disk.entryAt (name :: location) = some .directory ∧ disk.Leads (name :: location) rest := by
  have place : (name :: rest).reverse ++ location = rest.reverse ++ name :: location := by simp
  constructor
  · rintro (none | found)
    · cases none
    · rw [place] at found
      by_cases last : rest = []
      · subst last
        exact ⟨found, .inl rfl⟩
      · have present : disk.entryAt (rest.reverse ++ name :: location) ≠ none := by simp [found]
        exact ⟨entryAt_suffix (List.suffix_append _ _) present (by simp [last]), .inr found⟩
  · rintro ⟨first, rfl | found⟩
    · exact .inr first
    · rw [← place] at found
      exact .inr found

/-- Every name below a place can stand between slashes. -/
def NamedBelow (disk : Disk) (root : Location) : Prop :=
  ∀ below, disk.entryAt (below ++ root) ≠ none → ∀ name ∈ below, Path.IsName name

/-- What holds of all that lies at a place or below can be checked entry by entry. -/
theorem forall_below_iff {root : Location} {P : Location → Entry → Prop} :
    (∀ below entry, disk.entryAt (below ++ root) = some entry → P below entry) ↔
      (root = [] → P [] .directory) ∧ ∀ listed ∈ disk.entries.toList, root <:+ listed.1 →
        P (listed.1.take (listed.1.length - root.length)) listed.2 := by
  constructor
  · intro every
    refine ⟨fun top => every [] _ (by simp [top]), ?_⟩
    rintro ⟨location, entry⟩ member ⟨below, rfl⟩
    have found := Std.ExtTreeMap.mem_toList_iff_getElem?_eq_some.1 member
    have here : disk.entryAt (below ++ root) = some entry := by
      cases shape : below ++ root with
      | nil => simp [shape, disk.rootless] at found
      | cons name parent =>
        rw [shape] at found
        exact found
    simpa using every below entry here
  · rintro ⟨top, listed⟩ below entry found
    cases shape : below ++ root with
    | nil =>
      obtain ⟨rfl, rfl⟩ := List.append_eq_nil_iff.1 shape
      cases found
      exact top rfl
    | cons name parent =>
      have member : (below ++ root, entry) ∈ disk.entries.toList := by
        rw [shape] at found ⊢
        exact Std.ExtTreeMap.mem_toList_iff_getElem?_eq_some.2 found
      simpa using listed _ member (List.suffix_append below root)

instance {root : Location} {P : Location → Entry → Prop}
    [∀ below entry, Decidable (P below entry)] :
    Decidable (∀ below entry, disk.entryAt (below ++ root) = some entry → P below entry) :=
  decidable_of_iff _ forall_below_iff.symm

end Disk

theorem Path.within_concat (path : Path) (names : List String) (name : String) :
    path.within (names ++ [name]) = (path.within names).child name := by
  simp [within]

theorem Path.size_within (path : Path) {names : List String} {least : Nat}
    (unslashed : ∀ name ∈ names, '/' ∉ name.toList)
    (long : ∀ name ∈ names, least ≤ name.utf8ByteSize) :
    path.text.utf8ByteSize + names.length * least ≤ (path.within names).text.utf8ByteSize := by
  induction names generalizing path with
  | nil => simp [Path.within]
  | cons name rest ih =>
    have first := path.size_le_child (unslashed name List.mem_cons_self)
    have own := long name List.mem_cons_self
    have more := ih (path.child name)
      (fun other member => unslashed other (List.mem_cons_of_mem _ member))
      (fun other member => long other (List.mem_cons_of_mem _ member))
    rw [List.length_cons, Nat.succ_mul]
    change _ ≤ ((path.child name).within rest).text.utf8ByteSize
    omega

theorem Path.components_within (path : Path) {names : List String}
    (isName : ∀ name ∈ names, IsName name) :
    (path.within names).components = path.components ++ names.map .name := by
  induction names generalizing path with
  | nil => simp [within]
  | cons name rest ih =>
    have first := isName name List.mem_cons_self
    have more := ih (path.child name) fun other member => isName other (List.mem_cons_of_mem _ member)
    rw [components_child path first] at more
    simpa [within] using more

theorem Path.within_injective (path : Path) {a b : List String} (isNameA : ∀ name ∈ a, IsName name)
    (isNameB : ∀ name ∈ b, IsName name)
    (same : (path.within a).components = (path.within b).components) : a = b := by
  rw [path.components_within isNameA, path.components_within isNameB,
    List.append_cancel_left_eq] at same
  exact List.map_injective_iff.2 (fun _ _ => Component.name.inj) same

namespace Repository

variable {disk : Disk} {listing : Listing} {here location : Location} {path : Path}
  {directory found : Visited}

/-- What is found by going down some names. -/
def Visited.down (directory : Visited) (names : List String) : Visited :=
  ⟨directory.path.within names, names.reverse ++ directory.location⟩

theorem Visited.down_cons (directory : Visited) (name : String) (rest : List String) :
    directory.down (name :: rest) = (directory.down [name]).down rest := by
  simp [down, Path.within]

theorem mem_contents {entry : Entry} : (found, entry) ∈ contents disk listing directory ↔
    ∃ name, disk.entryAt (name :: directory.location) = some entry ∧
      found = directory.down [name] := by
  simp only [contents, List.mem_filterMap, (listing.complete _ _).mem_iff, Disk.mem_names_iff,
    Option.map_eq_some_iff, Prod.mk.injEq]
  constructor
  · rintro ⟨name, -, other, eq, rfl, rfl⟩
    exact ⟨name, eq, rfl⟩
  · rintro ⟨name, eq, rfl⟩
    exact ⟨name, by simp [eq], entry, eq, rfl, rfl⟩

theorem mem_directoriesIn : found ∈ directoriesIn disk listing directory ↔
    ∃ name, disk.entryAt (name :: directory.location) = some .directory ∧
      found = directory.down [name] := by
  simp only [directoriesIn, List.mem_filterMap]
  constructor
  · rintro ⟨⟨other, entry⟩, member, eq⟩
    cases entry <;> cases eq
    exact mem_contents.1 member
  · intro exists'
    exact ⟨(found, .directory), mem_contents.2 exists', rfl⟩

theorem mem_filesIn {file : Path} : file ∈ filesIn disk listing directory ↔
    ∃ name content executable,
      disk.entryAt (name :: directory.location) = some (.file content executable) ∧
        file = directory.path.child name := by
  simp only [filesIn, List.mem_filterMap]
  constructor
  · rintro ⟨⟨other, entry⟩, member, eq⟩
    obtain ⟨name, there, rfl⟩ := mem_contents.1 member
    cases entry <;> cases eq
    exact ⟨name, _, _, there, rfl⟩
  · rintro ⟨name, content, executable, there, rfl⟩
    exact ⟨(directory.down [name], .file content executable), mem_contents.2 ⟨name, there, rfl⟩, rfl⟩

/-- With so many levels, everything is found that lies fewer names down. -/
theorem mem_directoriesBelow (levels : Nat) (directories : List Visited) :
    found ∈ directoriesBelow disk listing levels directories ↔
      ∃ directory ∈ directories, ∃ names, names.length < levels ∧
        disk.Leads directory.location names ∧ found = directory.down names := by
  induction levels generalizing directories with
  | zero => simp [directoriesBelow]
  | succ levels ih =>
    rw [directoriesBelow, List.mem_append, ih]
    constructor
    · rintro (own | ⟨middle, member, names, fewer, leads, rfl⟩)
      · exact ⟨found, own, [], by simp, .inl rfl, rfl⟩
      · obtain ⟨directory, listed, member⟩ := List.mem_flatMap.1 member
        obtain ⟨name, there, rfl⟩ := mem_directoriesIn.1 member
        exact ⟨directory, listed, name :: names, by simpa using fewer,
          Disk.leads_cons.2 ⟨there, leads⟩, (directory.down_cons name names).symm⟩
    · rintro ⟨directory, listed, names, fewer, leads, rfl⟩
      cases names with
      | nil => exact .inl listed
      | cons name rest =>
        obtain ⟨there, leads⟩ := Disk.leads_cons.1 leads
        refine .inr ⟨directory.down [name], ?_, rest, by simpa using fewer, leads,
          directory.down_cons name rest⟩
        exact List.mem_flatMap.2 ⟨directory, listed, mem_directoriesIn.2 ⟨name, there, rfl⟩⟩

/-- No way down has more names than there are levels. -/
theorem length_lt_levelLimit {names : List String} (leads : disk.Leads location names) :
    names.length < levelLimit disk := by
  rcases leads with rfl | there
  · simp [levelLimit]
  · have bound := Disk.length_le_size (show disk.entryAt _ ≠ none by rw [there]; simp)
    simp only [List.length_append, List.length_reverse] at bound
    rw [levelLimit]
    omega

/-- The walk as a whole misses no directory. -/
theorem mem_directories :
    found ∈ directoriesBelow disk listing (levelLimit disk) [directory] ↔
      ∃ names, disk.Leads directory.location names ∧ found = directory.down names := by
  rw [mem_directoriesBelow]
  constructor
  · rintro ⟨other, member, names, -, leads, eq⟩
    obtain rfl := List.mem_singleton.1 member
    exact ⟨names, leads, eq⟩
  · rintro ⟨names, leads, eq⟩
    exact ⟨directory, List.mem_singleton_self _, names, length_lt_levelLimit leads, leads, eq⟩

/-- No directory is visited twice: the levels hold locations of different lengths, and within a
level the parents differ or the names do. -/
theorem directoriesBelow_distinct (levels depth : Nat) (directories : List Visited)
    (level : ∀ directory ∈ directories, directory.location.length = depth)
    (distinct : directories.Pairwise fun a b => a.location ≠ b.location) :
    (directoriesBelow disk listing levels directories).Pairwise
      fun a b => a.location ≠ b.location := by
  induction levels generalizing depth directories with
  | zero => simp [directoriesBelow]
  | succ levels ih =>
    rw [directoriesBelow, List.pairwise_append]
    have level' : ∀ found ∈ directories.flatMap (directoriesIn disk listing),
        found.location.length = depth + 1 := by
      intro found member
      obtain ⟨directory, listed, member⟩ := List.mem_flatMap.1 member
      obtain ⟨name, -, rfl⟩ := mem_directoriesIn.1 member
      simp [Visited.down, level directory listed]
    refine ⟨distinct, ih (depth + 1) _ level' ?_, ?_⟩
    · rw [List.pairwise_flatMap]
      constructor
      · intro directory member
        rw [directoriesIn, contents, List.filterMap_filterMap, List.pairwise_filterMap]
        have names : (listing.order directory.location (disk.names directory.location)).Nodup :=
          (listing.complete _ _).nodup_iff.2 (Disk.names_nodup _ _)
        refine names.imp ?_
        intro a b differ found first found' second same
        simp only [Option.bind_eq_some_iff, Option.map_eq_some_iff] at first second
        obtain ⟨_, ⟨entry, -, rfl⟩, first⟩ := first
        obtain ⟨_, ⟨entry', -, rfl⟩, second⟩ := second
        cases entry <;> cases first
        cases entry' <;> cases second
        exact differ (List.cons.inj same).1
      · refine distinct.imp ?_
        intro a b differ found first found' second same
        obtain ⟨name, -, rfl⟩ := mem_directoriesIn.1 first
        obtain ⟨name', -, rfl⟩ := mem_directoriesIn.1 second
        exact differ (List.cons.inj same).2
    · intro a first b second same
      obtain ⟨directory, member, names, -, -, rfl⟩ := (mem_directoriesBelow _ _).1 second
      have lengths := congrArg List.length same
      rw [level a first] at lengths
      simp only [Visited.down, List.length_append, List.length_reverse, level' directory member]
        at lengths
      omega

/-- The components of what is found under some names. -/
theorem components_down (named : disk.NamedBelow location) {names : List String}
    (present : disk.entryAt (names.reverse ++ location) ≠ none) (path : Path) :
    (path.within names).components = path.components ++ names.map .name :=
  path.components_within fun name member => named _ present name (List.mem_reverse.2 member)

theorem filesIn_distinct (named : disk.NamedBelow location) (path : Path) (names : List String) :
    (filesIn disk listing (Visited.down ⟨path, location⟩ names)).Pairwise
      fun a b => a.components ≠ b.components := by
  have isName : ∀ {name entry}, disk.entryAt (name :: (names.reverse ++ location)) = some entry →
      Path.IsName name := by
    intro name entry there
    exact named (name :: names.reverse) (by simp [there]) name List.mem_cons_self
  have distinct := (listing.complete (names.reverse ++ location)
    (disk.names (names.reverse ++ location))).nodup_iff.2 (Disk.names_nodup _ _)
  rw [filesIn, contents, List.filterMap_filterMap, List.pairwise_filterMap]
  refine List.Pairwise.imp ?_ distinct
  intro a b differ file first file' second same
  simp only [Option.bind_eq_some_iff, Option.map_eq_some_iff] at first second
  obtain ⟨_, ⟨entry, there, rfl⟩, first⟩ := first
  obtain ⟨_, ⟨entry', there', rfl⟩, second⟩ := second
  cases entry <;> cases first
  cases entry' <;> cases second
  rw [Path.components_child _ (isName there), Path.components_child _ (isName there')] at same
  apply differ
  simpa using same

/-- The files that the walk finds. -/
theorem mem_files (standing : disk.found location = .directory) {file : Path} :
    file ∈ (directoriesBelow disk listing (levelLimit disk) [⟨path, location⟩]).flatMap
      (filesIn disk listing) ↔
      ∃ names content executable,
        disk.entryAt (names.reverse ++ location) = some (.file content executable) ∧
          file = path.within names := by
  rw [List.mem_flatMap]
  constructor
  · rintro ⟨directory, member, member'⟩
    obtain ⟨names, -, rfl⟩ := mem_directories.1 member
    obtain ⟨name, content, executable, there, rfl⟩ := mem_filesIn.1 member'
    refine ⟨names ++ [name], content, executable, ?_, (path.within_concat names name).symm⟩
    simpa [Visited.down] using there
  · rintro ⟨names, content, executable, there, rfl⟩
    rcases List.eq_nil_or_concat names with rfl | ⟨names, name, rfl⟩
    · have there : disk.entryAt location = some (.file content executable) := there
      simp [Disk.found, there] at standing
    · rw [List.concat_eq_append] at there ⊢
      have there' : disk.entryAt (name :: (names.reverse ++ location)) =
          some (.file content executable) := by simpa using there
      have leads : disk.Leads location names :=
        .inr (Disk.entryAt_parent (by rw [there']; rfl))
      exact ⟨Visited.down ⟨path, location⟩ names, mem_directories.2 ⟨names, leads, rfl⟩,
        mem_filesIn.2 ⟨name, content, executable, there', path.within_concat names name⟩⟩

/-- No file is found twice. -/
theorem files_distinct (named : disk.NamedBelow location) (path : Path) :
    ((directoriesBelow disk listing (levelLimit disk) [⟨path, location⟩]).flatMap
      (filesIn disk listing)).Pairwise fun a b => a.components ≠ b.components := by
  have found : ∀ {names file}, file ∈ filesIn disk listing (Visited.down ⟨path, location⟩ names) →
      ∃ name, file.components = path.components ++ (names ++ [name]).map .name := by
    intro names file member
    obtain ⟨name, content, executable, there, rfl⟩ := mem_filesIn.1 member
    have there' : disk.entryAt ((names ++ [name]).reverse ++ location) =
        some (.file content executable) := by simpa [Visited.down] using there
    refine ⟨name, ?_⟩
    rw [← components_down named (by rw [there']; simp) path, path.within_concat]
    rfl
  rw [List.pairwise_flatMap]
  constructor
  · intro directory member
    obtain ⟨names, -, rfl⟩ := mem_directories.1 member
    exact filesIn_distinct named path names
  · refine (directoriesBelow_distinct _ location.length [⟨path, location⟩] (by simp)
      (List.pairwise_singleton _ _)).imp_of_mem ?_
    intro a b first second differ file member file' member' same
    obtain ⟨names, -, rfl⟩ := mem_directories.1 first
    obtain ⟨names', -, rfl⟩ := mem_directories.1 second
    obtain ⟨name, eq⟩ := found member
    obtain ⟨name', eq'⟩ := found member'
    rw [eq, eq', List.append_cancel_left_eq] at same
    have whole := List.map_injective_iff.2 (fun _ _ => Path.Component.name.inj) same
    obtain ⟨rfl, -⟩ := List.append_inj' whole rfl
    exact differ rfl

/-- What is listed when no directory lies too deep. -/
theorem artifacts_listed (listing : Listing) (located : disk.locate here path = .ok location)
    (standing : disk.found location = .directory)
    (short : ∀ names, disk.Leads location names →
      (path.within names).text.utf8ByteSize ≤ Disk.pathLimit) :
    ∃ paths, artifacts disk listing here path = .ok paths ∧
      (∀ file, file ∈ paths ↔ file.isArtifact = true ∧ ∃ names content executable,
        disk.entryAt (names.reverse ++ location) = some (.file content executable) ∧
          file = path.within names) ∧
      (disk.NamedBelow location → paths.Pairwise fun a b => a.components ≠ b.components) := by
  unfold artifacts
  simp only [located, if_pos standing]
  have none : (directoriesBelow disk listing (levelLimit disk) [⟨path, location⟩]).find?
      (fun directory => decide (Disk.pathLimit < directory.path.text.utf8ByteSize)) = none := by
    rw [List.find?_eq_none]
    intro directory member
    obtain ⟨names, leads, rfl⟩ := mem_directories.1 member
    exact fun tooDeep => absurd (of_decide_eq_true tooDeep) (Nat.not_lt.2 (short names leads))
  rw [none]
  refine ⟨_, rfl, fun file => ?_, fun named => ?_⟩
  · rw [List.mem_mergeSort, List.mem_filter, mem_files standing, and_comm]
  · refine ((List.mergeSort_perm _ _).pairwise_iff fun differ same => differ same.symm).2 ?_
    exact (files_distinct named path).filter _

/-- One directory that lies too deep keeps everything from being listed. -/
theorem artifacts_tooDeep (listing : Listing) (located : disk.locate here path = .ok location)
    {names : List String} (leads : disk.Leads location names)
    (long : Disk.pathLimit < (path.within names).text.utf8ByteSize) (paths : List Path) :
    artifacts disk listing here path ≠ .ok paths := by
  unfold artifacts
  simp only [located]
  split
  case isFalse => simp
  split
  · simp
  · rename_i none
    have short := List.find?_eq_none.1 none _ (mem_directories.2 ⟨names, leads, rfl⟩)
    exact absurd (decide_eq_true long) short

end Repository

theorem Text.occursIn_iff {needle s : List Char} :
    Text.occursIn needle s = true ↔ needle <:+: s := by
  induction s with
  | nil => simp [occursIn]
  | cons c rest ih => simp [occursIn, ih, List.infix_cons_iff]

namespace Path

/-- Whether a path is taken for an artifact depends on its components. -/
theorem isArtifact_congr {a b : Path} (same : a.components = b.components) :
    a.isArtifact = b.isArtifact := by
  unfold isArtifact fileName?
  rw [same]

theorem isArtifact_child_iff (base : Path) {name : String} (isName : IsName name) :
    (base.child name).isArtifact = true ↔ artifactMarker.toList <:+: name.toList := by
  unfold isArtifact fileName?
  rw [components_child base isName, List.getLast?_concat]
  exact Text.occursIn_iff

end Path

end ModelForge
