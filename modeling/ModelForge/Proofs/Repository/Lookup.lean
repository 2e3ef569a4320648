import ModelForge.Proofs.Repository.Exact

/-! Looking a model up by its name and version next to listing what a repository holds. A lookup
goes for one file directly in the repository, so the two meet in the files there. -/
namespace ModelForge

/-- Every name with the marker in it spells a name and a version. -/
theorem Identity.exists_artifactName {name : String}
    (marked : artifactMarker.toList <:+: name.toList) (unslashed : '/' ∉ name.toList) :
    ∃ identity : Identity, identity.Unslashed ∧ identity.artifactName = name := by
  obtain ⟨before, after, shape⟩ := marked
  have part : ∀ c, c ∈ before ∨ c ∈ after → c ∈ name.toList := by
    intro c member
    rw [← shape]
    simp only [List.mem_append]
    tauto
  refine ⟨⟨String.ofList before, String.ofList after⟩, ⟨?_, ?_⟩, String.toList_inj.1 ?_⟩
  · exact fun member => unslashed (part _ (.inl (by simpa using member)))
  · exact fun member => unslashed (part _ (.inr (by simpa using member)))
  · rw [Model.artifactName_toList, String.toList_ofList, String.toList_ofList, shape]

namespace Repository

variable {disk : Disk} {here location : Location} {path file : Path} {identity : Identity}

theorem isNames_of_file (named : disk.NamedBelow location) {directories : List String} {name : String}
    {content : ByteArray} {executable : Bool}
    (there : disk.entryAt (name :: (directories.reverse ++ location)) =
      some (.file content executable)) : ∀ part ∈ directories ++ [name], Path.IsName part := by
  intro part member
  refine named (name :: directories.reverse) (by simp [there]) part ?_
  simpa [or_comm] using member

/-- Of the files that a repository holds, the path of a lookup is one that lies directly in it. -/
theorem eq_artifactOf (named : disk.NamedBelow location) (unslashed : identity.Unslashed)
    {directories : List String} {name : String} {content : ByteArray} {executable : Bool}
    (there : disk.entryAt (name :: (directories.reverse ++ location)) =
      some (.file content executable))
    (same : ((path.within directories).child name).components =
      (artifactOf path identity).components) :
    directories = [] ∧ name = identity.artifactName := by
  have alone : artifactOf path identity = path.within [identity.artifactName] := rfl
  rw [← path.within_concat, alone] at same
  have parts := path.within_injective (isNames_of_file named there)
    (by simp [Model.isName_artifactName unslashed]) same
  simpa [List.append_eq_singleton_iff] using parts

theorem holds_artifactOf_iff (named : disk.NamedBelow location) (unslashed : identity.Unslashed) :
    Holds disk path location (artifactOf path identity) ↔ ∃ content executable,
      disk.entryAt (identity.artifactName :: location) = some (.file content executable) := by
  constructor
  · rintro ⟨directories, name, content, executable, -, there, -, same⟩
    obtain ⟨rfl, rfl⟩ := eq_artifactOf named unslashed there (congrArg Path.components same.symm)
    exact ⟨content, executable, there⟩
  · rintro ⟨content, executable, there⟩
    refine ⟨[], identity.artifactName, content, executable, trivial, there, ?_, rfl⟩
    rw [Model.artifactName_toList]
    exact ⟨_, _, rfl⟩

/-- Lookups and the listing of a repository. A lookup goes for one path, and if the repository can
be listed, that path is in the list just when it names a file there, and no link or directory. The
other way round, what is listed directly in the repository is what some lookup goes for; what is
listed further down is not. -/
theorem lookup_covers (disk : Disk) (here : Location) (path : Path) (named : disk.NamedBelow [])
    (there : disk.isDirectory here path = true) :
    ∃ location, disk.locate here path = .ok location ∧
      (∀ identity loader, (getModel loader path identity).tried = [artifactOf path identity] ∧
        (getModel loader path identity).result = loader (artifactOf path identity)) ∧
      ((∀ names, disk.Descends location names →
          (path.within names).text.utf8ByteSize ≤ Disk.pathLimit) →
        ∃ paths, (∀ listing, artifacts disk listing here path = .ok paths) ∧
          (∀ identity : Identity, identity.Unslashed →
            (artifactOf path identity ∈ paths ↔ ∃ content executable,
              disk.entryAt (identity.artifactName :: location) =
                some (.file content executable)) ∧
            ∀ listed ∈ paths, listed.components = (artifactOf path identity).components →
              listed = artifactOf path identity) ∧
          ∀ listed ∈ paths, ∃ directories name content executable,
            disk.Descends location directories ∧
            disk.entryAt (name :: (directories.reverse ++ location)) =
              some (.file content executable) ∧
            listed = (path.within directories).child name ∧
            (directories = [] → ∃ identity : Identity, identity.Unslashed ∧
              ∀ loader, (getModel loader path identity).tried = [listed]) ∧
            (directories ≠ [] → ∀ identity : Identity, identity.Unslashed →
              ∀ loader, ∀ tried ∈ (getModel loader path identity).tried,
                tried.components ≠ listed.components)) := by
  obtain ⟨location, clean, reaches, standing⟩ := Disk.isDirectory_iff.1 there
  have located := Disk.locate_eq_ok_iff.2 ⟨clean, reaches⟩
  have named : disk.NamedBelow location := fun below present name member =>
    named (below ++ location) (by simpa using present) name (List.mem_append_left _ member)
  refine ⟨location, located, fun identity loader => ⟨rfl, rfl⟩, fun short => ?_⟩
  obtain ⟨paths, listed, members, sorted⟩ := artifacts_sorted .sorted located standing named short
  have every : ∀ listing, artifacts disk listing here path = .ok paths := by
    intro listing
    obtain ⟨others, listed', members', sorted'⟩ :=
      artifacts_sorted listing located standing named short
    rw [listed', Path.eq_of_lt sorted' sorted fun file => (members' file).trans (members file).symm]
  refine ⟨paths, every, fun identity unslashed => ⟨?_, ?_⟩, ?_⟩
  · exact (members _).trans (holds_artifactOf_iff named unslashed)
  · intro file member same
    obtain ⟨directories, name, content, executable, -, there, -, rfl⟩ := (members file).1 member
    obtain ⟨rfl, rfl⟩ := eq_artifactOf named unslashed there same
    rfl
  · intro file member
    obtain ⟨directories, name, content, executable, descends, there, marked, rfl⟩ :=
      (members file).1 member
    refine ⟨directories, name, content, executable, descends, there, rfl, ?_, ?_⟩
    · rintro rfl
      have isName := isNames_of_file named there name (by simp)
      obtain ⟨identity, unslashed, rfl⟩ := Identity.exists_artifactName marked isName.unslashed
      exact ⟨identity, unslashed, fun loader => rfl⟩
    · intro deeper identity unslashed loader tried one same
      obtain rfl := List.mem_singleton.1 one
      exact deeper (eq_artifactOf named unslashed there same.symm).1

set_option maxRecDepth 10000 in
theorem lookup_covers_sample : sampleDisk.NamedBelow [] ∧
    sampleDisk.isDirectory ["w"] ⟨"r"⟩ = true ∧
    (∀ names, sampleDisk.Descends ["r", "w"] names →
      ((Path.mk "r").within names).text.utf8ByteSize ≤ Disk.pathLimit) ∧
    ∃ paths, (∀ listing, artifacts sampleDisk listing ["w"] ⟨"r"⟩ = .ok paths) ∧
      ⟨"r/a.so.1"⟩ ∈ paths ∧ ⟨"r/d.so.1"⟩ ∉ paths ∧ ⟨"r/l.so.1"⟩ ∉ paths := by
  have each : ∀ below entry, sampleDisk.entryAt (below ++ []) = some entry →
      ∀ name ∈ below, Path.IsName name := by decide +kernel
  have named : sampleDisk.NamedBelow [] := fun below present => by
    obtain ⟨entry, found⟩ := Option.ne_none_iff_exists'.1 present
    exact each below entry found
  have there : sampleDisk.isDirectory ["w"] ⟨"r"⟩ = true := by decide +kernel
  have place : sampleDisk.locate ["w"] ⟨"r"⟩ = .ok ["r", "w"] := by decide +kernel
  have near : ∀ below entry, sampleDisk.entryAt (below ++ ["r", "w"]) = some entry →
      ((Path.mk "r").within below.reverse).text.utf8ByteSize ≤ Disk.pathLimit := by decide +kernel
  have short : ∀ names, sampleDisk.Descends ["r", "w"] names →
      ((Path.mk "r").within names).text.utf8ByteSize ≤ Disk.pathLimit := by
    intro names descends
    rcases Disk.descends_iff_leads.1 descends with rfl | found
    · decide
    · simpa using near names.reverse .directory found
  obtain ⟨location, located, -, lists⟩ := lookup_covers sampleDisk ["w"] ⟨"r"⟩ named there
  obtain rfl : ["r", "w"] = location := Except.ok.inj (place.symm.trans located)
  obtain ⟨paths, listed, covered, -⟩ := lists short
  have unlisted : ∀ identity : Identity, identity.Unslashed →
      (sampleDisk.entryAt (identity.artifactName :: ["r", "w"]) = some .directory ∨
        sampleDisk.entryAt (identity.artifactName :: ["r", "w"]) = some (.link ⟨"../r"⟩)) →
      artifactOf ⟨"r"⟩ identity ∉ paths := by
    intro identity unslashed other member
    obtain ⟨content, executable, file⟩ := (covered identity unslashed).1.1 member
    rcases other with other | other <;> cases file.symm.trans other
  refine ⟨named, there, short, paths, listed, ?_, ?_, ?_⟩
  · exact (covered ⟨"a", "1"⟩ (by decide)).1.2 ⟨"a".toUTF8, false, by decide +kernel⟩
  · exact unlisted ⟨"d", "1"⟩ (by decide) (.inl (by decide +kernel))
  · exact unlisted ⟨"l", "1"⟩ (by decide) (.inr (by decide +kernel))

/-- A repository that goes too deep, with an artifact directly in it. -/
def deepRepository : Disk :=
  (Compile.deepDisk 17).put "m.so.1" ["o", "w"] (.file "x".toUTF8 false)

set_option maxRecDepth 10000 in
/-- There is a file for the lookup, and no order lists it: what lies below goes too deep. -/
theorem lookup_covers_unlisted : deepRepository.isDirectory ["w"] ⟨"o"⟩ = true ∧
    deepRepository.entryAt ["m.so.1", "o", "w"] = some (.file "x".toUTF8 false) ∧
    (∀ loader, (getModel loader ⟨"o"⟩ ⟨"m", "1"⟩).tried = [⟨"o/m.so.1"⟩]) ∧
    ∀ listing paths, artifacts deepRepository listing ["w"] ⟨"o"⟩ = .ok paths →
      ⟨"o/m.so.1"⟩ ∉ paths := by
  obtain ⟨free, deep⟩ := Compile.deepDisk_spec 17
  obtain ⟨inside, output⟩ := Compile.deepDisk_output 17
  have changes : Disk.Changes (· = ["m.so.1", "o", "w"]) (Compile.deepDisk 17) deepRepository :=
    Disk.put_changes (free _) (by simp)
  have site := Disk.site_of_isDirectory free inside output
  have directory := site.isDirectory_keeps (changes.keeps inside)
  have vacant : (Compile.deepDisk 17).CanPut "m.so.1" ["o", "w"] := by decide +kernel
  have tried : artifactOf ⟨"o"⟩ ⟨"m", "1"⟩ = ⟨"o/m.so.1"⟩ := by decide
  refine ⟨directory, ?_, fun loader => congrArg (fun file => [file]) tried,
    fun listing paths listed => ?_⟩
  · rw [deepRepository, Disk.entryAt_put vacant, if_pos rfl]
  · obtain ⟨location, clean, reaches, -⟩ := Disk.isDirectory_iff.1 directory
    obtain rfl : location = ["o", "w"] :=
      (reaches.eq_follow (changes.linkFree free)).trans (by decide)
    refine absurd listed (artifacts_tooDeep listing (Disk.locate_eq_ok_iff.2 ⟨clean, reaches⟩)
      (.inr ?_) Compile.deepDisk_long paths)
    rw [List.reverse_replicate]
    exact changes.directory _ deep

end Repository

end ModelForge
