import ModelForge.Proofs.Compile.Filled
import ModelForge.Proofs.Compile.Kept
import ModelForge.Proofs.Repository.Discovery

/-! A repository finds what a compilation has left: the artifact, once, from the output directory,
and under its own name in the directory of the model. -/
namespace ModelForge.Compile

open Disk Stage

variable {here root : Location} {settings : Settings} {model : Model} {stage : Stage}
  {failBindings failBuild : Bool} {disk : Disk} {progress final : Progress}
  {result : Except Error Unit}

/-- What it takes for everything below a place to be listed under a path to it. -/
structure Listable (disk : Disk) (path : Path) (root : Location) : Prop where
  unlinked : disk.LinkFreeBelow root
  named : disk.NamedBelow root
  short : ∀ names, disk.entryAt (names.reverse ++ root) = some .directory →
    (path.within names).text.utf8ByteSize ≤ pathLimit

theorem listable_iff {path : Path} : Listable disk path root ↔
    disk.LinkFreeBelow root ∧ ∀ below entry, disk.entryAt (below ++ root) = some entry →
      (∀ name ∈ below, Path.IsName name) ∧
        (entry = .directory → (path.within below.reverse).text.utf8ByteSize ≤ pathLimit) := by
  constructor
  · rintro ⟨unlinked, named, short⟩
    refine ⟨unlinked, fun below entry found => ⟨named below (by simp [found]), ?_⟩⟩
    rintro rfl
    exact short below.reverse (by simpa using found)
  · rintro ⟨unlinked, each⟩
    refine ⟨unlinked, fun below present => ?_, fun names there => ?_⟩
    · obtain ⟨entry, found⟩ := Option.ne_none_iff_exists'.1 present
      exact (each below entry found).1
    · simpa using (each names.reverse .directory there).2 rfl

instance (disk : Disk) (path : Path) (root : Location) : Decidable (Listable disk path root) :=
  decidable_of_iff _ listable_iff.symm

section Listing

variable {output : Location} {old new : Disk} {m : SchemaModule}

theorem Filled.named (unslashed : model.Unslashed)
    (filled : Filled model (model.safeName :: output) old new) (named : old.NamedBelow output) :
    new.NamedBelow output := by
  intro below present
  by_cases own : ∃ stage : Stage, stage.Places model (model.safeName :: output) (below ++ output)
  · obtain ⟨stage, within, owns, same⟩ := own
    have same : below ++ output = (within ++ [model.safeName]) ++ output := by simpa using same
    obtain rfl := List.append_cancel_right same
    have isName := Stage.owns_names unslashed owns
    simpa [or_imp, forall_and, Model.isName_safeName unslashed.identity] using isName
  · rw [filled.changes.frame _ own] at present
    exact named below present

theorem Filled.short
    (filled : Filled model (model.safeName :: output) old new)
    (listable : Listable old settings.outputPath output)
    (clean : textFault? settings.outputPath = none)
    (sites : ∀ (stage : Stage), ∀ within ∈ stage.makes, new.Site here
      ((model.directory settings.outputPath).within within)
      (within.reverse ++ model.safeName :: output))
    {names : List String} (leads : new.Leads output names) :
    (settings.outputPath.within names).text.utf8ByteSize ≤ pathLimit := by
  rcases leads with rfl | there
  · exact size_of_clean clean
  rcases filled.directory _ there with before | ⟨stage, within, member, same⟩
  · exact listable.short names before
  · have made : names = model.safeName :: within := by
      have same : names.reverse ++ output = (model.safeName :: within).reverse ++ output := by
        simpa using same
      exact List.reverse_inj.1 (List.append_cancel_right same)
    rw [made]
    exact size_of_clean (sites stage within member).clean

/-- Of what a compilation writes, only the artifact and the schema files may have the names of
artifacts. -/
theorem written_cases {written : Path} (member : written ∈ writtenPaths settings model)
    (taken : written.isArtifact = true) :
    written = model.artifact settings.outputPath ∨ ∃ m ∈ model.modules,
      written = model.schemaFile settings.outputPath m ∨
        written = stagingPath (model.schemaFile settings.outputPath m) := by
  simp only [writtenPaths, List.mem_append, List.mem_map, List.mem_flatMap, List.mem_pair]
    at member
  rcases member with (⟨kind, -, rfl⟩ | ⟨m, listed, eq⟩) | rfl | artifact
  · have unmarked : ¬artifactMarker.toList <:+: kind.outputFile.toList := by
      cases kind <;> decide
    rw [target_eq, Path.isArtifact_child_iff _ (isName_outputFile kind)] at taken
    exact absurd taken unmarked
  · exact .inr ⟨m, listed, eq⟩
  · rw [bindings_path, Path.isArtifact_child_iff _ (by decide)] at taken
    exact absurd taken (by decide)
  · exact .inl artifact

/-- What is found where data are staged has been there before. -/
theorem staging_unchanged (unslashed : model.Unslashed)
    (site : disk.Site here (model.directory settings.outputPath) root)
    (ran : (Stage.runAll here settings model (.standIn failBindings failBuild)
      Stage.all).run.run ⟨disk, [], {}⟩ = (.ok (), final))
    (member : m ∈ model.modules)
    (present : final.disk.entryAt (stagedName m.fileName :: "yang" :: root) ≠ none) :
    settings.copyPolicy = .skipExisting ∧
      final.disk.status? here (stagingPath (model.schemaFile settings.outputPath m)) =
        disk.status? here (stagingPath (model.schemaFile settings.outputPath m)) := by
  have yang : Path.IsName "yang" := by decide
  have isFile := SchemaModule.isName_fileName (unslashed.modules m member)
  have isStaged := isName_stagedName isFile.unslashed
  obtain ⟨skips, kept⟩ := (staged_left unslashed site ran member).resolve_left present
  obtain ⟨filled, sites⟩ := stages_fill unslashed site ran
  have schemaSite : final.disk.Site here (model.schemaDirectory settings.outputPath)
      ("yang" :: root) := by
    simpa [Path.within, Model.schemaDirectory] using
      sites (folder .schema) ["yang"] (by simp [Stage.makes, Folder.within, Folder.name])
  have fit := (((site.changes filled.changes).isDirectory_child_iff yang).1
    schemaSite.isDirectory).1
  have before := entryAt_parent (Option.isSome_iff_ne_none.2 (kept ▸ present))
  have schemaBefore := site.descend yang ((site.isDirectory_child_iff yang).2 ⟨fit, before⟩)
  refine ⟨skips, ?_⟩
  rw [Model.schemaFile, stagingPath_child _ m.fileName_ne_empty, schemaSite.status?_eq isStaged,
    Model.schemaDirectory, schemaBefore.status?_eq isStaged, kept]

theorem Filled.listed (unslashed : model.Unslashed) {content : ByteArray} {executable : Bool}
    (filled : Filled model (model.safeName :: output) old new)
    (listable : Listable old settings.outputPath output)
    (located : new.locate here settings.outputPath = .ok output)
    (standing : new.found output = .directory)
    (sites : ∀ (stage : Stage), ∀ within ∈ stage.makes, new.Site here
      ((model.directory settings.outputPath).within within)
      (within.reverse ++ model.safeName :: output))
    (artifact : new.entryAt (model.identity.artifactName :: model.safeName :: output) =
      some (.file content executable)) (listing : Repository.Listing) :
    ∃ paths, Repository.artifacts new listing here settings.outputPath = .ok paths ∧
      model.artifact settings.outputPath ∈ paths ∧
      (paths.map Path.components).count (model.artifact settings.outputPath).components = 1 ∧
      ∀ path ∈ paths, path.isArtifact = true ∧ ∃ names, (∀ name ∈ names, Path.IsName name) ∧
        path = settings.outputPath.within names ∧ new.entryAt (names.reverse ++ output) ≠ none := by
  have named := filled.named unslashed listable.named
  obtain ⟨paths, listed, members, distinct⟩ := Repository.artifacts_listed listing located standing
    fun names => filled.short listable (locate_eq_ok_iff.1 located).1 sites
  have member : model.artifact settings.outputPath ∈ paths := by
    refine (members _).2 ⟨?_, [model.safeName, model.identity.artifactName], content, executable,
      artifact, rfl⟩
    have isName := Model.isName_artifactName unslashed.identity
    refine (Path.isArtifact_child_iff (model.directory settings.outputPath) isName).2 ?_
    rw [Model.artifactName_toList]
    exact ⟨_, _, rfl⟩
  refine ⟨paths, listed, member, ?_, ?_⟩
  · refine List.count_eq_one_of_mem ?_ (List.mem_map_of_mem member)
    exact List.pairwise_map.2 (distinct named)
  · intro path member
    obtain ⟨isArtifact, names, content, executable, found, rfl⟩ := (members path).1 member
    refine ⟨isArtifact, names, fun name member => ?_, rfl, by simp [found]⟩
    exact named names.reverse (by simp [found]) name (List.mem_reverse.2 member)

end Listing

/-- After a compilation that succeeds, the repository at the output path lists the artifact, once,
and of the other files that were written at most schema files; and the repository at the directory
of the model goes for the artifact alone. -/
theorem artifact_found {made : Artifact} (unslashed : model.Unslashed)
    (nonempty : settings.outputPath.isEmpty = false)
    (compiled : compile here settings (.standIn failBindings failBuild) model disk =
      (.ok made, final))
    (listable : ∀ output,
      (prepared here settings model disk).locate here settings.outputPath = .ok output →
        Listable (prepared here settings model disk) settings.outputPath output)
    (noDevice : ∀ kind, (prepared here settings model disk).status? here
      (model.artifact settings.outputPath) ≠ some (.device kind)) :
    (∀ listing, ∃ paths,
      Repository.artifacts final.disk listing here settings.outputPath = .ok paths ∧
      made.file ∈ paths ∧ (paths.map Path.components).count made.file.components = 1 ∧
      ∀ written ∈ writtenPaths settings model, written.components ≠ made.file.components →
        written.components ∈ paths.map Path.components →
        written.isArtifact = true ∧ ∃ m ∈ model.modules,
          written = model.schemaFile settings.outputPath m ∨
          (written = stagingPath (model.schemaFile settings.outputPath m) ∧
            settings.copyPolicy = .skipExisting ∧ final.disk.status? here written =
              (prepared here settings model disk).status? here written)) ∧
    (∀ loader, (Repository.getModel loader (model.directory settings.outputPath)
      model.identity).tried = [made.file]) ∧
    final.disk.isFile here made.file = true := by
  obtain ⟨rfl, one, two, ensured, directory, stages⟩ := stages_of_compile compiled
  obtain rfl : prepared here settings model disk = two := by simp [prepared, ensured, directory]
  generalize prepared here settings model disk = two at *
  have inside : two.entryAt here = some .directory := by
    by_contra outside
    rw [runAll_outside outside] at stages
    cases stages
  have isName := Model.isName_safeName unslashed.identity
  have isArtifactName := Model.isName_artifactName unslashed.identity
  have there := isDirectory_adds (ensureDirectory_spec directory).1
    ((ensureDirectory_spec ensured).2 rfl nonempty)
  obtain ⟨output, clean, reaches, -⟩ := isDirectory_iff.1 there
  have located := locate_eq_ok_iff.2 ⟨clean, reaches⟩
  have listable := listable output located
  have outputSite := site_of_located inside there located listable.unlinked
  have site : two.Site here (model.directory settings.outputPath) (model.safeName :: output) :=
    outputSite.descend isName
      ((ensureDirectory_spec directory).2 rfl (settings.outputPath.isEmpty_child isName))
  obtain ⟨filled, sites⟩ := stages_fill unslashed site stages
  obtain ⟨fit, left⟩ := artifact_left unslashed site stages
  obtain ⟨content, executable, artifact⟩ := left.resolve_left (by
    rintro ⟨kind, device⟩
    apply noDevice kind
    change two.status? here ((model.directory settings.outputPath).child _) = _
    rw [site.status?_eq isArtifactName, fit]
    exact device)
  have outputSite := outputSite.changes filled.changes
  have finalSite := site.changes filled.changes
  refine ⟨fun listing => ?_, fun loader => rfl, ?_⟩
  · obtain ⟨paths, listed, member, once, others⟩ := filled.listed unslashed listable
      (locate_eq_ok_iff.2 ⟨outputSite.clean, outputSite.reaches⟩)
      (found_eq_directory_iff.2 (.inr outputSite.standing)) sites artifact listing
    refine ⟨paths, listed, member, once, ?_⟩
    intro written writes differ taken
    obtain ⟨path, listedPath, same⟩ := List.mem_map.1 taken
    obtain ⟨isArtifact, names, isNames, rfl, present⟩ := others path listedPath
    rw [Path.isArtifact_congr same] at isArtifact
    refine ⟨isArtifact, ?_⟩
    rcases written_cases writes isArtifact with rfl | ⟨m, member, rfl | rfl⟩
    · exact absurd rfl differ
    · exact ⟨m, member, .inl rfl⟩
    · have isFile := SchemaModule.isName_fileName (unslashed.modules m member)
      have isStaged := isName_stagedName isFile.unslashed
      have yang : Path.IsName "yang" := by decide
      have place : stagingPath (model.schemaFile settings.outputPath m) =
          settings.outputPath.within [model.safeName, "yang", stagedName m.fileName] :=
        stagingPath_child _ m.fileName_ne_empty
      obtain rfl := settings.outputPath.within_injective isNames
        (by simp [isName, yang, isStaged]) (same.trans (congrArg Path.components place))
      exact ⟨m, member, .inr ⟨rfl, staging_unchanged unslashed site stages member present⟩⟩
  · refine isFile_iff.2 ⟨_, content, executable, ?_, artifact⟩
    change final.disk.locate here ((model.directory settings.outputPath).child _) = _
    rw [finalSite.locate_eq isArtifactName, fit]
    simp [artifact]

/-- A model whose version and whose module carry the marker of artifacts. -/
def markedModel : Model := ⟨"m", "1.so.2", [⟨"a.so.b", "1", none, "A".toUTF8⟩]⟩

/-- The disk of the sample with files that an older compilation may have left. -/
def usedDisk : Disk :=
  ((sampleDisk Source.Kind.all).ensureDirectory [] ⟨"/w/o/m_1_so_2/yang"⟩).2
    |>.put "n.so.1" ["o", "w"] (.file "old".toUTF8 false)
    |>.put "m.so.1.so.2" ["m_1_so_2", "o", "w"] (.file "old".toUTF8 true)

set_option maxRecDepth 10000 in
theorem artifact_found_sample :
    markedModel.Unslashed ∧ (sampleSettings "o").outputPath.isEmpty = false ∧
    (∀ output, (prepared ["w"] (sampleSettings "o") markedModel usedDisk).locate ["w"]
        (sampleSettings "o").outputPath = .ok output →
      Listable (prepared ["w"] (sampleSettings "o") markedModel usedDisk)
        (sampleSettings "o").outputPath output) ∧
    (∀ kind, (prepared ["w"] (sampleSettings "o") markedModel usedDisk).status? ["w"]
      (markedModel.artifact (sampleSettings "o").outputPath) ≠ some (.device kind)) ∧
    ∃ made final, sampleRun "o" markedModel usedDisk = (.ok made, final) ∧
      (∀ listing, ∃ paths,
        Repository.artifacts final.disk listing ["w"] (sampleSettings "o").outputPath = .ok paths ∧
        made.file ∈ paths ∧ (paths.map Path.components).count made.file.components = 1 ∧
        ∀ written ∈ writtenPaths (sampleSettings "o") markedModel,
          written.components ≠ made.file.components →
          written.components ∈ paths.map Path.components →
          written.isArtifact = true ∧ ∃ m ∈ markedModel.modules,
            written = markedModel.schemaFile (sampleSettings "o").outputPath m ∨
            (written = stagingPath (markedModel.schemaFile (sampleSettings "o").outputPath m) ∧
              (sampleSettings "o").copyPolicy = .skipExisting ∧
              final.disk.status? ["w"] written =
                (prepared ["w"] (sampleSettings "o") markedModel usedDisk).status? ["w"]
                  written)) ∧
      (∀ loader, (Repository.getModel loader
        (markedModel.directory (sampleSettings "o").outputPath) markedModel.identity).tried =
          [made.file]) ∧
      final.disk.isFile ["w"] made.file = true := by
  have located : (prepared ["w"] (sampleSettings "o") markedModel usedDisk).locate ["w"]
      (sampleSettings "o").outputPath = .ok ["o", "w"] := by
    decide +kernel
  have listable : Listable (prepared ["w"] (sampleSettings "o") markedModel usedDisk)
      (sampleSettings "o").outputPath ["o", "w"] := by
    decide +kernel
  have listable : ∀ output, (prepared ["w"] (sampleSettings "o") markedModel usedDisk).locate ["w"]
        (sampleSettings "o").outputPath = .ok output →
      Listable (prepared ["w"] (sampleSettings "o") markedModel usedDisk)
        (sampleSettings "o").outputPath output := by
    intro output located'
    cases located.symm.trans located'
    exact listable
  have older : (prepared ["w"] (sampleSettings "o") markedModel usedDisk).status? ["w"]
      (markedModel.artifact (sampleSettings "o").outputPath) =
        some (.file "old".toUTF8 true) := by
    decide +kernel
  have noDevice : ∀ kind, (prepared ["w"] (sampleSettings "o") markedModel usedDisk).status? ["w"]
      (markedModel.artifact (sampleSettings "o").outputPath) ≠ some (.device kind) := by
    simp [older]
  have unslashed : markedModel.Unslashed := by decide
  have ended : summary (sampleRun "o" markedModel usedDisk).1 =
      .ok ⟨"m", "1.so.2", ⟨"o/m_1_so_2/m.so.1.so.2"⟩⟩ := by
    decide +kernel
  have ran := ran_of_summary ended
  exact ⟨unslashed, by decide, listable, noDevice, _, _, ran,
    artifact_found unslashed (by decide) ran listable noDevice⟩

/-- A directory that lies too deep stays, and nothing can be listed. -/
theorem unlisted_of_deep {outcome : Except Error Artifact} (inward : model.Inward)
    (free : disk.LinkFree)
    (compiled : compile here settings (.standIn failBindings failBuild) model disk =
      (outcome, final)) {names : List String}
    (there : disk.entryAt (names.reverse ++ here.follow settings.outputPath) = some .directory)
    (long : pathLimit < (settings.outputPath.within names).text.utf8ByteSize)
    (listing : Repository.Listing) (paths : List Path) :
    Repository.artifacts final.disk listing here settings.outputPath ≠ .ok paths := by
  obtain ⟨middle, adds, changes⟩ := compile_changes inward free compiled
  have stays := changes.directory _ ((adds.keeps here).directory _ there)
  cases located : final.disk.locate here settings.outputPath with
  | error fault => simp [Repository.artifacts, located]
  | ok output =>
    have spelled := (locate_eq_ok_iff.1 located).2.eq_follow
      (changes.linkFree (adds.linkFree free))
    rw [← spelled] at stays
    exact Repository.artifacts_tooDeep listing located (.inr stays) long paths

/-- A compilation of an accepted model succeeds, and the repository at its output path does not list
the artifact. -/
def Unlisted (model : Model) (disk : Disk) : Prop :=
  model.validate = .ok () ∧ model.Unslashed ∧ disk.LinkFree ∧
    ∃ made final, sampleRun "o" model disk = (.ok made, final) ∧ ∀ paths,
      Repository.artifacts final.disk .sorted ["w"] ⟨"o"⟩ = .ok paths → made.file ∉ paths

/-- A name of the greatest length. -/
def longName : String := String.ofList (List.replicate nameLimit 'd')

/-- The disk of the sample with directories below the output path, one in the other. -/
def deepDisk : Nat → Disk
  | 0 => ((sampleDisk Source.Kind.all).ensureDirectory ["w"] ⟨"o"⟩).2
  | depth + 1 =>
    (deepDisk depth).put longName (List.replicate depth longName ++ ["o", "w"]) .directory

set_option maxRecDepth 10000 in
theorem deepDisk_spec (depth : Nat) : (deepDisk depth).LinkFree ∧
    (deepDisk depth).entryAt (List.replicate depth longName ++ ["o", "w"]) = some .directory := by
  induction depth with
  | zero => decide
  | succ depth ih =>
    obtain ⟨free, there⟩ := ih
    rw [deepDisk, List.replicate_succ, List.cons_append]
    refine ⟨(put_changes (free _) (by simp)).linkFree free, ?_⟩
    by_cases again : (deepDisk depth).entryAt
      (longName :: (List.replicate depth longName ++ ["o", "w"])) = some .directory
    · rw [put_self again, again]
    · simp [entryAt_put ⟨there, again⟩]

theorem deepDisk_output (depth : Nat) : (deepDisk depth).entryAt ["w"] = some .directory ∧
    (deepDisk depth).isDirectory ["w"] ⟨"o"⟩ = true := by
  induction depth with
  | zero => decide
  | succ depth ih =>
    obtain ⟨inside, directory⟩ := ih
    have free := (deepDisk_spec depth).1
    have kept : Keeps ["w"] (deepDisk depth) (deepDisk (depth + 1)) :=
      (put_changes (free _) (by simp)).keeps inside
    exact ⟨kept.directory _ inside,
      (site_of_isDirectory free inside directory).isDirectory_keeps kept⟩

theorem deepDisk_long :
    pathLimit < ((Path.mk "o").within (List.replicate 17 longName)).text.utf8ByteSize := by
  have size : longName.utf8ByteSize = 255 := by decide +kernel
  have long : (Path.mk "o").text.utf8ByteSize + (List.replicate 17 longName).length * 255 ≤
      ((Path.mk "o").within (List.replicate 17 longName)).text.utf8ByteSize :=
    Path.size_within _ (by simp [longName]) (by simp [size])
  rw [List.length_replicate] at long
  exact Nat.lt_of_lt_of_le (by decide) long

/-- The disk of the sample with a device in the place of the artifact. -/
def deviceDisk : Disk :=
  ((sampleDisk Source.Kind.all).ensureDirectory ["w"] ⟨"o/m_1"⟩).2.put "m.so.1" ["m_1", "o", "w"]
    (.device .null)

set_option maxRecDepth 10000 in
theorem unlisted_deep : Unlisted sampleModel (deepDisk 17) := by
  obtain ⟨free, there⟩ := deepDisk_spec 17
  have ended : summary (sampleRun "o" sampleModel (deepDisk 17)).1 =
      .ok ⟨"m", "1", ⟨"o/m_1/m.so.1"⟩⟩ := by
    decide +kernel
  have ran := ran_of_summary ended
  refine ⟨by decide, by decide, free, _, _, ran, fun paths listed => ?_⟩
  refine absurd listed (unlisted_of_deep (by decide) free ran ?_ deepDisk_long _ paths)
  rw [List.reverse_replicate]
  exact there

set_option maxRecDepth 10000 in
theorem unlisted_device : Unlisted sampleModel deviceDisk := by
  have ended : summary (sampleRun "o" sampleModel deviceDisk).1 =
        .ok ⟨"m", "1", ⟨"o/m_1/m.so.1"⟩⟩ ∧
      Repository.artifacts (sampleRun "o" sampleModel deviceDisk).2.disk .sorted ["w"] ⟨"o"⟩ =
        .ok [] := by
    decide +kernel
  refine ⟨by decide, by decide, by decide +kernel, _, _, ran_of_summary ended.1, ?_⟩
  intro paths listed
  cases ended.2.symm.trans listed
  simp

theorem artifact_found_unlisted :
    Unlisted sampleModel (deepDisk 17) ∧ Unlisted sampleModel deviceDisk :=
  ⟨unlisted_deep, unlisted_device⟩

end ModelForge.Compile
