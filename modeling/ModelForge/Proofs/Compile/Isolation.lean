import ModelForge.Proofs.Compile.Containment

/-! Two models compiled one after the other. Models whose directories have different names do not
touch each other's files. Names and versions that become the same text, as dots and underscores
do, share a directory. -/
namespace ModelForge.Compile

open Disk

variable {here : Location} {settings : Settings} {model : Model} {disk : Disk}

/-- Whether the output directory is found without making anything. -/
structure Rooted (here : Location) (output : Path) (disk : Disk) : Prop where
  reaches : disk.Reaches here output (here.follow output)
  standing : disk.entryAt (here.follow output) = some .directory
  nothingToDo : disk.ensureDirectory here output = (.ok (), disk)

theorem rooted_of_isEmpty {output : Path} (empty : output.isEmpty = true)
    (inside : disk.entryAt here = some .directory) : Rooted here output disk := by
  obtain rfl : output = ⟨""⟩ := by
    obtain ⟨text⟩ := output
    simpa [Path.isEmpty] using empty
  have pieces : (Path.mk "").pieces = [""] := by decide
  have start : (Path.mk "").start here = here := by simp [Path.start, Path.isAbsolute]
  have spelled : here.follow ⟨""⟩ = here := by
    rw [Location.follow, show (Path.mk "").components = [] by decide, List.foldl_nil]
  rw [← spelled] at inside
  refine ⟨?_, inside, ?_⟩
  · obtain ⟨onLink, eq⟩ := walk_eq_walkWith disk false linkLimit
    rw [Reaches, pieces, start, eq, spelled]
    rw [spelled] at inside
    exact walkWith_blank (.inr inside) (by simp)
  · unfold ensureDirectory
    simp [Path.isEmpty]

/-- A directory that a path has led to is found again where its place is a directory still. -/
theorem reaches_of_standing {path : Path} {old new : Disk} (free : old.LinkFree)
    (directory : old.isDirectory here path = true) (kept : Keeps here old new)
    (standing : new.entryAt (here.follow path) = some .directory) :
    new.Reaches here path (here.follow path) ∧ new.isDirectory here path = true := by
  obtain ⟨location, clean, reaches, found⟩ := isDirectory_iff.1 directory
  have spelled := reaches.eq_follow free
  have reaches' : new.Reaches here path (here.follow path) := by
    rw [← spelled]
    refine reaches.keeps kept fun entry eq => ?_
    rcases found_eq_directory_iff.1 found with absent | directory
    · simp [absent] at eq
    · rw [← eq, directory]
      exact kept.directory location directory
  exact ⟨reaches', isDirectory_iff.2
    ⟨_, clean, reaches', found_eq_directory_iff.2 (.inr standing)⟩⟩

/-- The output directory is there as soon as the directory of the model is. -/
theorem output_standing {root : Location} (unslashed : model.identity.Unslashed)
    (spelled : root = here.follow (model.directory settings.outputPath))
    (standing : disk.entryAt root = some .directory) :
    disk.entryAt (here.follow settings.outputPath) = some .directory := by
  rw [spelled, Model.directory, Location.follow_child _ _ (Model.isName_safeName unslashed)]
    at standing
  have present : disk.entryAt (model.safeName :: here.follow settings.outputPath) ≠ none := by
    simp [standing]
  exact entryAt_parent_ne_none present

/-- What there is after a compilation that has come to its end. -/
theorem compile_rooted {failBindings failBuild : Bool} {made : Artifact} {final : Progress}
    (unslashed : model.identity.Unslashed) (inward : model.Inward) (free : disk.LinkFree)
    (compiled : compile here settings (.standIn failBindings failBuild) model disk =
      (.ok made, final)) :
    final.disk.LinkFree ∧ Rooted here settings.outputPath final.disk := by
  have isName := Model.isName_safeName unslashed
  generalize outcome : (Except.ok made : Except Error Artifact) = ended at compiled
  cases compile_course compiled with
  | refused | noRoot | noDirectory => cases outcome
  | @ran one two result _ ensured directory stages =>
    obtain ⟨first, rootThere⟩ := ensureDirectory_spec ensured
    obtain ⟨second, there⟩ := ensureDirectory_spec directory
    have freeOne := first.linkFree free
    have freeTwo := second.linkFree freeOne
    have inside : two.entryAt here = some .directory := by
      by_contra outside
      rw [runAll_outside outside] at stages
      cases stages
      cases outcome
    have standing := there rfl (isEmpty_directory inward _)
    have site := site_of_isDirectory freeTwo inside standing
    have changes := stages_changes inward freeTwo standing stages
    have standing := changes.directory _ (output_standing unslashed rfl site.standing)
    refine ⟨changes.linkFree freeTwo, ?_⟩
    by_cases empty : settings.outputPath.isEmpty = true
    · exact rooted_of_isEmpty empty (changes.directory _ inside)
    · obtain ⟨reaches, directory⟩ := reaches_of_standing freeOne
        (rootThere rfl (by simpa using empty)) ((second.keeps here).trans (changes.keeps inside))
        standing
      exact ⟨reaches, standing, ensureDirectory_of_isDirectory directory⟩

/-- A compilation whose output directory is there changes nothing but the directory of its model. -/
theorem compile_confined {failBindings failBuild : Bool} {result : Except Error Artifact}
    {final : Progress} (unslashed : model.identity.Unslashed) (inward : model.Inward)
    (free : disk.LinkFree) (rooted : Rooted here settings.outputPath disk)
    (compiled : compile here settings (.standIn failBindings failBuild) model disk =
      (result, final)) (location : Location)
    (elsewhere : ¬here.follow (model.directory settings.outputPath) <:+ location) :
    final.disk.entryAt location = disk.entryAt location := by
  have isName := Model.isName_safeName unslashed
  have made : ∀ {outcome two}, disk.ensureDirectory here (model.directory settings.outputPath) =
      (outcome, two) → two.entryAt location = disk.entryAt location := by
    intro outcome two ensured
    rw [Model.directory] at ensured
    rw [Model.directory, Location.follow_child _ _ isName] at elsewhere
    rcases ensureDirectory_child rooted.reaches isName rooted.standing ensured with
      rfl | ⟨-, absent, rfl⟩
    · rfl
    · refine (put_directory rooted.standing absent).2.changes.frame location ?_
      rintro rfl
      exact elsewhere List.suffix_rfl
  cases compile_course compiled with
  | refused => rfl
  | noRoot ensured => rw [rooted.nothingToDo] at ensured; cases ensured
  | noDirectory ensured directory =>
    rw [rooted.nothingToDo] at ensured
    cases ensured
    exact made directory
  | ran ensured directory stages =>
    rw [rooted.nothingToDo] at ensured
    cases ensured
    have freeTwo := (ensureDirectory_spec directory).1.linkFree free
    have there := (ensureDirectory_spec directory).2 rfl (isEmpty_directory inward _)
    rw [(stages_changes inward freeTwo there stages).frame location ?_, made directory]
    rintro ⟨below, -, rfl⟩
    exact elsewhere (List.suffix_append _ _)

theorem directories_apart {a b : Model} (unslashedA : a.identity.Unslashed)
    (unslashedB : b.identity.Unslashed)
    (differ : a.safeName ≠ b.safeName) {location : Location}
    (first : here.follow (a.directory settings.outputPath) <:+ location)
    (second : here.follow (b.directory settings.outputPath) <:+ location) : False := by
  rw [Model.directory, Location.follow_child _ _ (Model.isName_safeName unslashedA)] at first
  rw [Model.directory, Location.follow_child _ _ (Model.isName_safeName unslashedB)] at second
  have shorter := List.suffix_of_suffix_length_le first second (by simp)
  have same := shorter.eq_of_length (by simp)
  exact differ (List.cons.inj same).1

/-- A compilation leaves the directory of another model as it is, with every file that was made
for that model. -/
theorem compile_isolated {a b : Model} (unslashedA : a.identity.Unslashed)
    (unslashedB : b.identity.Unslashed) (inwardA : ∀ m ∈ a.modules, Path.Inward m.fileName)
    (inwardB : ∀ m ∈ b.modules, Path.Inward m.fileName) (differ : a.safeName ≠ b.safeName)
    (free : disk.LinkFree)
    {failBindingsA failBuildA failBindingsB failBuildB : Bool} {made : Artifact}
    {middle final : Progress} {result : Except Error Artifact}
    (compiledA : compile here settings (.standIn failBindingsA failBuildA) a disk =
      (.ok made, middle))
    (compiledB : compile here settings (.standIn failBindingsB failBuildB) b middle.disk =
      (result, final)) :
    here.follow (a.directory settings.outputPath) ≠ here.follow (b.directory settings.outputPath) ∧
      (∀ location, here.follow (a.directory settings.outputPath) <:+ location →
        final.disk.entryAt location = middle.disk.entryAt location) ∧
      ∀ path ∈ writtenPaths settings a,
        final.disk.entryAt (here.follow path) = middle.disk.entryAt (here.follow path) := by
  have apart : ∀ location, here.follow (a.directory settings.outputPath) <:+ location →
      ¬here.follow (b.directory settings.outputPath) <:+ location := fun location first second =>
    directories_apart unslashedA unslashedB differ first second
  have downA := Model.inward_of_identity unslashedA inwardA
  have downB := Model.inward_of_identity unslashedB inwardB
  obtain ⟨freeMiddle, rooted⟩ := compile_rooted unslashedA downA free compiledA
  have kept := compile_confined unslashedB downB freeMiddle rooted compiledB
  refine ⟨fun same => ?_, fun location inside => kept location (apart location inside),
    fun path member => ?_⟩
  · refine apart _ List.suffix_rfl ?_
    rw [same]
  · obtain ⟨below, -, spelled⟩ := writtenPaths_inside here downA path member
    refine kept _ (apart _ ?_)
    rw [spelled]
    exact List.suffix_append _ _

/-- The library of the sample is still there after a second model has been compiled. -/
theorem compile_isolated_sample :
    sampleModel.identity.Unslashed ∧ (⟨"n", "1", []⟩ : Model).identity.Unslashed ∧
    (∀ m ∈ sampleModel.modules, Path.Inward m.fileName) ∧
    sampleModel.safeName ≠ (⟨"n", "1", []⟩ : Model).safeName ∧
    (sampleDisk Source.Kind.all).LinkFree ∧
    (sampleRun "o" ⟨"n", "1", []⟩
        (sampleRun "o" sampleModel (sampleDisk Source.Kind.all)).2.disk).2.disk.entryAt
        (Location.follow ["w"] (sampleModel.artifact (sampleSettings "o").outputPath)) =
      (sampleRun "o" sampleModel (sampleDisk Source.Kind.all)).2.disk.entryAt
        (Location.follow ["w"] (sampleModel.artifact (sampleSettings "o").outputPath)) := by
  have unslashedA : sampleModel.identity.Unslashed := by decide
  have unslashedB : (⟨"n", "1", []⟩ : Model).identity.Unslashed := by decide
  have inwardA : ∀ m ∈ sampleModel.modules, Path.Inward m.fileName := by decide
  have inwardB : ∀ m ∈ (⟨"n", "1", []⟩ : Model).modules, Path.Inward m.fileName := by simp
  have differ : sampleModel.safeName ≠ (⟨"n", "1", []⟩ : Model).safeName := by decide
  have free : (sampleDisk Source.Kind.all).LinkFree := by decide +kernel
  have member : sampleModel.artifact (sampleSettings "o").outputPath ∈
      writtenPaths (sampleSettings "o") sampleModel := by simp [writtenPaths]
  have first := ran_of_summary sampleRun_summary
  have kept := (compile_isolated unslashedA unslashedB inwardA inwardB differ free first
    (Prod.eta (sampleRun "o" ⟨"n", "1", []⟩ _)).symm).2.2
  exact ⟨unslashedA, unslashedB, inwardA, differ, free, kept _ member⟩

/-- Two accepted models, told apart by name and version, are compiled one after the other, and
the second one replaces a file of the first. -/
def Overwrites (a b : Model) (disk : Disk) (path : Path) : Prop :=
  a.validate = .ok () ∧ b.validate = .ok () ∧ a.identity ≠ b.identity ∧ disk.LinkFree ∧
    summary (sampleRun "o" a disk).1 = .ok (artifact (sampleSettings "o") a) ∧
    path ∈ writtenPaths (sampleSettings "o") a ∧
    (sampleRun "o" a disk).2.disk.entryAt (Location.follow ["w"] path) =
      some (.file "A".toUTF8 false) ∧
    (sampleRun "o" b (sampleRun "o" a disk).2.disk).2.disk.entryAt (Location.follow ["w"] path) =
      some (.file "B".toUTF8 false)

instance (a b : Model) (disk : Disk) (path : Path) : Decidable (Overwrites a b disk path) :=
  inferInstanceAs (Decidable (_ ∧ _))

set_option maxRecDepth 10000 in
/-- Names that differ in a dot and an underscore have one directory, and so have names that differ
in the number of slashes; and the name of a module can lead into the directory of another model. -/
theorem compile_isolated_folded :
    Overwrites ⟨"a.b", "1", [⟨"m", "1", none, "A".toUTF8⟩]⟩
      ⟨"a_b", "1", [⟨"m", "1", none, "B".toUTF8⟩]⟩ (sampleDisk Source.Kind.all)
      ⟨"o/a_b_1/yang/m@1.yang"⟩ ∧
    Overwrites ⟨"a", "1/b", [⟨"m", "1", none, "A".toUTF8⟩]⟩
      ⟨"a", "1//b", [⟨"m", "1", none, "B".toUTF8⟩]⟩
      ((sampleDisk Source.Kind.all).ensureDirectory ["w"] ⟨"o/a_1/b/a.so.1"⟩).2
      ⟨"o/a_1/b/yang/m@1.yang"⟩ ∧
    Overwrites ⟨"a", "1", [⟨"m", "1", none, "A".toUTF8⟩]⟩
      ⟨"b", "1", [⟨"../../a_1/yang/m", "1", none, "B".toUTF8⟩]⟩ (sampleDisk Source.Kind.all)
      ⟨"o/a_1/yang/m@1.yang"⟩ := by
  exact ⟨by decide +kernel, by decide +kernel, by decide +kernel⟩

end ModelForge.Compile
