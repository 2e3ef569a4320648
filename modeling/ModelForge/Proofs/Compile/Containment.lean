import ModelForge.Proofs.Compile.Pipeline

/-! Where a compilation can change a disk without links: inside the directory of the model, and on
the way to that directory where directories were missing. Names may hold slashes for that, as long
as they do not begin with one and no `..` stands between them. -/
namespace ModelForge

namespace Location

/-- A location strictly below another one. -/
def Inside (root location : Location) : Prop := ∃ below, below ≠ [] ∧ location = below ++ root

instance (root location : Location) : Decidable (root.Inside location) :=
  decidable_of_iff (root <:+ location ∧ location ≠ root) (by
    constructor
    · rintro ⟨⟨below, rfl⟩, other⟩
      exact ⟨below, by rintro rfl; exact other rfl, rfl⟩
    · rintro ⟨below, some, rfl⟩
      exact ⟨List.suffix_append _ _, by simpa using some⟩)

theorem inside_child (root : Location) (name : String) : root.Inside (name :: root) :=
  ⟨[name], List.cons_ne_nil _ _, rfl⟩

theorem Inside.cons {root location : Location} (inside : root.Inside location) (name : String) :
    root.Inside (name :: location) := by
  obtain ⟨below, -, rfl⟩ := inside
  exact ⟨name :: below, List.cons_ne_nil _ _, rfl⟩

theorem Inside.trans {root middle location : Location} (inside : root.Inside middle)
    (further : middle.Inside location) : root.Inside location := by
  obtain ⟨below, nonempty, rfl⟩ := inside
  obtain ⟨further, nonempty', rfl⟩ := further
  exact ⟨further ++ below, by simp [nonempty], by simp⟩

/-- A text with a name in it that leads down leads to a place inside. -/
theorem inside_of_inward (here : Location) (base : Path) {text : String} {c : Char}
    (inward : Path.Inward text) (member : c ∈ text.toList) (slash : c ≠ '/') (dot : c ≠ '.') :
    (here.follow base).Inside (here.follow (base.child text)) := by
  obtain ⟨piece, found, proper⟩ := Path.exists_name_of_mem member slash dot
  rw [Path.child, Disk.follow_join here base inward.relative,
    Disk.spelled_of_noParent inward.noParent]
  refine ⟨_, ?_, rfl⟩
  rw [ne_eq, List.reverse_eq_nil_iff, List.filter_eq_nil_iff]
  intro none
  exact none piece found (by simpa using proper)

/-- What lies on the way to a directory inside another one. -/
theorem onTheWay_within (here : Location) (base : Path) (names : List String)
    (areNames : ∀ name ∈ names, Path.IsName name) {place : Location}
    (way : here.OnTheWay (base.within names) place) :
    here.OnTheWay base place ∨ (here.follow base).Inside place := by
  induction names generalizing base with
  | nil => exact .inl way
  | cons name rest ih =>
    have isName := areNames name List.mem_cons_self
    have own : here.follow (base.child name) = name :: here.follow base :=
      follow_child here base isName
    have more := ih (base.child name) (fun other member =>
      areNames other (List.mem_cons_of_mem _ member)) way
    rcases more with ⟨lead, nonempty, leading, eq⟩ | inside
    · rw [Path.components_child base isName] at leading
      rcases List.prefix_concat_iff.1 leading with whole | leading
      · refine .inr ?_
        rw [← eq, whole, ← Path.components_child base isName, ← follow, own]
        exact inside_child _ _
      · exact .inl ⟨lead, nonempty, leading, eq⟩
    · rw [own] at inside
      exact .inr ((inside_child _ _).trans inside)

end Location

namespace Compile

open Disk

variable {here : Location} {settings : Settings} {model : Model} {disk : Disk}
  {failBindings failBuild : Bool} {result : Except Error Artifact} {final : Progress}

section Places

theorem follow_within (here : Location) (base : Path) (names : List String)
    (areNames : ∀ name ∈ names, Path.IsName name) :
    here.follow (base.within names) = names.reverse ++ here.follow base := by
  induction names generalizing base with
  | nil => rfl
  | cons name rest ih =>
    have first := Location.follow_child here base (areNames name List.mem_cons_self)
    have more := ih (base.child name) fun other member =>
      areNames other (List.mem_cons_of_mem _ member)
    simpa [Path.within, first] using more

theorem follow_target (here : Location) (kind : Source.Kind) (output : Path) (model : Model) :
    here.follow (kind.target output model) =
      kind.outputFile :: ((sourceWithin kind).reverse ++ here.follow (model.directory output)) := by
  rw [target_eq, Location.follow_child _ _ (isName_outputFile kind), follow_within]
  cases kind <;> decide

theorem follow_schemaDirectory (here : Location) (output : Path) (model : Model) :
    here.follow (model.schemaDirectory output) =
      "yang" :: here.follow (model.directory output) := by
  rw [Model.schemaDirectory, Location.follow_child _ _ (by decide)]

theorem follow_schemaFile (here : Location) {m : SchemaModule}
    (unslashed : m.identity.Unslashed) (output : Path) (model : Model) :
    here.follow (model.schemaFile output m) =
      m.fileName :: "yang" :: here.follow (model.directory output) := by
  rw [Model.schemaFile, Location.follow_child _ _ (SchemaModule.isName_fileName unslashed),
    follow_schemaDirectory]

theorem follow_artifact (here : Location) (unslashed : model.identity.Unslashed) (output : Path) :
    here.follow (model.artifact output) =
      model.identity.artifactName :: here.follow (model.directory output) := by
  rw [Model.artifact, Model.fileIn,
    Location.follow_child _ _ (Model.isName_artifactName unslashed)]

theorem follow_bindings (here : Location) (base : Path) :
    here.follow (base.join ((Path.child ⟨"src"⟩ Source.packageName).child "generated.rs")) =
      "generated.rs" :: "plugin" :: "src" :: here.follow base := by
  rw [bindings_path, Location.follow_child _ _ (by decide), follow_within _ _ _ (by decide)]
  rfl

theorem inside_target (here : Location) (kind : Source.Kind) (output : Path) (model : Model) :
    (here.follow (model.directory output)).Inside (here.follow (kind.target output model)) := by
  rw [follow_target here]
  exact ⟨kind.outputFile :: (sourceWithin kind).reverse, List.cons_ne_nil _ _, rfl⟩

theorem inside_schemaFile (here : Location) {m : SchemaModule} (inward : Path.Inward m.fileName)
    (output : Path) (model : Model) :
    (here.follow (model.directory output)).Inside (here.follow (model.schemaFile output m)) := by
  have below := Location.inside_of_inward here (model.schemaDirectory output) inward
    (show '@' ∈ _ by simp [SchemaModule.fileName_toList]) (by decide) (by decide)
  rw [follow_schemaDirectory] at below
  exact (Location.inside_child _ _).trans below

theorem inside_staging (here : Location) {m : SchemaModule} (inward : Path.Inward m.fileName)
    (output : Path) (model : Model) : (here.follow (model.directory output)).Inside
      (here.follow (stagingPath (model.schemaFile output m))) := by
  have below := Location.inside_of_inward here (model.schemaDirectory output)
    (inward_stagedName inward m.fileName_ne_empty)
    (show '@' ∈ _ by simp [stagedName, SchemaModule.fileName_toList]) (by decide) (by decide)
  rw [follow_schemaDirectory] at below
  rw [Model.schemaFile, stagingPath_child _ m.fileName_ne_empty]
  exact (Location.inside_child _ _).trans below

theorem inside_bindings (here : Location) (base : Path) : (here.follow base).Inside
    (here.follow (base.join
      ((Path.child ⟨"src"⟩ Source.packageName).child "generated.rs"))) := by
  rw [follow_bindings here]
  exact ((Location.inside_child _ _).cons _).cons _

theorem inside_artifact (here : Location) (inward : model.Inward) (output : Path) :
    (here.follow (model.directory output)).Inside (here.follow (model.artifact output)) :=
  Location.inside_of_inward here (model.directory output) inward.artifact
    (show 's' ∈ _ by simp [Model.artifactName_toList, artifactMarker]) (by decide) (by decide)

/-- The files that a compilation writes, moves or takes away. -/
def writtenPaths (settings : Settings) (model : Model) : List Path :=
  Source.Kind.all.map (fun kind => kind.target settings.outputPath model) ++
    model.modules.flatMap (fun m => [model.schemaFile settings.outputPath m,
      stagingPath (model.schemaFile settings.outputPath m)]) ++
    [(model.directory settings.outputPath).join
        ((Path.child ⟨"src"⟩ Source.packageName).child "generated.rs"),
      model.artifact settings.outputPath]

/-- Each of those files lies, by its text, inside the directory of the model. -/
theorem writtenPaths_inside (here : Location) (inward : model.Inward) :
    ∀ path ∈ writtenPaths settings model,
      (here.follow (model.directory settings.outputPath)).Inside (here.follow path) := by
  intro path member
  simp only [writtenPaths, List.mem_append, List.mem_map, List.mem_flatMap, List.mem_pair]
    at member
  rcases member with (⟨kind, -, eq⟩ | ⟨m, member, eq | eq⟩) | eq | eq
  · rw [← eq]
    exact inside_target here kind _ model
  · rw [eq]
    exact inside_schemaFile here (inward.modules m member) _ model
  · rw [eq]
    exact inside_staging here (inward.modules m member) _ model
  · rw [eq]
    exact inside_bindings here _
  · rw [eq]
    exact inside_artifact here inward _

end Places

section Stages

variable {progress : Progress} {outcome : Except Error Unit}

theorem produce_spelled (free : disk.LinkFree) (step : Step) (path : Path) (content : String) :
    Changes (· = here.follow path) disk (Toolchain.produce here step path content disk).disk := by
  unfold Toolchain.produce
  cases written : disk.write here path content.toUTF8 with
  | error fault => exact .refl _ _
  | ok new => exact write_spelled free written

/-- Making a directory of the layout adds nothing on the way, where nothing is missing. -/
theorem folder_inside (f : Folder) (free : disk.LinkFree)
    (site : disk.Site here (model.directory settings.outputPath)
      (here.follow (model.directory settings.outputPath)))
    {made : Except Fault Unit} {new : Disk}
    (ensured : disk.ensureDirectory here
      (((model.directory settings.outputPath).within f.within).child f.name) = (made, new)) :
    Changes (here.follow (model.directory settings.outputPath)).Inside disk new := by
  have adds := (ensureDirectory_spec ensured).1
  refine Adds.changes fun location => ?_
  rcases adds location with same | ⟨absent, directory, way⟩
  · exact .inl same
  · refine .inr ⟨absent, directory, ?_⟩
    have names : ∀ name ∈ f.within ++ [f.name], Path.IsName name := by cases f <;> decide
    have way : here.OnTheWay ((model.directory settings.outputPath).within (f.within ++ [f.name]))
        location := by
      simpa [Path.within] using way free
    refine (Location.onTheWay_within here _ _ names way).resolve_left fun higher => ?_
    exact site.reaches.onTheWay free (by simp [site.inside]) higher absent

theorem source_inside {kind : Source.Kind} (free : progress.disk.LinkFree)
    (inside : progress.disk.entryAt here = some .directory)
    (ran : (generate here settings model kind).run.run progress = (outcome, final)) :
    Changes (here.follow (model.directory settings.outputPath)).Inside progress.disk
      final.disk := by
  rw [generate, Run.run_onDisk] at ran
  simp only [if_pos inside, Source.renderFile] at ran
  cases rendered : Source.renderText progress.disk here kind
      (kind.definitionPath settings.templatePath) (context here settings model) with
  | error error =>
    rw [rendered] at ran
    cases ran
    exact .refl _ _
  | ok text =>
    rw [rendered] at ran
    simp only at ran
    cases written : progress.disk.write here (kind.target settings.outputPath model)
        text.toUTF8 with
    | error fault =>
      rw [written] at ran
      cases ran
      exact .refl _ _
    | ok new =>
      rw [written] at ran
      cases ran
      refine (write_spelled free written).mono ?_
      intro location eq
      rw [eq]
      exact inside_target here kind _ model

/-- One stage, whatever becomes of it. -/
theorem Stage.run_inside (stage : Stage) (inward : model.Inward) (free : progress.disk.LinkFree)
    (site : progress.disk.Site here (model.directory settings.outputPath)
      (here.follow (model.directory settings.outputPath)))
    (ran : (stage.run here settings model (.standIn failBindings failBuild)).run.run progress =
      (outcome, final)) :
    Changes (here.follow (model.directory settings.outputPath)).Inside progress.disk
      final.disk := by
  cases stage with
  | folder f =>
    rw [Stage.run, Run.run_ensure] at ran
    cases ran
    exact folder_inside f free site rfl
  | source kind => exact source_inside free site.inside ran
  | schemas =>
    refine (copyModules_changes model.modules (fun changes free => changes.linkFree free)
      (fun m _ _ _ _ free wrote => writeSchema_spelled free wrote) free ran).1.mono ?_
    rintro _ ⟨m, member, rfl | rfl⟩
    · exact inside_schemaFile here (inward.modules m member) _ model
    · exact inside_staging here (inward.modules m member) _ model
  | bindings =>
    rw [Stage.run, Run.run_perform] at ran
    cases ran
    cases failBindings with
    | true => exact .refl _ _
    | false =>
      simp only [Toolchain.standIn, bindingRequest, sourceTree, Bool.false_eq_true, if_false]
      refine (produce_spelled free _ _ _).mono ?_
      intro location eq
      rw [eq]
      exact inside_bindings here _
  | build =>
    rw [Stage.run, Run.run_perform] at ran
    cases ran
    cases failBuild with
    | true => exact .refl _ _
    | false =>
      simp only [Toolchain.standIn, buildRequest, Bool.false_eq_true, if_false]
      refine (produce_spelled free _ _ _).mono ?_
      intro location eq
      rw [eq]
      exact inside_artifact here inward _

theorem runAll_inside (stages : List Stage) (inward : model.Inward)
    (free : progress.disk.LinkFree)
    (site : progress.disk.Site here (model.directory settings.outputPath)
      (here.follow (model.directory settings.outputPath)))
    (ran : (Stage.runAll here settings model (.standIn failBindings failBuild)
      stages).run.run progress = (outcome, final)) :
    Changes (here.follow (model.directory settings.outputPath)).Inside progress.disk
      final.disk := by
  induction stages generalizing progress with
  | nil =>
    cases ran
    exact .refl _ _
  | cons stage rest ih =>
    rw [Stage.runAll, Run.run_bind] at ran
    rcases first : (stage.run here settings model
      (.standIn failBindings failBuild)).run.run progress with ⟨result, middle⟩
    rw [first] at ran
    have changes := stage.run_inside inward free site first
    cases result with
    | error error =>
      cases ran
      exact changes
    | ok => exact changes.trans (ih (changes.linkFree free) (site.changes changes) ran)

/-- The stages change nothing outside the directory of the model. -/
theorem stages_changes {two : Disk} (inward : model.Inward) (free : two.LinkFree)
    (directory : two.isDirectory here (model.directory settings.outputPath) = true)
    (ran : (Stage.runAll here settings model (.standIn failBindings failBuild)
      Stage.all).run.run ⟨two, [], {}⟩ = (outcome, final)) :
    Changes (here.follow (model.directory settings.outputPath)).Inside two final.disk := by
  by_cases inside : two.entryAt here = some .directory
  · exact runAll_inside Stage.all inward free (site_of_isDirectory free inside directory) ran
  · rw [runAll_outside inside] at ran
    cases ran
    exact .refl _ _

end Stages

theorem isEmpty_directory (inward : model.Inward) (output : Path) :
    (model.directory output).isEmpty = false :=
  output.isEmpty_join inward.relative_safeName model.isEmpty_safeName

theorem onTheWay_directory (inward : model.Inward) {location : Location}
    (way : here.OnTheWay settings.outputPath location) :
    here.OnTheWay (model.directory settings.outputPath) location :=
  way.of_prefix (Path.components_join_prefix _ inward.relative_safeName)

theorem root_adds (inward : model.Inward) (free : disk.LinkFree)
    {outcome : Except Fault Unit} {one : Disk}
    (root : disk.ensureDirectory here settings.outputPath = (outcome, one)) :
    Adds (here.OnTheWay (model.directory settings.outputPath)) disk one :=
  (ensureDirectory_spec root).1.mono fun _ way => onTheWay_directory inward (way free)

theorem directory_adds (inward : model.Inward) (free : disk.LinkFree)
    {outcome outcome' : Except Fault Unit} {one two : Disk}
    (root : disk.ensureDirectory here settings.outputPath = (outcome, one))
    (directory : one.ensureDirectory here (model.directory settings.outputPath) =
      (outcome', two)) :
    Adds (here.OnTheWay (model.directory settings.outputPath)) disk two := by
  have first := root_adds inward free root
  have second := (ensureDirectory_spec directory).1
  exact first.trans (second.mono fun _ way => way (first.linkFree free))

/-- First come directories on the way, then changes in the directory of the model. -/
theorem compile_changes (inward : model.Inward) (free : disk.LinkFree)
    (compiled : compile here settings (.standIn failBindings failBuild) model disk =
      (result, final)) :
    ∃ middle, Adds (here.OnTheWay (model.directory settings.outputPath)) disk middle ∧
      Changes (here.follow (model.directory settings.outputPath)).Inside middle final.disk := by
  cases compile_course compiled with
  | refused => exact ⟨disk, .refl _ _, .refl _ _⟩
  | noRoot root => exact ⟨_, root_adds inward free root, .refl _ _⟩
  | noDirectory root directory => exact ⟨_, directory_adds inward free root directory, .refl _ _⟩
  | ran root directory stages =>
    have adds := directory_adds inward free root directory
    have there := (ensureDirectory_spec directory).2 rfl (isEmpty_directory inward _)
    exact ⟨_, adds, stages_changes inward (adds.linkFree free) there stages⟩

/-- Whatever a compilation changes lies inside the directory of the model, but for new directories
on the way there; and so does every file that it uses for a while. -/
theorem compile_contained (inward : model.Inward) (free : disk.LinkFree)
    (compiled : compile here settings (.standIn failBindings failBuild) model disk =
      (result, final)) :
    (∀ location, final.disk.entryAt location ≠ disk.entryAt location →
      (here.follow (model.directory settings.outputPath)).Inside location ∨
        (disk.entryAt location = none ∧ final.disk.entryAt location = some .directory ∧
          here.OnTheWay (model.directory settings.outputPath) location)) ∧
    ∀ path ∈ writtenPaths settings model,
      (here.follow (model.directory settings.outputPath)).Inside (here.follow path) := by
  refine ⟨fun location changed => ?_, writtenPaths_inside here inward⟩
  obtain ⟨middle, adds, changes⟩ := compile_changes inward free compiled
  by_cases inside : (here.follow (model.directory settings.outputPath)).Inside location
  · exact .inl inside
  rw [changes.frame location inside] at changed ⊢
  rcases adds location with same | ⟨absent, made, way⟩
  · exact absurd same changed
  · exact .inr ⟨absent, made, way⟩

theorem compile_contained_sample :
    sampleModel.Inward ∧ (sampleDisk Source.Kind.all).LinkFree ∧
    (∀ location, (sampleRun "o" sampleModel (sampleDisk Source.Kind.all)).2.disk.entryAt location ≠
        (sampleDisk Source.Kind.all).entryAt location →
      (Location.follow ["w"] (sampleModel.directory (sampleSettings "o").outputPath)).Inside
          location ∨
        ((sampleDisk Source.Kind.all).entryAt location = none ∧
          (sampleRun "o" sampleModel (sampleDisk Source.Kind.all)).2.disk.entryAt location =
            some .directory ∧
          Location.OnTheWay ["w"] (sampleModel.directory (sampleSettings "o").outputPath)
            location)) ∧
    ∀ path ∈ writtenPaths (sampleSettings "o") sampleModel,
      (Location.follow ["w"] (sampleModel.directory (sampleSettings "o").outputPath)).Inside
        (Location.follow ["w"] path) := by
  have inward : sampleModel.Inward := by decide
  have free : (sampleDisk Source.Kind.all).LinkFree := by decide +kernel
  have ran := ran_of_summary sampleRun_summary
  exact ⟨inward, free, compile_contained inward free ran⟩

/-- An accepted model is compiled and a file at a place outside its directory is new. -/
def Escapes (model : Model) (disk : Disk) (location : Location) : Prop :=
  model.validate = .ok () ∧ disk.LinkFree ∧
    summary (sampleRun "o" model disk).1 = .ok (artifact (sampleSettings "o") model) ∧
    disk.entryAt location = none ∧
    ((sampleRun "o" model disk).2.disk.entryAt location).isSome ∧
    (sampleRun "o" model disk).2.disk.entryAt location ≠ some .directory ∧
    ¬Location.follow ["w"] (model.directory ⟨"o"⟩) <:+ location

instance (model : Model) (disk : Disk) (location : Location) :
    Decidable (Escapes model disk location) :=
  inferInstanceAs (Decidable (_ ∧ _))

set_option maxRecDepth 10000 in
/-- With slashes, the name or the version of a module or of the model leads out of the directory:
by `..` in a name that is made of it, or by being an absolute path. -/
theorem compile_contained_slashed :
    Escapes ⟨"m", "1", [⟨"../../evil", "1", none, "E".toUTF8⟩]⟩ (sampleDisk Source.Kind.all)
      ["evil@1.yang", "o", "w"] ∧
    Escapes ⟨"m", "1", [⟨"m", "1/../../../evil", none, "E".toUTF8⟩]⟩
      ((sampleDisk Source.Kind.all).ensureDirectory ["w"] ⟨"o/m_1/yang/m@1"⟩).2
      ["evil.yang", "o", "w"] ∧
    Escapes ⟨"/w/e", "1", []⟩ (sampleDisk Source.Kind.all) ["e.so.1", "w"] ∧
    Escapes ⟨"m", "1/../../../k", []⟩
      ((sampleDisk Source.Kind.all).ensureDirectory ["w"] ⟨"o/m_1/__/__/__/k/m.so.1"⟩).2
      ["k", "__", "__", "m_1", "o", "w"] := by
  exact ⟨by decide +kernel, by decide +kernel, by decide +kernel, by decide +kernel⟩

end Compile

end ModelForge
