import ModelForge.Proofs.Compile.Copy
import ModelForge.Proofs.Source.Render

/-! What the stages do. One that succeeds touches its own places and leaves there what it was to
leave; one that fails says at which step, and only the loop over the modules may have touched
anything. The tools are the stand-in. -/
namespace ModelForge.Compile

open Disk

variable (here root : Location) (settings : Settings) (model : Model)

/-- A definition makes a text on the new disk, and made it on the old one if it was there. -/
def Rendered (kind : Source.Kind) (old new : Disk) (text : String) : Prop :=
  Source.renderText new here kind (kind.definitionPath settings.templatePath)
      (context here settings model) = .ok text ∧
    (old.isFile here (kind.definitionPath settings.templatePath) = true →
      Source.renderText old here kind (kind.definitionPath settings.templatePath)
        (context here settings model) = .ok text)

/-- A place holds a content; where nothing was, it is in a file that may not be run. -/
def Wrote (place : Location) (content : ByteArray) (old new : Disk) : Prop :=
  new.Holds place content ∧
    (old.entryAt place = none → new.entryAt place = some (.file content false))

/-- What a stage leaves behind when it succeeds. -/
def Stage.Done (old new : Disk) : Stage → Prop
  | .folder f =>
    new.Site here (((model.directory settings.outputPath).within f.within).child f.name)
      (f.name :: (f.within.reverse ++ root))
  | .source kind => ∃ text, Rendered here settings model kind old new text ∧
      Wrote (kind.outputFile :: ((sourceWithin kind).reverse ++ root)) text.toUTF8 old new
  | .schemas => Settled ("yang" :: root) model.modules (fun _ => none) old →
      Settled ("yang" :: root) model.modules (schemaData settings.copyPolicy model.modules) new
  | .bindings =>
    Wrote ("generated.rs" :: "plugin" :: "src" :: root) "pub struct Device;\n".toUTF8 old new
  | .build => Wrote (model.identity.artifactName :: root) "fake artifact".toUTF8 old new

/-- What a stage may have touched when it fails. -/
def Stage.Residue : Stage → Location → Prop
  | .schemas, location => Stage.schemas.Places model root location
  | _, _ => False

/-- No file from which a source is made lies at one of some places. -/
def Undisturbed (places : Location → Prop) (disk : Disk) : Prop :=
  ∀ (kind : Source.Kind) location content executable,
    disk.locate here (kind.definitionPath settings.templatePath) = .ok location →
    disk.entryAt location = some (.file content executable) → ¬places location

section Frame

variable {here root settings model} {places : Location → Prop} {a b c : Disk}
  {kind : Source.Kind} {text : String} {stage : Stage}

theorem renderText_changes (model : Model) (changes : Changes places a b)
    (inside : a.entryAt here = some .directory) (undisturbed : Undisturbed here settings places a)
    (isFile : a.isFile here (kind.definitionPath settings.templatePath) = true) :
    b.isFile here (kind.definitionPath settings.templatePath) = true ∧
      Source.renderText b here kind (kind.definitionPath settings.templatePath)
          (context here settings model) =
        Source.renderText a here kind (kind.definitionPath settings.templatePath)
          (context here settings model) := by
  refine Source.renderText_keeps (changes.keeps inside) ?_ isFile
  intro location content executable located entry
  rw [changes.frame location (undisturbed kind location content executable located entry), entry]

theorem Rendered.later (rendered : Rendered here settings model kind a b text)
    (changes : Changes places b c) (inside : b.entryAt here = some .directory)
    (undisturbed : Undisturbed here settings places b) :
    Rendered here settings model kind a c text := by
  have isFile := Source.isFile_of_renderText rendered.1
  have same := (renderText_changes model changes inside undisturbed isFile).2
  exact ⟨same.trans rendered.1, rendered.2⟩

theorem Rendered.earlier (rendered : Rendered here settings model kind b c text)
    (changes : Changes places a b) (inside : a.entryAt here = some .directory)
    (undisturbed : Undisturbed here settings places a) :
    Rendered here settings model kind a c text := by
  refine ⟨rendered.1, fun isFile => ?_⟩
  obtain ⟨isFile', same⟩ := renderText_changes model changes inside undisturbed isFile
  exact same.symm.trans (rendered.2 isFile')

theorem Wrote.later {place : Location} {content : ByteArray} (wrote : Wrote place content a b)
    (same : c.entryAt place = b.entryAt place) : Wrote place content a c :=
  ⟨wrote.1.frame same, fun absent => same.trans (wrote.2 absent)⟩

theorem Wrote.earlier {place : Location} {content : ByteArray} (wrote : Wrote place content b c)
    (same : b.entryAt place = a.entryAt place) : Wrote place content a c :=
  ⟨wrote.1, fun absent => wrote.2 (same.trans absent)⟩

theorem Settled.frame {folder : Location} {modules : List SchemaModule}
    {files : String → Option ByteArray} (settled : Settled folder modules files a)
    (same : ∀ m ∈ modules, ∀ location, SchemaPlace folder m.fileName location →
      b.entryAt location = a.entryAt location) : Settled folder modules files b where
  file m member := (same m member _ (.inl rfl)).trans (settled.file m member)
  staged m member := (same m member _ (.inr rfl)).trans (settled.staged m member)

/-- What a stage has done stays done while its places are left alone. -/
theorem Stage.Done.later (done : stage.Done here root settings model a b)
    (changes : Changes places b c) (inside : b.entryAt here = some .directory)
    (apart : ∀ location, stage.Places model root location → ¬places location)
    (undisturbed : Undisturbed here settings places b) :
    stage.Done here root settings model a c := by
  have same : ∀ below, stage.Owns model below →
      c.entryAt (below ++ root) = b.entryAt (below ++ root) :=
    fun below owns => changes.frame _ (apart _ ⟨below, owns, rfl⟩)
  cases stage with
  | folder f => exact done.changes changes
  | source kind =>
    obtain ⟨text, rendered, wrote⟩ := done
    exact ⟨text, rendered.later changes inside undisturbed, wrote.later (same _ rfl)⟩
  | schemas =>
    refine fun vacant => (done vacant).frame fun m member location place => ?_
    rcases place with rfl | rfl
    · exact same [m.fileName, "yang"] ⟨m, member, .inl rfl⟩
    · exact same [stagedName m.fileName, "yang"] ⟨m, member, .inr rfl⟩
  | bindings | build => exact Wrote.later done (same _ rfl)

/-- And it may be told from an earlier disk on which those places were the same. -/
theorem Stage.Done.earlier (done : stage.Done here root settings model b c)
    (changes : Changes places a b) (inside : a.entryAt here = some .directory)
    (apart : ∀ location, stage.Places model root location → ¬places location)
    (undisturbed : Undisturbed here settings places a) :
    stage.Done here root settings model a c := by
  have same : ∀ below, stage.Owns model below →
      b.entryAt (below ++ root) = a.entryAt (below ++ root) :=
    fun below owns => changes.frame _ (apart _ ⟨below, owns, rfl⟩)
  cases stage with
  | folder f => exact done
  | source kind =>
    obtain ⟨text, rendered, wrote⟩ := done
    exact ⟨text, rendered.earlier changes inside undisturbed, wrote.earlier (same _ rfl)⟩
  | schemas =>
    refine fun vacant => done (vacant.frame fun m member location place => ?_)
    rcases place with rfl | rfl
    · exact same [m.fileName, "yang"] ⟨m, member, .inl rfl⟩
    · exact same [stagedName m.fileName, "yang"] ⟨m, member, .inr rfl⟩
  | bindings | build => exact Wrote.earlier done (same _ rfl)

end Frame

/-- The two ways in which a stage ends. -/
def Stage.Ends (stage : Stage) (result : Except Error Unit) (old new : Disk) : Prop :=
  (result = .ok () ∧ Changes (stage.Places model root) old new ∧
    stage.Done here root settings model old new) ∨
  ∃ error, result = .error error ∧ error.step? = some stage.step ∧
    Changes (stage.Residue root model) old new

section Step

variable {here root settings model} {progress final : Progress} {result : Except Error Unit}
  {failBindings failBuild : Bool}

theorem Error.step?_ofRender (step : Step) (error : Source.RenderError) :
    (Error.ofRender step error).step? = some step := by
  cases error <;> rfl

theorem target_eq (kind : Source.Kind) (output : Path) (model : Model) :
    kind.target output model =
      ((model.directory output).within (sourceWithin kind)).child kind.outputFile := by
  cases kind <;>
    simp only [Source.Kind.target, sourceWithin, Path.within, List.foldl, Model.fileIn,
      Model.packageFile, Model.packageDirectory, Model.sourceDirectory]

theorem schemaDirectory_eq (output : Path) (model : Model) : model.schemaDirectory output =
    ((model.directory output).within Folder.schema.within).child Folder.schema.name := by
  simp only [Model.schemaDirectory, Folder.within, Folder.name, Path.within, List.foldl]

theorem packageDirectory_eq (output : Path) (model : Model) : model.packageDirectory output =
    ((model.directory output).within Folder.package.within).child Folder.package.name := by
  simp only [Model.packageDirectory, Model.sourceDirectory, Folder.within, Folder.name, Path.within,
    List.foldl]

/-- The bindings go to the same file whether its path is joined as a whole or name by name. -/
theorem bindings_path (base : Path) :
    base.join ((Path.child ⟨"src"⟩ Source.packageName).child "generated.rs") =
      (base.within ["src", "plugin"]).child "generated.rs" := by
  have src : Path.IsName "src" := by decide
  have plugin : Path.IsName "plugin" := by decide
  have generated : '/' ∉ "generated.rs".toList := by decide
  have joined : (Path.child ⟨"src"⟩ Source.packageName).child "generated.rs" =
      ⟨"src/plugin/generated.rs"⟩ := by decide
  rw [joined, base.join_eq_stem (by decide)]
  simp only [Path.within, List.foldl]
  rw [Path.child_eq_stem _ generated, Path.stem_child _ plugin, Path.stem_child _ src]
  simp [String.append_assoc]

theorem folder_ends {f : Folder}
    (site : progress.disk.Site here ((model.directory settings.outputPath).within f.within)
      (f.within.reverse ++ root))
    (ran : (ensure here f.step
      (((model.directory settings.outputPath).within f.within).child f.name)).run.run progress =
        (result, final)) :
    (Stage.folder f).Ends here root settings model result progress.disk final.disk ∧
      final.requests = progress.requests := by
  rw [Run.run_ensure] at ran
  rcases ensured : progress.disk.ensureDirectory here
    (((model.directory settings.outputPath).within f.within).child f.name) with ⟨outcome, disk⟩
  rw [ensured] at ran
  obtain ⟨adds, same, made⟩ := site.ensure f.isName ensured
  cases ran
  refine ⟨?_, rfl⟩
  cases outcome with
  | ok =>
    refine .inl ⟨rfl, adds.changes.mono ?_, made rfl⟩
    rintro _ rfl
    exact ⟨_, rfl, rfl⟩
  | error fault =>
    refine .inr ⟨_, rfl, rfl, ?_⟩
    rw [same (by simp)]
    exact .refl _ _

theorem source_ends {kind : Source.Kind}
    (site : progress.disk.Site here ((model.directory settings.outputPath).within
      (sourceWithin kind)) ((sourceWithin kind).reverse ++ root))
    (undisturbed : Undisturbed here settings ((Stage.source kind).Places model root) progress.disk)
    (ran : (generate here settings model kind).run.run progress = (result, final)) :
    (Stage.source kind).Ends here root settings model result progress.disk final.disk ∧
      final.requests = progress.requests := by
  rw [generate, Run.run_onDisk] at ran
  simp only [if_pos site.inside, target_eq, Source.renderFile] at ran
  cases rendered : Source.renderText progress.disk here kind
      (kind.definitionPath settings.templatePath) (context here settings model) with
  | error error =>
    rw [rendered] at ran
    cases ran
    exact ⟨.inr ⟨_, rfl, Error.step?_ofRender _ error, .refl _ _⟩, rfl⟩
  | ok text =>
    rw [rendered] at ran
    simp only at ran
    cases written : progress.disk.write here (((model.directory settings.outputPath).within
        (sourceWithin kind)).child kind.outputFile) text.toUTF8 with
    | error fault =>
      rw [written] at ran
      cases ran
      exact ⟨.inr ⟨_, rfl, rfl, .refl _ _⟩, rfl⟩
    | ok disk =>
      rw [written] at ran
      cases ran
      obtain ⟨changes, holds, fresh⟩ := site.write_changes (isName_outputFile kind) written
      have changes : Changes ((Stage.source kind).Places model root) progress.disk disk := by
        refine changes.mono ?_
        rintro _ rfl
        exact Stage.places_source model root kind
      have isFile := Source.isFile_of_renderText rendered
      have again := (renderText_changes model changes site.inside undisturbed isFile).2
      refine ⟨.inl ⟨rfl, changes, text, ⟨again.trans rendered, fun _ => rendered⟩, ?_⟩, rfl⟩
      exact ⟨holds, fresh⟩

theorem schemas_ends (unslashed : model.Unslashed)
    (site : progress.disk.Site here ((model.directory settings.outputPath).within ["yang"])
      ("yang" :: root))
    (ran : (copyModules here settings model model.modules).run.run progress = (result, final)) :
    Stage.schemas.Ends here root settings model result progress.disk final.disk ∧
      final.requests = progress.requests := by
  have site : progress.disk.Site here (model.schemaDirectory settings.outputPath)
      ("yang" :: root) := by
    simpa only [Model.schemaDirectory, Path.within, List.foldl] using site
  obtain ⟨changes, requests, failed⟩ := copyModules_changes model.modules
    (fun changes site => site.changes changes)
    (fun m member _ _ _ site wrote => writeSchema_changes site
      (SchemaModule.isName_fileName (unslashed.modules m member)) wrote) site ran
  have changes : Changes (Stage.schemas.Places model root) progress.disk final.disk := by
    refine changes.mono ?_
    rintro _ ⟨m, member, rfl | rfl⟩
    · exact Stage.places_schema member root
    · exact Stage.places_staged member root
  refine ⟨?_, requests⟩
  cases result with
  | ok =>
    refine .inl ⟨rfl, changes, fun vacant => ?_⟩
    have settled := copyModules_settled model.modules (List.Subset.refl _) unslashed.modules vacant
      site ran
    constructor
    · intro m member
      rw [settled.file m member, foldl_settleModule]
      cases settings.copyPolicy <;> simp
    · exact settled.staged
  | error error => exact .inr ⟨error, rfl, failed error rfl, changes⟩

/-- A tool that writes one file, or refuses. -/
theorem produce_ends (stage : Stage) {base : Path} {folder : Location} {name content : String}
    {disk : Disk} (site : disk.Site here base folder) (isName : Path.IsName name)
    (place : stage.Places model root (name :: folder))
    (done : ∀ new, Wrote (name :: folder) content.toUTF8 disk new →
      stage.Done here root settings model disk new) :
    stage.Ends here root settings model
      (Toolchain.produce here stage.step (base.child name) content disk).result disk
      (Toolchain.produce here stage.step (base.child name) content disk).disk := by
  unfold Toolchain.produce
  cases written : disk.write here (base.child name) content.toUTF8 with
  | error fault => exact .inr ⟨_, rfl, rfl, .refl _ _⟩
  | ok new =>
    obtain ⟨changes, holds, fresh⟩ := site.write_changes isName written
    refine .inl ⟨rfl, changes.mono ?_, done new ⟨holds, fresh⟩⟩
    rintro _ rfl
    exact place

theorem bindings_ends
    (site : progress.disk.Site here ((model.directory settings.outputPath).within
      ["src", "plugin"]) ("plugin" :: "src" :: root))
    (ran : (perform here (.standIn failBindings failBuild)
      (bindingRequest settings model)).run.run progress = (result, final)) :
    Stage.bindings.Ends here root settings model result progress.disk final.disk ∧
      final.requests = progress.requests ++ [bindingRequest settings model] := by
  rw [Run.run_perform] at ran
  cases ran
  refine ⟨?_, rfl⟩
  cases failBindings with
  | true => exact .inr ⟨_, rfl, rfl, .refl _ _⟩
  | false =>
    simp only [Toolchain.standIn, bindingRequest, sourceTree, bindings_path, Bool.false_eq_true,
      if_false]
    exact produce_ends .bindings site (by decide) (Stage.places_bindings model root)
      fun new wrote => wrote

theorem build_ends (unslashed : model.Unslashed)
    (site : progress.disk.Site here (model.directory settings.outputPath) root)
    (ran : (perform here (.standIn failBindings failBuild)
      (buildRequest settings model)).run.run progress = (result, final)) :
    Stage.build.Ends here root settings model result progress.disk final.disk ∧
      final.requests = progress.requests ++ [buildRequest settings model] := by
  rw [Run.run_perform] at ran
  cases ran
  refine ⟨?_, rfl⟩
  cases failBuild with
  | true => exact .inr ⟨_, rfl, rfl, .refl _ _⟩
  | false =>
    simp only [Toolchain.standIn, buildRequest, Bool.false_eq_true, if_false]
    exact produce_ends .build site (Model.isName_artifactName unslashed.identity)
      (Stage.places_artifact model root) fun new wrote => wrote

/-- One stage, in a directory that is there. -/
theorem Stage.run_ends (stage : Stage) (unslashed : model.Unslashed)
    (site : progress.disk.Site here ((model.directory settings.outputPath).within stage.within)
      (stage.within.reverse ++ root))
    (undisturbed : Undisturbed here settings (stage.Places model root) progress.disk)
    (ran : (stage.run here settings model (.standIn failBindings failBuild)).run.run progress =
      (result, final)) :
    stage.Ends here root settings model result progress.disk final.disk ∧
      final.requests = progress.requests ++ stage.requests settings model := by
  cases stage with
  | folder f => simpa [requests] using folder_ends site ran
  | source kind => simpa [requests] using source_ends site undisturbed ran
  | schemas => simpa [requests] using schemas_ends unslashed site ran
  | bindings => exact bindings_ends site ran
  | build => exact build_ends unslashed site ran

end Step

end ModelForge.Compile
