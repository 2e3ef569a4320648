import Mathlib.Tactic.IntervalCases
import ModelForge.Proofs.Compile.Isolation

/-! Compilations that fail. The step that an error names tells what has been done and what has
not: everything before it, and nothing after it. -/
namespace ModelForge.Compile

open Disk

namespace Step

/-- The order in which the steps are made. -/
def Before (a b : Step) : Prop := all.idxOf a < all.idxOf b

instance (a b : Step) : Decidable (a.Before b) := inferInstanceAs (Decidable (_ < _))

theorem mem_all (step : Step) : step ∈ all := by
  cases step <;> decide

/-- The directory that a step is there to make. -/
def directory? (settings : Settings) (model : Model) : Step → Option Path
  | ensureOutputRoot => some settings.outputPath
  | ensureModuleDirectory => some (model.directory settings.outputPath)
  | ensurePackageDirectory => some (model.packageDirectory settings.outputPath)
  | ensureSchemaDirectory => some (model.schemaDirectory settings.outputPath)
  | _ => none

/-- What the tools have been asked to do when a step fails. -/
def requestsAt (settings : Settings) (model : Model) : Step → List Request
  | generateBindings => [bindingRequest settings model]
  | build => [bindingRequest settings model, buildRequest settings model]
  | _ => []

end Step

/-- What a path spells is as it was; only, where nothing was, there may now be a directory that
lies on the way along the output path. -/
def Spared (here : Location) (output path : Path) (old new : Disk) : Prop :=
  new.entryAt (here.follow path) = old.entryAt (here.follow path) ∨
    (old.entryAt (here.follow path) = none ∧ new.entryAt (here.follow path) = some .directory ∧
      here.OnTheWay output (here.follow path))

/-- The state after a step has failed. -/
structure FailedAt (here : Location) (settings : Settings) (model : Model) (failed : Step)
    (old : Disk) (final : Progress) : Prop where
  directories : ∀ (step : Step) path, step.directory? settings model = some path →
    step.Before failed → path.isEmpty = true ∨ final.disk.isDirectory here path = true
  sources : ∀ kind, (Step.ofKind kind).Before failed → ∃ text,
    Rendered here settings model kind old final.disk text ∧
      final.disk.Holds (here.follow (kind.target settings.outputPath model)) text.toUTF8
  later : ∀ kind : Source.Kind, ¬(Step.ofKind kind).Before failed →
    Spared here settings.outputPath (kind.target settings.outputPath model) old final.disk
  schemas : failed.Before .copyModules → ∀ m ∈ model.modules,
    Spared here settings.outputPath (model.schemaFile settings.outputPath m) old final.disk
  requests : final.requests = failed.requestsAt settings model
  artifact : Spared here settings.outputPath (model.artifact settings.outputPath) old final.disk

theorem split_all {done rest : List Stage} {failing : Stage}
    (shape : Stage.all = done ++ failing :: rest) :
    ∃ n < 12, done = Stage.all.take n ∧ Stage.all[n]? = some failing := by
  refine ⟨done.length, ?_, by simp [shape], by simp [shape]⟩
  have length := congrArg List.length shape
  simp [Stage.all] at length
  omega

/-- Which stages are done when one fails, told by the step of the one that fails. -/
theorem done_iff {done rest : List Stage} {failing : Stage}
    (shape : Stage.all = done ++ failing :: rest) :
    (∀ kind, .source kind ∈ done ↔ (Step.ofKind kind).Before failing.step) ∧
      (∀ folder : Folder, folder.step.Before failing.step → .folder folder ∈ done) ∧
      (failing.step.Before .copyModules → .schemas ∉ done ∧ failing ≠ .schemas) ∧
      .build ∉ done := by
  obtain ⟨n, bound, rfl, next⟩ := split_all shape
  have checked : ∀ n ∈ List.range 12, ∀ failing ∈ Stage.all[n]?,
      (∀ kind ∈ Source.Kind.all,
        .source kind ∈ Stage.all.take n ↔ (Step.ofKind kind).Before failing.step) ∧
      (∀ folder ∈ [Folder.source, .package, .schema],
        folder.step.Before failing.step → .folder folder ∈ Stage.all.take n) ∧
      (failing.step.Before .copyModules →
        Stage.schemas ∉ Stage.all.take n ∧ failing ≠ .schemas) ∧
      Stage.build ∉ Stage.all.take n := by
    decide +kernel
  obtain ⟨sources, folders, schemas, build⟩ := checked n (List.mem_range.2 bound) failing next
  exact ⟨fun kind => sources kind (by cases kind <;> decide),
    fun folder => folders folder (by cases folder <;> decide), schemas, build⟩

theorem requests_eq {done rest : List Stage} {failing : Stage}
    (shape : Stage.all = done ++ failing :: rest) (settings : Settings) (model : Model) :
    (done ++ [failing]).flatMap (Stage.requests settings model) =
      failing.step.requestsAt settings model := by
  obtain ⟨n, bound, rfl, next⟩ := split_all shape
  interval_cases n <;> cases next <;> rfl

variable {here : Location} {settings : Settings} {model : Model} {old two new : Disk}

theorem isDirectory_adds {allowed : Location → Prop} {path : Path} (adds : Adds allowed old new)
    (directory : old.isDirectory here path = true) : new.isDirectory here path = true := by
  obtain ⟨location, clean, reaches, found⟩ := isDirectory_iff.1 directory
  have keeps : ∀ entry, old.entryAt location = some entry → new.entryAt location = some entry := by
    intro entry eq
    rcases adds location with same | ⟨absent, -⟩
    · rw [same, eq]
    · simp [absent] at eq
  refine isDirectory_iff.2 ⟨location, clean, reaches.keeps (adds.keeps here) keeps, ?_⟩
  rw [found_eq_directory_iff] at found ⊢
  rcases found with absent | directory
  · rcases adds location with same | ⟨-, made, -⟩
    · exact .inl (same.trans absent)
    · exact .inr made
  · exact .inr (keeps _ directory)

theorem Rendered.adds {allowed : Location → Prop} {kind : Source.Kind} {text : String}
    (rendered : Rendered here settings model kind two new text) (adds : Adds allowed old two) :
    Rendered here settings model kind old new text := by
  refine ⟨rendered.1, fun isFile => ?_⟩
  obtain ⟨isFile', same⟩ := Source.renderText_keeps (adds.keeps here)
    (fun location content executable _ entry => by
      rcases adds location with same | ⟨absent, -⟩
      · rw [same, entry]
      · simp [absent] at entry) isFile
  rw [← same]
  exact rendered.2 isFile'

/-- A place inside the directory of the model that lies on the way there lies on the way along the
output path. -/
theorem onTheWay_of_inside (unslashed : model.Unslashed) {location : Location}
    (way : here.OnTheWay (model.directory settings.outputPath) location)
    (inside : (here.follow (model.directory settings.outputPath)).Inside location) :
    here.OnTheWay settings.outputPath location := by
  obtain ⟨lead, nonempty, leading, eq⟩ := way
  have components := Path.components_child settings.outputPath
    (Model.isName_safeName unslashed.identity)
  rw [Model.directory, components] at leading
  rcases List.prefix_concat_iff.1 leading with whole | leading
  · obtain ⟨below, more, same⟩ := inside
    rw [Location.follow, Model.directory, components, ← whole, eq] at same
    exact absurd (List.self_eq_append_left.1 same) more
  · exact ⟨lead, nonempty, leading, eq⟩

theorem spared_inside (unslashed : model.Unslashed) {path : Path}
    (adds : Adds (here.OnTheWay (model.directory settings.outputPath)) old two)
    (inside : (here.follow (model.directory settings.outputPath)).Inside (here.follow path))
    (same : new.entryAt (here.follow path) = two.entryAt (here.follow path)) :
    Spared here settings.outputPath path old new := by
  rcases adds (here.follow path) with eq | ⟨absent, made, way⟩
  · exact .inl (same.trans eq)
  · exact .inr ⟨absent, same.trans made, onTheWay_of_inside unslashed way inside⟩

/-- A stage that is not done has changed nothing, unless it is the loop that failed. -/
theorem Reached.frame {root location : Location} (stage : Stage) {failing : Stage}
    {done : List Stage}
    (reached : Reached here root settings model done (failing.Residue root model) two new)
    (place : stage.Places model root location) (notDone : stage ∉ done)
    (whole : failing = stage → stage ≠ .schemas) :
    new.entryAt location = two.entryAt location := by
  refine reached.changes.frame location ?_
  rintro (⟨other, member, place'⟩ | left)
  · exact notDone (Stage.places_unique place place' ▸ member)
  · obtain rfl := Stage.places_unique (residue_places left) place
    cases failing with
    | schemas => exact whole rfl rfl
    | _ => exact left

theorem failedAt_of_reached {final : Progress} {done rest : List Stage} {failing : Stage}
    (unslashed : model.Unslashed) (shape : Stage.all = done ++ failing :: rest)
    (adds : Adds (here.OnTheWay (model.directory settings.outputPath)) old two)
    (reached : Reached here (here.follow (model.directory settings.outputPath)) settings model done
      (failing.Residue (here.follow (model.directory settings.outputPath)) model) two final.disk)
    (requests : final.requests = (done ++ [failing]).flatMap (Stage.requests settings model))
    (output : settings.outputPath.isEmpty = true ∨
      final.disk.isDirectory here settings.outputPath = true)
    (own : final.disk.isDirectory here (model.directory settings.outputPath) = true) :
    FailedAt here settings model failing.step old final := by
  obtain ⟨sources, folders, schemas, build⟩ := done_iff shape
  have folder : ∀ f : Folder, f.step.Before failing.step → final.disk.isDirectory here
      (((model.directory settings.outputPath).within f.within).child f.name) = true :=
    fun f before => (reached.done _ (folders f before)).isDirectory
  constructor
  case directories =>
    intro step path makes before
    cases step <;> simp only [Step.directory?, Option.some.injEq, reduceCtorEq] at makes
    · rw [← makes]
      exact output
    · rw [← makes]
      exact .inr own
    · rw [← makes, packageDirectory_eq]
      exact .inr (folder .package before)
    · rw [← makes, schemaDirectory_eq]
      exact .inr (folder .schema before)
  case sources =>
    intro kind before
    obtain ⟨text, rendered, wrote⟩ := reached.done _ ((sources kind).2 before)
    rw [follow_target here]
    exact ⟨text, rendered.adds adds, wrote.1⟩
  case later =>
    intro kind notBefore
    refine spared_inside unslashed adds (inside_target here kind _ model) ?_
    rw [follow_target here]
    exact reached.frame (.source kind) (Stage.places_source _ _ kind)
      (fun member => notBefore ((sources kind).1 member)) (by simp)
  case schemas =>
    intro before m member
    obtain ⟨notDone, other⟩ := schemas before
    have inward := unslashed.inward.modules m member
    refine spared_inside unslashed adds (inside_schemaFile here inward _ model) ?_
    rw [follow_schemaFile here (unslashed.modules m member)]
    exact reached.frame .schemas (Stage.places_schema member _) notDone
      fun same => absurd same other
  case requests => rw [requests, requests_eq shape]
  case artifact =>
    refine spared_inside unslashed adds (inside_artifact here unslashed.inward _) ?_
    rw [follow_artifact here unslashed.identity]
    exact reached.frame .build (Stage.places_artifact _ _) build (by simp)

/-- A failure before the first file. -/
theorem failedAt_early {final : Progress} {failed : Step} (unslashed : model.Unslashed)
    (early : failed.Before .generateManifest)
    (adds : Adds (here.OnTheWay (model.directory settings.outputPath)) old final.disk)
    (bare : final.requests = [])
    (output : Step.ensureOutputRoot.Before failed → settings.outputPath.isEmpty = true ∨
      final.disk.isDirectory here settings.outputPath = true) :
    FailedAt here settings model failed old final := by
  have spared : ∀ path ∈ writtenPaths settings model,
      Spared here settings.outputPath path old final.disk := fun path member =>
    spared_inside unslashed adds (writtenPaths_inside here unslashed.inward path member) rfl
  have first : ∀ step : Step, step.Before failed → step = .ensureOutputRoot := by
    have checked : ∀ failed ∈ Step.all, failed.Before .generateManifest →
        ∀ step ∈ Step.all, step.Before failed → step = .ensureOutputRoot := by
      decide
    exact fun step => checked failed (Step.mem_all failed) early step (Step.mem_all step)
  constructor
  case directories =>
    intro step path makes before
    obtain rfl := first step before
    simp only [Step.directory?, Option.some.injEq] at makes
    rw [← makes]
    exact output before
  case sources =>
    intro kind before
    have never := first _ before
    cases kind <;> cases never
  case later =>
    intro kind _
    have member : kind ∈ Source.Kind.all := by cases kind <;> decide
    exact spared _ (List.mem_append_left _ (List.mem_append_left _ (List.mem_map_of_mem member)))
  case schemas =>
    intro _ m member
    exact spared _ (List.mem_append_left _ (List.mem_append_right _
      (List.mem_flatMap.2 ⟨m, member, List.mem_cons_self⟩)))
  case requests =>
    rw [bare]
    cases failed <;> first | rfl | exact absurd early (by decide)
  case artifact => exact spared _ (List.mem_append_right _ (by simp))

/-- The two directories that are made first are there in the end. -/
theorem directories_kept {failBindings failBuild : Bool} {one : Disk} {allowed : Location → Prop}
    {outcome : Except Error Unit} {final : Progress} (unslashed : model.Unslashed)
    (free : one.LinkFree)
    (output : settings.outputPath.isEmpty = true ∨
      one.isDirectory here settings.outputPath = true)
    (adds : Adds allowed one two)
    (own : two.isDirectory here (model.directory settings.outputPath) = true)
    (ran : (Stage.runAll here settings model (.standIn failBindings failBuild)
      Stage.all).run.run ⟨two, [], {}⟩ = (outcome, final)) :
    (settings.outputPath.isEmpty = true ∨
      final.disk.isDirectory here settings.outputPath = true) ∧
    final.disk.isDirectory here (model.directory settings.outputPath) = true := by
  have freeTwo := adds.linkFree free
  by_cases inside : two.entryAt here = some .directory
  · have site := site_of_isDirectory freeTwo inside own
    have changes := stages_changes unslashed.inward freeTwo own ran
    have standing := changes.directory _ (output_standing unslashed.identity rfl site.standing)
    refine ⟨output.imp_right fun directory => ?_, (site.changes changes).isDirectory⟩
    exact (reaches_of_standing free directory
      ((adds.keeps here).trans (changes.keeps inside)) standing).2
  · rw [runAll_outside inside] at ran
    cases ran
    exact ⟨output.imp_right (isDirectory_adds adds), own⟩

/-- Without definitions nothing can be generated, and yet a directory appears at a place. -/
def LeavesDirectory (output : String) (path : Path) : Prop :=
  (sampleDisk []).LinkFree ∧
    summary (sampleRun output sampleModel (sampleDisk [])).1 = .error (some .generateManifest) ∧
    (sampleDisk []).entryAt (Location.follow ["w"] path) = none ∧
    (sampleRun output sampleModel (sampleDisk [])).2.disk.entryAt (Location.follow ["w"] path) =
      some .directory

instance (output : String) (path : Path) : Decidable (LeavesDirectory output path) :=
  inferInstanceAs (Decidable (_ ∧ _))

end ModelForge.Compile
