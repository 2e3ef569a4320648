import ModelForge.Proofs.Compile.Failure
import ModelForge.Proofs.Compile.History
import ModelForge.Proofs.Compile.Lockstep
import ModelForge.Proofs.Disk.Ensure

/-! A model compiled again. Whatever earlier attempts have left, a compilation that succeeds gives
what it would have given without them. -/
namespace ModelForge.Compile

open Disk

/-- An attempt at the same model with the same output and policy. -/
structure Job.Repeats (job last : Job) : Prop where
  model : job.model = last.model
  output : job.settings.outputPath = last.settings.outputPath
  policy : job.settings.copyPolicy = last.settings.copyPolicy

/-- The directory in which a job works when there are no links. -/
def Job.root (here : Location) (job : Job) : Location :=
  here.follow (job.model.directory job.settings.outputPath)

/-- Where files are staged that take the place of others, nothing lies that they would take over
more from than its name. -/
def Job.NeutralStaging (here : Location) (job : Job) (disk : Disk) : Prop :=
  job.settings.copyPolicy = .overwrite → ∀ m ∈ job.model.modules,
    Neutral (disk.entryAt (stagedName m.fileName :: "yang" :: job.root here))

variable {here root : Location} {settings : Settings} {model : Model} {job last : Job}
  {failBindings failBuild : Bool} {disk one two : Disk} {final : Progress}

theorem Stage.effect_settings {settings other : Settings} (stage : Stage)
    (output : settings.outputPath = other.outputPath)
    (policy : settings.copyPolicy = other.copyPolicy) (content : ByteArray) (view : View) :
    stage.effect settings model content view = stage.effect other model content view := by
  unfold Stage.effect Stage.base
  rw [output, policy]

/-- After any run of the stages, one that succeeds will leave what it would have left before. -/
theorem stages_lag {other : Settings} {outcome : Except Error Unit} (unslashed : model.Unslashed)
    (output : settings.outputPath = other.outputPath)
    (policy : settings.copyPolicy = other.copyPolicy)
    (site : two.Site here (model.directory settings.outputPath) root)
    (neutral : other.copyPolicy = .overwrite → ∀ m ∈ model.modules,
      Neutral (View.pair (two.view root) m.fileName).staged)
    (stages : (Stage.runAll here settings model (.standIn failBindings failBuild)
      Stage.all).run.run ⟨two, [], {}⟩ = (outcome, final)) :
    Lags other model Stage.all (two.view root) (final.disk.view root) ∧
      (other.copyPolicy = .overwrite → ∀ m ∈ model.modules,
        Neutral (View.pair (final.disk.view root) m.fileName).staged) := by
  refine (runAll_induct (fun disk =>
    Lags other model Stage.all (two.view root) (disk.view root) ∧
      (other.copyPolicy = .overwrite → ∀ m ∈ model.modules,
        Neutral (View.pair (disk.view root) m.fileName).staged))
    Stage.all [[]] Stage.placed_all (sites_of_site site)
    (fun stage _ => Stage.run_acts unslashed) ?_
    ⟨.refl other model Stage.all _, neutral⟩ stages).1
  rintro stage - progress result after acts ⟨lags, neutral⟩
  have effect := acts.effect
  cases text : stage.text here settings model failBindings failBuild progress.disk with
  | error error =>
    rw [text] at effect
    rw [effect.2]
    exact ⟨lags, neutral⟩
  | ok text' =>
    rw [text] at effect
    have leaves := congrArg Prod.snd effect
    rw [stage.effect_settings output policy] at leaves
    dsimp only at leaves
    rw [leaves]
    exact ⟨lags.rerun unslashed neutral, fun overwrites m member =>
      Stage.effect_neutral member (neutral overwrites m member)⟩

theorem staged_view (disk : Disk) (root : Location) (name : String) :
    (View.pair (disk.view root) name).staged =
      disk.entryAt (stagedName name :: "yang" :: root) := rfl

theorem Neutral.adds {allowed : Location → Prop} {location : Location}
    (neutral : Neutral (disk.entryAt location)) (adds : Adds allowed disk two) :
    Neutral (two.entryAt location) := by
  rcases adds location with same | ⟨-, made, -⟩
  · rwa [same]
  · rw [made]
    exact ⟨by simp, by simp⟩

/-- Whether the output directory needs no making: an empty path stands for none. -/
def OutputThere (here : Location) (output : Path) (disk : Disk) : Prop :=
  output.isEmpty = true ∨ disk.isDirectory here output = true

/-- An output directory that has been made is not made again. -/
theorem ensured_again {output : Path} (there : OutputThere here output disk) :
    disk.ensureDirectory here output = (.ok (), disk) := by
  rcases there with empty | directory
  · unfold ensureDirectory
    simp [empty]
  · exact ensureDirectory_of_isDirectory directory

theorem output_there {output : Path}
    (root : disk.ensureDirectory here output = (.ok (), one)) : OutputThere here output one := by
  by_cases empty : output.isEmpty = true
  · exact .inl empty
  · exact .inr ((ensureDirectory_spec root).2 rfl (by simpa using empty))

variable {output : Path}

/-- The two directories can be made again where they have been made, and only there. -/
theorem directories_again (free : disk.LinkFree) (inside : disk.entryAt here = some .directory)
    (root : disk.ensureDirectory here output = (.ok (), one)) {outcome : Except Fault Unit}
    (directory : one.ensureDirectory here (model.directory output) = (outcome, two))
    {one' two' : Disk} (root' : two.ensureDirectory here output = (.ok (), one'))
    (directory' : one'.ensureDirectory here (model.directory output) = (.ok (), two')) :
    outcome = .ok () := by
  have first := (ensureDirectory_spec root).1
  have second := (ensureDirectory_spec directory).1
  have kept := ensured_again ((output_there root).imp_right (isDirectory_adds second))
  rw [kept] at root'
  cases root'
  cases outcome with
  | ok => rfl
  | error fault =>
    have retry := ensureDirectory_retry (first.linkFree free) ((first.keeps here).directory _ inside)
      directory
    rw [directory'] at retry
    exact absurd rfl retry

/-- What one attempt has left makes no difference to a compilation that succeeds after it. -/
theorem compile_again {last : Settings} {failBindings' failBuild' : Bool} {made : Artifact}
    {outcome : Except Error Artifact} {middle : Progress}
    (output : settings.outputPath = last.outputPath)
    (policy : settings.copyPolicy = last.copyPolicy)
    (unslashed : model.Unslashed) (free : disk.LinkFree)
    (inside : disk.entryAt here = some .directory)
    (neutral : last.copyPolicy = .overwrite → ∀ m ∈ model.modules, Neutral (disk.entryAt
      (stagedName m.fileName :: "yang" :: here.follow (model.directory last.outputPath))))
    (defined : DefinedOutside here (here.follow (model.directory last.outputPath)) last)
    (earlier : compile here settings (.standIn failBindings failBuild) model disk =
      (outcome, middle))
    (compiled : compile here last (.standIn failBindings' failBuild') model middle.disk =
      (.ok made, final)) :
    compile here last (.standIn failBindings' failBuild') model disk = (.ok made, final) := by
  have accepted := accepted_of_compile compiled
  obtain ⟨rfl, one', two', root', directory', stages'⟩ := stages_of_compile compiled
  cases compile_course earlier with
  | refused => exact compiled
  | noRoot root =>
    rw [output] at root
    have retry := ensureDirectory_retry free inside root
    rw [root'] at retry
    exact absurd rfl retry
  | noDirectory root directory =>
    rw [output] at root directory
    cases directories_again free inside root directory root' directory'
  | @ran one two result _ root directory stages =>
    rw [output] at root directory
    have first := (ensureDirectory_spec root).1
    obtain ⟨second, there⟩ := ensureDirectory_spec directory
    have freeTwo := second.linkFree (first.linkFree free)
    have insideTwo := (second.keeps here).directory _ ((first.keeps here).directory _ inside)
    have own := there rfl (isEmpty_directory unslashed.inward _)
    have site := site_of_isDirectory freeTwo insideTwo own
    have own' := own
    have site' := site
    rw [← output] at own' site'
    have changes := stages_changes unslashed.inward freeTwo own' stages
    obtain ⟨output', directory''⟩ := directories_kept unslashed (first.linkFree free)
      (by rw [output]; exact output_there root) second own' stages
    rw [output] at changes output' directory''
    rw [ensured_again output'] at root'
    cases root'
    rw [ensureDirectory_of_isDirectory directory''] at directory'
    cases directory'
    refine compile_of_stages accepted root directory ?_
    have neutralTwo : last.copyPolicy = .overwrite → ∀ m ∈ model.modules, Neutral (View.pair
        (two.view (here.follow (model.directory last.outputPath))) m.fileName).staged := by
      intro overwrites m member
      rw [staged_view]
      exact ((neutral overwrites m member).adds first).adds second
    rw [← output] at neutralTwo
    have lags := (stages_lag unslashed output policy site' neutralTwo stages).1
    rw [output] at lags
    exact runAll_lockstep (d := ⟨middle.disk, [], {}⟩) unslashed Stage.all (by decide) [[]]
      Stage.placed_all defined freeTwo (sites_of_site site)
      (sites_of_site (site.changes changes)) rfl rfl changes.frame lags stages'

/-- An attempt puts nothing where files are staged that was not there before. -/
theorem Job.NeutralStaging.run (neutral : last.NeutralStaging here disk)
    (repeats : job.Repeats last) (unslashed : last.model.Unslashed) (free : disk.LinkFree)
    (inside : disk.entryAt here = some .directory) :
    last.NeutralStaging here (job.run here disk).2.disk := by
  intro overwrites m member
  have before := neutral overwrites m member
  have model := repeats.model
  rcases earlier : job.run here disk with ⟨outcome, middle⟩
  cases compile_course earlier with
  | refused => exact before
  | noRoot root => exact before.adds (ensureDirectory_spec root).1
  | noDirectory root directory =>
    exact (before.adds (ensureDirectory_spec root).1).adds (ensureDirectory_spec directory).1
  | @ran one two result _ root directory stages =>
    have first := (ensureDirectory_spec root).1
    obtain ⟨second, there⟩ := ensureDirectory_spec directory
    rw [model] at directory stages there
    have own := there rfl (isEmpty_directory unslashed.inward _)
    have site := site_of_isDirectory (second.linkFree (first.linkFree free))
      ((second.keeps here).directory _ ((first.keeps here).directory _ inside)) own
    have place : here.follow (last.model.directory job.settings.outputPath) = last.root here := by
      rw [Job.root, repeats.output]
    rw [place] at site
    have neutralTwo : last.settings.copyPolicy = .overwrite → ∀ m ∈ last.model.modules,
        Neutral (View.pair (two.view (last.root here)) m.fileName).staged := by
      intro overwrites m member
      rw [staged_view]
      exact ((neutral overwrites m member).adds first).adds second
    have later := (stages_lag unslashed repeats.output repeats.policy site neutralTwo stages).2
      overwrites m member
    rwa [staged_view] at later

section Instances

instance (staged : Option Entry) : Decidable (Neutral staged) :=
  match staged with
  | some (.device kind) => isFalse fun neutral => neutral.noDevice kind rfl
  | some (.file content true) => isFalse fun neutral => neutral.notExecutable content rfl
  | none | some .directory | some (.link _) | some (.file _ false) => isTrue ⟨by simp, by simp⟩

instance (here : Location) (job : Job) (disk : Disk) : Decidable (job.NeutralStaging here disk) :=
  inferInstanceAs (Decidable (_ → _))

instance (here root : Location) (settings : Settings) :
    Decidable (DefinedOutside here root settings) :=
  decidable_of_iff _ forall_definition_iff.symm

end Instances

/-- The sample as a job. -/
def sampleJob : Job := ⟨sampleModel, sampleSettings "o", false, false⟩

/-- Attempts at the sample: the build fails, and there is no definition to be found. -/
def sampleAttempts : List Job :=
  [⟨sampleModel, sampleSettings "o", false, true⟩,
    ⟨sampleModel, { sampleSettings "o" with templatePath := ⟨"gone"⟩ }, false, false⟩]

/-- A model is compiled once and once more with success, and that is not the same as once. -/
def Remembers (job : Job) (disk : Disk) (location : Location) : Prop :=
  job.model.validate = .ok () ∧ job.model.Unslashed ∧ disk.LinkFree ∧
    disk.entryAt ["w"] = some .directory ∧
    DefinedOutside ["w"] (job.root ["w"]) job.settings ∧
    summary (job.run ["w"] (after ["w"] [job] disk)).1 = .ok (artifact job.settings job.model) ∧
    (job.run ["w"] (after ["w"] [job] disk)).2.disk.entryAt location ≠
      (job.run ["w"] disk).2.disk.entryAt location

instance (job : Job) (disk : Disk) (location : Location) :
    Decidable (Remembers job disk location) :=
  inferInstanceAs (Decidable (_ ∧ _))

/-- The disk of the sample with something in the place where its schema file is staged. -/
def stagedDisk (entry : Entry) : Disk :=
  ((sampleDisk Source.Kind.all).ensureDirectory ["w"] ⟨"o/m_1/yang"⟩).2.put
    "a@1.yang.config-model.tmp" ["yang", "m_1", "o", "w"] entry

end ModelForge.Compile
