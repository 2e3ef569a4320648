import ModelForge.Proofs.Compile.History
import ModelForge.Proofs.Compile.Lockstep

/-! Schema files that existing files are skipped for. Once such a file is there, no compilation of
any model into any output changes it: what else a compilation writes has other names. -/
namespace ModelForge.Compile

open Disk

variable {here root parent below : Location} {settings : Settings} {model : Model} {stage : Stage}
  {name : String} {failBindings failBuild : Bool} {disk : Disk} {final : Progress}

/-- What schema files are told by. -/
def SchemaName (name : String) : Prop := ".yang".toList <:+ name.toList

instance (name : String) : Decidable (SchemaName name) :=
  inferInstanceAs (Decidable (_ <:+ _))

theorem SchemaName.append (text : String) : SchemaName (text ++ ".yang") :=
  ⟨text.toList, by simp⟩

theorem SchemaName.isName {text : String} (unslashed : '/' ∉ text.toList) :
    Path.IsName (text ++ ".yang") := by
  apply Path.IsName.of_mem (c := 'y')
  · simp
  · decide
  · simp [unslashed]

theorem SchemaName.ne_stagedName (schema : SchemaName name) (other : String) :
    name ≠ stagedName other := by
  rintro rfl
  obtain ⟨before, shape⟩ := schema
  have reversed := congrArg (fun text => text.reverse.head?) shape
  simp [stagedName] at reversed

theorem safeName_ne_yang (model : Model) : model.safeName ≠ "yang" := by
  intro same
  have underscore : '_' ∈ model.safeName.toList := by simp [Model.safeName_toList]
  rw [same] at underscore
  exact absurd underscore (by decide)

theorem Stage.fixed_unschema {within : Location} (fixed : stage.fixed? = some (name :: within)) :
    ¬SchemaName name := by
  have checked : ∀ stage ∈ all, ∀ place ∈ stage.fixed?, ∀ name ∈ place.head?,
      ¬SchemaName name := by
    decide
  exact checked stage (mem_all stage) _ fixed name rfl

/-- Of the places of a stage only those of schema files look like one. -/
theorem Stage.owns_schemaName (owns : stage.Owns model below) (schema : SchemaName name)
    (shape : below ++ model.safeName :: root = name :: "yang" :: parent) :
    stage = schemas ∧ below = [name, "yang"] := by
  obtain ⟨first, more, rfl⟩ := List.exists_cons_of_ne_nil (Stage.owns_ne_nil owns)
  obtain ⟨rfl, rest⟩ := List.cons.inj shape
  rcases Stage.owns_cases owns with fixed | ⟨rfl, tail⟩ | ⟨-, only⟩
  · exact absurd schema (Stage.fixed_unschema fixed)
  · exact ⟨rfl, congrArg _ tail⟩
  · obtain ⟨-, rfl⟩ := List.cons.inj only
    exact absurd (List.cons.inj rest).1 (safeName_ne_yang model)

/-- A schema file that is there stays as it is through every stage. -/
theorem Stage.Acts.frozen {progress : Progress} {result : Except Error Unit}
    (acts : stage.Acts here (model.safeName :: root) settings model failBindings failBuild progress
      result final) (unslashed : model.Unslashed) (skips : settings.copyPolicy = .skipExisting)
    (schema : SchemaName name)
    (present : progress.disk.entryAt (name :: "yang" :: parent) ≠ none) :
    final.disk.entryAt (name :: "yang" :: parent) =
      progress.disk.entryAt (name :: "yang" :: parent) := by
  by_cases place : stage.Places model (model.safeName :: root) (name :: "yang" :: parent)
  · obtain ⟨below, owns, shape⟩ := place
    obtain ⟨rfl, rfl⟩ := Stage.owns_schemaName owns schema shape.symm
    obtain rfl : parent = model.safeName :: root := by simpa using shape
    have leaves := congrArg Prod.snd acts.effect
    have kept := turns_kept (Stage.base settings model schemas)
      (v := progress.disk.view (model.safeName :: root)) model.modules unslashed.modules
      (fun m _ => schema.ne_stagedName m.fileName) present
    rw [← skips] at kept
    exact (congrFun leaves [name, "yang"]).trans kept
  · exact acts.changes.frame _ place

/-- Directories stay, and a process that stands in one that is gone sees nothing but a directory
in its place. -/
theorem compile_keeps {outcome : Except Error Artifact} (inward : model.Inward)
    (free : disk.LinkFree)
    (compiled : compile here settings (.standIn failBindings failBuild) model disk =
      (outcome, final)) : Keeps here disk final.disk := by
  cases compile_course compiled with
  | refused => exact .refl _ _
  | noRoot root => exact (ensureDirectory_spec root).1.keeps here
  | noDirectory root directory =>
    exact ((ensureDirectory_spec root).1.keeps here).trans
      ((ensureDirectory_spec directory).1.keeps here)
  | @ran one two result _ root directory stages =>
    have first := (ensureDirectory_spec root).1
    obtain ⟨second, there⟩ := ensureDirectory_spec directory
    refine ((first.keeps here).trans (second.keeps here)).trans ?_
    by_cases inside : two.entryAt here = some .directory
    · have changes := stages_changes inward (second.linkFree (first.linkFree free))
        (there rfl (isEmpty_directory inward _)) stages
      exact changes.keeps inside
    · rw [runAll_outside inside] at stages
      cases stages
      exact .refl _ _

/-- A schema file that is there stays as it is through a compilation that skips existing files. -/
theorem compile_frozen {outcome : Except Error Artifact} (unslashed : model.Unslashed)
    (free : disk.LinkFree) (skips : settings.copyPolicy = .skipExisting) (schema : SchemaName name)
    (present : disk.entryAt (name :: "yang" :: parent) ≠ none)
    (compiled : compile here settings (.standIn failBindings failBuild) model disk =
      (outcome, final)) :
    final.disk.entryAt (name :: "yang" :: parent) = disk.entryAt (name :: "yang" :: parent) := by
  have added : ∀ {allowed : Location → Prop} {old new : Disk}, Adds allowed old new →
      old.entryAt (name :: "yang" :: parent) ≠ none →
      new.entryAt (name :: "yang" :: parent) = old.entryAt (name :: "yang" :: parent) := by
    intro allowed old new adds present
    rcases adds (name :: "yang" :: parent) with same | ⟨absent, -⟩
    · exact same
    · exact absurd absent present
  cases compile_course compiled with
  | refused => rfl
  | noRoot root => exact added (ensureDirectory_spec root).1 present
  | noDirectory root directory =>
    have first := added (ensureDirectory_spec root).1 present
    rw [← first] at present ⊢
    exact added (ensureDirectory_spec directory).1 present
  | @ran one two result _ root directory stages =>
    have first := added (ensureDirectory_spec root).1 present
    rw [← first] at present ⊢
    obtain ⟨second, there⟩ := ensureDirectory_spec directory
    have next := added second present
    rw [← next] at present ⊢
    by_cases inside : two.entryAt here = some .directory
    · have own := there rfl (isEmpty_directory unslashed.inward _)
      have freeTwo := second.linkFree ((ensureDirectory_spec root).1.linkFree free)
      have site := site_of_isDirectory freeTwo inside own
      rw [Model.directory, Location.follow_child _ _ (Model.isName_safeName unslashed.identity)]
        at site
      refine (runAll_induct (fun disk => disk.entryAt (name :: "yang" :: parent) =
        two.entryAt (name :: "yang" :: parent)) Stage.all [[]] Stage.placed_all
        (sites_of_site site) (fun stage _ => Stage.run_acts unslashed) ?_ rfl stages).1
      rintro stage - progress result after acts same
      rw [acts.frozen unslashed skips schema (same ▸ present), same]
    · rw [runAll_outside inside] at stages
      cases stages
      rfl

/-- What a path to a file leads to is the same where directories and the file are kept. -/
theorem read_keeps {new : Disk} {path : Path} {location : Location} {content : ByteArray}
    {executable : Bool} (kept : Keeps here disk new)
    (located : disk.locate here path = .ok location)
    (found : disk.entryAt location = some (.file content executable))
    (same : new.entryAt location = disk.entryAt location) :
    new.isFile here path = true ∧ new.read here path = disk.read here path := by
  obtain ⟨clean, reaches⟩ := locate_eq_ok_iff.1 located
  have located' : new.locate here path = .ok location := locate_eq_ok_iff.2
    ⟨clean, reaches.keeps kept fun entry found => same.trans found⟩
  rw [found] at same
  exact ⟨isFile_iff.2 ⟨location, content, executable, located', same⟩,
    by simp [Disk.read, located, located', Disk.found, found, same]⟩

/-- Once there is a schema file, it is there with the same bytes after any further compilations
that skip existing files, of whatever models into whatever outputs, and however they end. -/
theorem schemaFile_frozen (earlier later : List Job) {disk : Disk}
    (skips : ∀ job ∈ earlier ++ later, job.settings.copyPolicy = .skipExisting)
    (unslashed : ∀ job ∈ earlier ++ later, job.model.Unslashed) (free : disk.LinkFree)
    (owner : Model) (output : Path) {text : String} (plain : '/' ∉ text.toList)
    (there : (after here earlier disk).isFile here
      ((owner.schemaDirectory output).child (text ++ ".yang")) = true) :
    (after here (earlier ++ later) disk).isFile here
        ((owner.schemaDirectory output).child (text ++ ".yang")) = true ∧
      (after here (earlier ++ later) disk).read here
          ((owner.schemaDirectory output).child (text ++ ".yang")) =
        (after here earlier disk).read here
          ((owner.schemaDirectory output).child (text ++ ".yang")) := by
  have freeOld : (after here earlier disk).LinkFree :=
    after_induct Disk.LinkFree earlier (fun job member disk free =>
      job.linkFree (unslashed job (List.mem_append_left _ member)).inward free) disk free
  obtain ⟨location, content, executable, located, found⟩ := Disk.isFile_iff.1 there
  have place : location = (text ++ ".yang") :: "yang" :: here.follow (owner.directory output) := by
    rw [(locate_eq_ok_iff.1 located).2.eq_follow freeOld,
      Location.follow_child _ _ (SchemaName.isName plain), follow_schemaDirectory]
  rw [after_append]
  generalize after here earlier disk = old at located found there freeOld
  obtain ⟨-, kept, same⟩ : (after here later old).LinkFree ∧ Keeps here old (after here later old) ∧
      (after here later old).entryAt location = old.entryAt location := by
    refine after_induct (fun new => new.LinkFree ∧ Keeps here old new ∧
      new.entryAt location = old.entryAt location) later ?_ old ⟨freeOld, .refl _ _, rfl⟩
    rintro job member new ⟨freeNew, kept, same⟩
    have plainJob := unslashed job (List.mem_append_right _ member)
    have ran := (Prod.eta (job.run here new)).symm
    refine ⟨job.linkFree plainJob.inward freeNew,
      kept.trans (compile_keeps plainJob.inward freeNew ran), ?_⟩
    have present : new.entryAt location ≠ none := by simp [same, found]
    rw [place] at present same ⊢
    rw [compile_frozen plainJob freeNew (skips job (List.mem_append_right _ member))
      (SchemaName.append text) present ran, same]
  exact read_keeps kept located found same

/-- The sample without overwriting, and the same with other data and a build that fails. -/
def skippingJobs : List Job :=
  [⟨sampleModel, { sampleSettings "o" with copyPolicy := .skipExisting }, false, false⟩,
    ⟨⟨"m", "1", [⟨"a", "1", none, "B".toUTF8⟩]⟩,
      { sampleSettings "o" with copyPolicy := .skipExisting }, false, true⟩]

set_option maxRecDepth 10000 in
theorem schemaFile_frozen_sample :
    (∀ job ∈ skippingJobs, job.settings.copyPolicy = .skipExisting) ∧
    (∀ job ∈ skippingJobs, job.model.Unslashed) ∧ (sampleDisk Source.Kind.all).LinkFree ∧
    '/' ∉ "a@1".toList ∧
    (after ["w"] (skippingJobs.take 1) (sampleDisk Source.Kind.all)).isFile ["w"]
      ((sampleModel.schemaDirectory ⟨"o"⟩).child ("a@1" ++ ".yang")) = true ∧
    (after ["w"] skippingJobs (sampleDisk Source.Kind.all)).read ["w"]
        ((sampleModel.schemaDirectory ⟨"o"⟩).child ("a@1" ++ ".yang")) =
      (after ["w"] (skippingJobs.take 1) (sampleDisk Source.Kind.all)).read ["w"]
        ((sampleModel.schemaDirectory ⟨"o"⟩).child ("a@1" ++ ".yang")) := by
  have skips : ∀ job ∈ skippingJobs, job.settings.copyPolicy = .skipExisting := by decide
  have unslashed : ∀ job ∈ skippingJobs, job.model.Unslashed := by decide
  have free : (sampleDisk Source.Kind.all).LinkFree := by decide +kernel
  have plain : '/' ∉ "a@1".toList := by decide
  have there : (after ["w"] (skippingJobs.take 1) (sampleDisk Source.Kind.all)).isFile ["w"]
      ((sampleModel.schemaDirectory ⟨"o"⟩).child ("a@1" ++ ".yang")) = true := by
    decide +kernel
  exact ⟨skips, unslashed, free, plain, there, (schemaFile_frozen (skippingJobs.take 1)
    (skippingJobs.drop 1) skips unslashed free sampleModel ⟨"o"⟩ plain there).2⟩

end ModelForge.Compile
