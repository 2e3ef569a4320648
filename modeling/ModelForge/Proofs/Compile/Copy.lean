import ModelForge.Proofs.Compile.Stage

/-! Copying the schema modules. Two modules can have one file name, so what a file holds in the
end depends on the order of the modules and on the policy. -/
namespace ModelForge.Compile

open Disk

/-- What the schema files of a model hold, by name: the data of the first module with that name
when existing files are skipped, those of the last one when they are written over. -/
def schemaData (policy : CopyPolicy) (modules : List SchemaModule) (name : String) :
    Option ByteArray :=
  match policy with
  | .skipExisting => (modules.find? (·.fileName = name)).map (·.data)
  | .overwrite => (modules.reverse.find? (·.fileName = name)).map (·.data)

/-- What one module's turn makes of the files. -/
def settleModule (policy : CopyPolicy) (files : String → Option ByteArray) (m : SchemaModule)
    (name : String) : Option ByteArray :=
  if name = m.fileName ∧ ¬(policy = .skipExisting ∧ (files name).isSome) then some m.data
  else files name

theorem foldl_settleModule (policy : CopyPolicy) (modules : List SchemaModule)
    (files : String → Option ByteArray) (name : String) :
    modules.foldl (settleModule policy) files name =
      match policy with
      | .skipExisting => (files name).or (schemaData policy modules name)
      | .overwrite => (schemaData policy modules name).or (files name) := by
  induction modules generalizing files with
  | nil => cases policy <;> simp [schemaData]
  | cons m rest ih =>
    rw [List.foldl_cons, ih]
    by_cases own : m.fileName = name
    · cases policy <;> cases h : files name <;> simp [schemaData, settleModule, own, h]
    · have other : ¬name = m.fileName := fun same => own same.symm
      cases policy <;> simp [schemaData, settleModule, own, other]

variable {here folder : Location} {settings : Settings} {model : Model}
  {progress final : Progress} {result : Except Error Unit}

theorem run_copyModules_cons (m : SchemaModule) (rest : List SchemaModule) :
    (copyModules here settings model (m :: rest)).run.run progress =
      match writeSchema progress.disk here settings.copyPolicy
        (model.schemaFile settings.outputPath m) m.data with
      | (.ok _, disk) => (copyModules here settings model rest).run.run { progress with disk }
      | (.error error, disk) => (.error error, { progress with disk }) := by
  rw [copyModules, Run.run_bind, Run.run_onDisk]
  rcases writeSchema progress.disk here settings.copyPolicy
    (model.schemaFile settings.outputPath m) m.data with ⟨_ | _, _⟩ <;> rfl

/-- The loop over the modules touches what each turn may touch, whatever the turns rely on. -/
theorem copyModules_changes {Good : Disk → Prop} {places : SchemaModule → Location → Prop}
    (modules : List SchemaModule)
    (keep : ∀ {a b allowed}, Changes allowed a b → Good a → Good b)
    (turn : ∀ m ∈ modules, ∀ {a b outcome}, Good a →
      writeSchema a here settings.copyPolicy (model.schemaFile settings.outputPath m) m.data =
        (outcome, b) → Changes (places m) a b)
    (good : Good progress.disk)
    (ran : (copyModules here settings model modules).run.run progress = (result, final)) :
    Changes (fun location => ∃ m ∈ modules, places m location) progress.disk final.disk ∧
      final.requests = progress.requests ∧
      ∀ error, result = .error error → error.step? = some .copyModules := by
  induction modules generalizing progress with
  | nil =>
    cases ran
    exact ⟨.refl _ _, rfl, by simp⟩
  | cons m rest ih =>
    have own : ∀ {a b : Disk}, Changes (places m) a b →
        Changes (fun location => ∃ m' ∈ m :: rest, places m' location) a b :=
      fun changes => changes.mono fun location place => ⟨m, List.mem_cons_self, place⟩
    rw [run_copyModules_cons] at ran
    split at ran
    · rename_i outcome disk wrote
      have first := turn m List.mem_cons_self good wrote
      obtain ⟨more, requests, failed⟩ :=
        ih (fun other member => turn other (List.mem_cons_of_mem _ member)) (keep first good) ran
      refine ⟨(own first).trans (more.mono ?_), requests, failed⟩
      rintro location ⟨other, member, place⟩
      exact ⟨other, List.mem_cons_of_mem _ member, place⟩
    · rename_i error disk wrote
      have first := turn m List.mem_cons_self good wrote
      cases ran
      refine ⟨own first, rfl, ?_⟩
      rintro _ ⟨⟩
      exact step?_of_writeSchema wrote

/-- The schema files of some modules hold given data, and nothing is staged beside them. -/
structure Settled (folder : Location) (modules : List SchemaModule)
    (files : String → Option ByteArray) (disk : Disk) : Prop where
  file : ∀ m ∈ modules, disk.entryAt (m.fileName :: folder) =
    (files m.fileName).map fun data => .file data false
  staged : ∀ m ∈ modules, disk.entryAt (stagedName m.fileName :: folder) = none

theorem Settled.writeSchema {modules : List SchemaModule} {files : String → Option ByteArray}
    {disk new : Disk} {m : SchemaModule} {outcome : SchemaWrite} {base : Path}
    {policy : CopyPolicy} (settled : Settled folder modules files disk)
    (site : disk.Site here base folder) (member : m ∈ modules) (unslashed : m.identity.Unslashed)
    (wrote : writeSchema disk here policy (base.child m.fileName) m.data = (.ok outcome, new)) :
    Settled folder modules (settleModule policy files m) new := by
  have isName := SchemaModule.isName_fileName unslashed
  have frame := (writeSchema_changes site isName wrote).frame
  obtain ⟨gone, holds⟩ := writeSchema_ok site isName (settled.staged m member) wrote
  constructor
  · intro other member'
    by_cases same : other.fileName = m.fileName
    · rw [same, holds, settled.file m member]
      by_cases skipped : policy = .skipExisting ∧ (files m.fileName).isSome
      · simp [settleModule, skipped, Option.isSome_iff_ne_none.1 skipped.2]
      · have goes : ¬(policy = .skipExisting ∧ files m.fileName ≠ none) := by
          rwa [← Option.isSome_iff_ne_none]
        simp [settleModule, goes, skipped]
    · have elsewhere : ¬SchemaPlace folder m.fileName (other.fileName :: folder) := by
        rintro (eq | eq)
        · exact same (List.cons.inj eq).1
        · exact fileName_ne_stagedName other m.fileName (List.cons.inj eq).1
      rw [frame _ elsewhere, settled.file other member']
      simp [settleModule, same]
  · intro other member'
    by_cases same : other.fileName = m.fileName
    · rw [same, gone]
    · have elsewhere : ¬SchemaPlace folder m.fileName (stagedName other.fileName :: folder) := by
        rintro (eq | eq)
        · exact fileName_ne_stagedName m other.fileName (List.cons.inj eq).1.symm
        · exact same (stagedName_injective (List.cons.inj eq).1)
      rw [frame _ elsewhere, settled.staged other member']

/-- What the schema files hold after a loop that has come to its end. -/
theorem copyModules_settled {modules : List SchemaModule} (rest : List SchemaModule)
    (sub : rest ⊆ modules) (unslashed : ∀ m ∈ modules, m.identity.Unslashed)
    {files : String → Option ByteArray}
    (settled : Settled folder modules files progress.disk)
    (site : progress.disk.Site here (model.schemaDirectory settings.outputPath) folder)
    (ran : (copyModules here settings model rest).run.run progress = (.ok (), final)) :
    Settled folder modules (rest.foldl (settleModule settings.copyPolicy) files) final.disk := by
  induction rest generalizing progress files with
  | nil =>
    cases ran
    exact settled
  | cons m rest ih =>
    have member := sub List.mem_cons_self
    rw [run_copyModules_cons] at ran
    split at ran
    · rename_i outcome disk wrote
      have isName := SchemaModule.isName_fileName (unslashed m member)
      refine ih (fun _ more => sub (List.mem_cons_of_mem _ more)) ?_ ?_ ran
      · exact settled.writeSchema site member (unslashed m member) wrote
      · exact site.changes (writeSchema_changes site isName wrote)
    · cases ran

end ModelForge.Compile
