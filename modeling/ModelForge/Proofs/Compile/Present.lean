import ModelForge.Proofs.Compile.Kept

/-! Schema files that are there when the copying is over. Without links a path to a schema file
stands for one place, wherever the names in it lead; no turn takes away what lies at such a place,
as what a turn takes away has another last name. -/
namespace ModelForge

namespace Compile

open Disk

variable {disk new : Disk} {here : Location} {settings : Settings} {model : Model}
  {policy : CopyPolicy} {data : ByteArray}

theorem schemaFile_text (model : Model) (output : Path) (m : SchemaModule) :
    ∃ text, (model.schemaFile output m).text = text ++ ".yang" := by
  have named : m.fileName = m.identity.key ++ ".yang" := rfl
  unfold Model.schemaFile Path.child Path.join
  split
  · exact ⟨_, named⟩
  · split
    · exact ⟨(model.schemaDirectory output).text ++ m.identity.key, by
        simp [named, String.append_assoc]⟩
    · exact ⟨(model.schemaDirectory output).text ++ "/" ++ m.identity.key, by
        simp [named, String.append_assoc]⟩

/-- A turn that succeeds leaves something under the name of the file. -/
theorem writeSchema_present {path : Path} {text : String} (schema : path.text = text ++ ".yang")
    (free : disk.LinkFree) (inside : disk.entryAt here = some .directory) {outcome : SchemaWrite}
    (wrote : writeSchema disk here policy path data = (.ok outcome, new)) :
    ∃ name parent, SchemaName name ∧ new.Names here path name parent ∧
      new.entryAt (name :: parent) ≠ none := by
  obtain ⟨init, last, schemaName, pieces, pieces'⟩ := pieces_of_schemaText schema
  cases writeSchema_course wrote with
  | skipped skips present =>
    obtain ⟨parent, names, there⟩ := names_of_pathExists free pieces schemaName.proper present
    exact ⟨last, parent, schemaName, names, there⟩
  | @moved middle _ goes written renamed =>
    have first := write_spelled free written
    have free' := first.linkFree free
    obtain ⟨name, parent, name', parent', entry, fromName, toName, found, -⟩ :=
      rename_eq_ok renamed
    obtain ⟨rfl, source⟩ := names_of_plain pieces' (stagedName_proper last).1 fromName
    obtain ⟨rfl, target⟩ := names_of_plain pieces schemaName.proper.1 toName
    have differ : stagedName name' :: parent ≠ name' :: parent' := fun same =>
      stagedName_ne name' (List.cons.inj same).1
    obtain ⟨second, moved, -⟩ := rename_changes fromName toName differ (free' _) (free' _) renamed
    have inside' := first.directory _ inside
    exact ⟨name', parent', schemaName, target.keeps (second.keeps inside'), by
      rw [moved, found]
      simp⟩

/-- And no turn takes away what lies under the name of a schema file. -/
theorem writeSchema_stays {path : Path} {text : String} (schema : path.text = text ++ ".yang")
    (free : disk.LinkFree) (inside : disk.entryAt here = some .directory) {outcome : SchemaWrite}
    (wrote : writeSchema disk here policy path data = (.ok outcome, new)) {name : String}
    {parent : Location} (schemaName : SchemaName name)
    (present : disk.entryAt (name :: parent) ≠ none) :
    new.entryAt (name :: parent) ≠ none := by
  obtain ⟨init, last, -, -, pieces'⟩ := pieces_of_schemaText schema
  have free' : new.LinkFree := (writeSchema_spelled free wrote).linkFree free
  by_cases own : name :: parent = here.follow path
  · obtain ⟨name', parent', -, names, there⟩ := writeSchema_present schema free inside wrote
    rwa [own, ← names.eq_follow free']
  · have apart : name :: parent ≠ here.follow (stagingPath path) := by
      rw [follow_eq_spelled, pieces', spelled_append, spelled_name (stagedName_proper last)]
      exact fun same => schemaName.ne_stagedName last (List.cons.inj same).1
    rw [(writeSchema_spelled free wrote).frame _ (not_or.2 ⟨own, apart⟩)]
    exact present

/-- After the loop over the modules each file is there. -/
theorem copyModules_present (modules : List SchemaModule) {progress final : Progress}
    (free : progress.disk.LinkFree) (inside : progress.disk.entryAt here = some .directory)
    (ran : (copyModules here settings model modules).run.run progress = (.ok (), final)) :
    (final.disk.LinkFree ∧ Keeps here progress.disk final.disk) ∧
      (∀ name parent, SchemaName name → progress.disk.entryAt (name :: parent) ≠ none →
        final.disk.entryAt (name :: parent) ≠ none) ∧
      ∀ m ∈ modules, final.disk.pathExists here (model.schemaFile settings.outputPath m) = true := by
  induction modules generalizing progress with
  | nil =>
    cases ran
    exact ⟨⟨free, .refl _ _⟩, fun _ _ _ present => present, by simp⟩
  | cons m rest ih =>
    rw [run_copyModules_cons] at ran
    rcases wrote : writeSchema progress.disk here settings.copyPolicy
      (model.schemaFile settings.outputPath m) m.data with ⟨_ | outcome, disk⟩
    · rw [wrote] at ran
      cases ran
    rw [wrote] at ran
    obtain ⟨text, schema⟩ := schemaFile_text model settings.outputPath m
    have changes := writeSchema_spelled free wrote
    obtain ⟨name, parent, schemaName, names, there⟩ :=
      writeSchema_present schema free inside wrote
    obtain ⟨⟨free', kept⟩, stays, present⟩ :=
      ih (changes.linkFree free) (changes.directory _ inside) ran
    refine ⟨⟨free', (changes.keeps inside).trans kept⟩, ?_, ?_⟩
    · intro other parent' schemaName' there'
      exact stays other parent' schemaName'
        (writeSchema_stays schema free inside wrote schemaName' there')
    · intro other member
      rcases List.mem_cons.1 member with rfl | member
      · exact (names.keeps kept).pathExists free' (stays name parent schemaName there)
      · exact present other member

end Compile

end ModelForge
