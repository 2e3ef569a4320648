import ModelForge.Proofs.Disk.Lexical
import ModelForge.Proofs.Model.Names

/-! One schema file. Writing it touches the file and the name beside it under which the data are
staged, and nothing else in the directory. -/
namespace ModelForge.Compile

open Disk

/-- How the writing of a schema file can go. -/
inductive SchemaCourse (disk : Disk) (here : Location) (policy : CopyPolicy) (path : Path)
    (data : ByteArray) : Except Error SchemaWrite → Disk → Prop where
  | skipped (skips : policy = .skipExisting) (present : disk.pathExists here path = true) :
    SchemaCourse disk here policy path data (.ok .skipped) disk
  | notStaged {fault : Fault} (written : disk.write here (stagingPath path) data = .error fault) :
    SchemaCourse disk here policy path data
      (.error (.io .copyModules (stagingPath path) fault)) disk
  | moved {middle new : Disk}
    (goes : ¬(policy = .skipExisting ∧ disk.pathExists here path = true))
    (written : disk.write here (stagingPath path) data = .ok middle)
    (renamed : middle.rename here (stagingPath path) path = .ok new) :
    SchemaCourse disk here policy path data (.ok .written) new
  | notMoved {middle : Disk} {fault : Fault}
    (written : disk.write here (stagingPath path) data = .ok middle)
    (renamed : middle.rename here (stagingPath path) path = .error fault) :
    SchemaCourse disk here policy path data (.error (.io .copyModules path fault))
      (discard middle here (stagingPath path))

variable {disk new : Disk} {here root : Location} {base path : Path} {name : String}
  {policy : CopyPolicy} {data : ByteArray} {result : Except Error SchemaWrite}

theorem writeSchema_course (wrote : writeSchema disk here policy path data = (result, new)) :
    SchemaCourse disk here policy path data result new := by
  unfold writeSchema at wrote
  dsimp only at wrote
  split at wrote
  · rename_i skips
    cases wrote
    exact .skipped skips.1 skips.2
  split at wrote
  · cases wrote
    exact .notStaged ‹_›
  split at wrote
  · cases wrote
    exact .moved ‹_› ‹_› ‹_›
  · cases wrote
    exact .notMoved ‹_› ‹_›

theorem step?_of_writeSchema {error : Error}
    (wrote : writeSchema disk here policy path data = (.error error, new)) :
    error.step? = some .copyModules := by
  cases writeSchema_course wrote <;> rfl

/-- The two places that writing a schema file can touch. -/
def SchemaPlace (root : Location) (name : String) (location : Location) : Prop :=
  location = name :: root ∨ location = stagedName name :: root

section Site

theorem discard_changes (site : disk.Site here base root) (isName : Path.IsName name) :
    Changes (· = name :: root) disk (discard disk here (base.child name)) := by
  unfold discard
  split
  · rename_i unlinked
    exact (site.unlink isName unlinked).1
  · exact .refl _ _

theorem writeSchema_changes (site : disk.Site here base root) (isName : Path.IsName name)
    (wrote : writeSchema disk here policy (base.child name) data = (result, new)) :
    Changes (SchemaPlace root name) disk new := by
  have isStaged := isName_stagedName isName.unslashed
  have staging := stagingPath_child base isName.nonempty
  have course := writeSchema_course wrote
  have staged : ∀ {a b : Disk}, Changes (· = stagedName name :: root) a b →
      Changes (SchemaPlace root name) a b := fun changes => changes.mono fun _ => .inr
  cases course with
  | skipped => exact .refl _ _
  | notStaged => exact .refl _ _
  | moved goes written renamed =>
    rw [staging] at written renamed
    have first := (site.write_changes isStaged written).1
    exact (staged first).trans
      ((site.changes first).rename isStaged isName (stagedName_ne name) renamed).1
  | notMoved written =>
    rw [staging] at written ⊢
    have first := (site.write_changes isStaged written).1
    exact (staged first).trans (staged (discard_changes (site.changes first) isStaged))

/-- What a schema file holds afterwards, when nothing was staged beside it before. -/
theorem writeSchema_ok (site : disk.Site here base root) (isName : Path.IsName name)
    {outcome : SchemaWrite} (vacant : disk.entryAt (stagedName name :: root) = none)
    (wrote : writeSchema disk here policy (base.child name) data = (.ok outcome, new)) :
    new.entryAt (stagedName name :: root) = none ∧
      new.entryAt (name :: root) =
        if policy = .skipExisting ∧ disk.entryAt (name :: root) ≠ none
        then disk.entryAt (name :: root) else some (.file data false) := by
  have isStaged := isName_stagedName isName.unslashed
  have staging := stagingPath_child base isName.nonempty
  cases writeSchema_course wrote with
  | skipped skips present =>
    rw [if_pos ⟨skips, site.ne_none_of_pathExists isName present⟩]
    exact ⟨vacant, rfl⟩
  | moved goes written renamed =>
    rw [staging] at written renamed
    obtain ⟨first, -, holds⟩ := site.write_changes isStaged written
    obtain ⟨-, moved, gone, clean, short⟩ :=
      (site.changes first).rename isStaged isName (stagedName_ne name) renamed
    refine ⟨gone, ?_⟩
    rw [moved, holds vacant, if_neg]
    exact fun ⟨skips, found⟩ => goes ⟨skips, site.pathExists_of_ne_none isName clean short found⟩

end Site

/-- Without links, wherever the path leads. -/
theorem writeSchema_spelled (free : disk.LinkFree)
    (wrote : writeSchema disk here policy path data = (result, new)) :
    Changes (fun location => location = here.follow path ∨
      location = here.follow (stagingPath path)) disk new := by
  cases writeSchema_course wrote with
  | skipped => exact .refl _ _
  | notStaged => exact .refl _ _
  | moved goes written renamed =>
    have first := write_spelled free written
    have second := rename_spelled (first.linkFree free) renamed
    exact (first.mono fun _ => .inr).trans (second.mono fun _ => Or.symm)
  | notMoved written =>
    have first := write_spelled free written
    refine (first.mono fun _ => .inr).trans ?_
    unfold discard
    split
    · rename_i unlinked
      exact (unlink_spelled (first.linkFree free) unlinked).mono fun _ => .inr
    · exact .refl _ _

end ModelForge.Compile
