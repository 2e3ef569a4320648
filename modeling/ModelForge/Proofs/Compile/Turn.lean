import ModelForge.Proofs.Compile.SchemaFile
import ModelForge.Proofs.Disk.Entry

/-! One module's turn as a function. What becomes of a schema file and of what is staged beside it
depends on these two entries alone. -/
namespace ModelForge.Compile

open Disk

/-- What is under the name of a schema file, and under the name beside it. -/
structure Pair where
  file : Option Entry
  staged : Option Entry
deriving DecidableEq

/-- The two entries of a schema file. -/
def pairAt (disk : Disk) (folder : Location) (name : String) : Pair :=
  ⟨disk.entryAt (name :: folder), disk.entryAt (stagedName name :: folder)⟩

/-- Whether a turn succeeds, and what it leaves. The names may be unfit to be looked for. -/
def turn (policy : CopyPolicy) (fits stagedFits : Bool) (data : ByteArray) (pair : Pair) :
    Bool × Pair :=
  if policy = .skipExisting ∧ fits = true ∧ pair.file ≠ none then (true, pair)
  else if stagedFits = true then
    match Entry.write pair.staged data with
    | .error _ => (false, pair)
    | .ok entry =>
      if pair.file = some .directory then (false, ⟨pair.file, none⟩)
      else (true, ⟨some entry, none⟩)
  else (false, pair)

variable {disk new : Disk} {here root : Location} {base : Path} {name : String}
  {policy : CopyPolicy} {data : ByteArray} {result : Except Error SchemaWrite}

def fits (base : Path) (name : String) : Bool := (nameFault? base name).isNone

theorem fits_iff : fits base name = true ↔ nameFault? base name = none := by
  simp [fits]

/-- A name that can be staged can be looked for. -/
theorem fits_of_staged (isName : Path.IsName name) (staged : fits base (stagedName name) = true) :
    fits base name = true := by
  have isStaged := isName_stagedName isName.unslashed
  rw [fits_iff, nameFault?_eq_none_iff] at staged ⊢
  obtain ⟨clean, short⟩ := staged
  have text : (base.child (stagedName name)).text =
      (base.child name).text ++ ".config-model.tmp" := by
    rw [Path.child_eq_stem base isName.unslashed, Path.child_eq_stem base isStaged.unslashed,
      stagedName, String.append_assoc]
  have size : (base.child name).text.utf8ByteSize ≤
      (base.child (stagedName name)).text.utf8ByteSize := by
    rw [text, String.utf8ByteSize_append]
    omega
  refine ⟨?_, ?_⟩
  · unfold textFault? at clean ⊢
    rw [Path.isEmpty_child base isName]
    split at clean
    · cases clean
    rename_i noNul
    split at clean
    · cases clean
    split at clean
    · cases clean
    rename_i notLong
    rw [if_neg, if_neg (by simp), if_neg (by omega)]
    intro nul
    exact noNul (by rw [text, String.toList_append]; exact List.mem_append_left _ nul)
  · have longer : name.utf8ByteSize ≤ (stagedName name).utf8ByteSize := by
      rw [stagedName, String.utf8ByteSize_append]
      omega
    omega

/-- Data that have been staged are moved to the file, unless a directory is there. -/
theorem writeSchema_staged (site : disk.Site here base root) (isName : Path.IsName name)
    (goes : ¬(policy = .skipExisting ∧ disk.pathExists here (base.child name) = true))
    (stagedFits : nameFault? base (stagedName name) = none) {entry : Entry}
    (stages : Entry.write (disk.entryAt (stagedName name :: root)) data = .ok entry)
    (wrote : writeSchema disk here policy (base.child name) data = (result, new)) :
    (result.toBool, pairAt new root name) =
      if disk.entryAt (name :: root) = some .directory
      then (false, ⟨disk.entryAt (name :: root), none⟩) else (true, ⟨some entry, none⟩) := by
  have isStaged := isName_stagedName isName.unslashed
  have named : nameFault? base name = none := fits_iff.1 (fits_of_staged isName
    (fits_iff.2 stagedFits))
  obtain ⟨plain, leaf⟩ := Entry.write_ok stages
  have written : disk.write here (base.child (stagedName name)) data =
      .ok (disk.put (stagedName name) root entry) := by
    rw [site.write_eq isStaged, stagedFits, stages]
    rfl
  have canPut : disk.CanPut (stagedName name) root := ⟨site.standing, leaf⟩
  have entries : ∀ location, (disk.put (stagedName name) root entry).entryAt location =
      if location = stagedName name :: root then some entry else disk.entryAt location :=
    entryAt_put canPut
  have changed : Changes (· = stagedName name :: root) disk
      (disk.put (stagedName name) root entry) :=
    put_changes (site.notLink (stagedName name)) fun target => plain.2 target
  generalize disk.put (stagedName name) root entry = middle at written entries changed
  have site' := site.changes changed
  have staged : middle.entryAt (stagedName name :: root) = some entry := by simp [entries]
  have same : middle.entryAt (name :: root) = disk.entryAt (name :: root) := by
    rw [entries, if_neg (by simp [(stagedName_ne name).symm])]
  have renamed := site'.rename_eq isStaged isName (stagedName_ne name) stagedFits named staged
    plain.1
  have away : middle.entryAt (stagedName name :: root) ≠ some .directory := by simp [staged, plain.1]
  have removed := entryAt_remove_leaf (by simp) away
  unfold writeSchema at wrote
  simp only [if_neg goes, stagingPath_child base isName.nonempty, written, renamed,
    same] at wrote
  by_cases occupied : disk.entryAt (name :: root) = some .directory
  · simp only [if_pos occupied, discard, site'.unlink_eq isStaged stagedFits staged plain.1]
      at wrote
    cases wrote
    simp [pairAt, removed, same, occupied, (stagedName_ne name).symm, Except.toBool]
  · simp only [if_neg occupied] at wrote
    cases wrote
    have canPut' : (middle.remove (stagedName name :: root)).CanPut name root := by
      refine ⟨by simp [removed, site'.standing], ?_⟩
      rw [removed, if_neg (by simp [(stagedName_ne name).symm]), same]
      exact occupied
    simp [pairAt, entryAt_put canPut', removed, occupied, stagedName_ne name, Except.toBool]

theorem writeSchema_turn (site : disk.Site here base root) (isName : Path.IsName name)
    (wrote : writeSchema disk here policy (base.child name) data = (result, new)) :
    (result.toBool, pairAt new root name) =
      turn policy (fits base name) (fits base (stagedName name)) data (pairAt disk root name) := by
  have isStaged := isName_stagedName isName.unslashed
  have present := site.pathExists_child_iff isName
  rw [← fits_iff] at present
  by_cases skips : policy = .skipExisting ∧ disk.pathExists here (base.child name) = true
  · unfold writeSchema at wrote
    rw [if_pos skips] at wrote
    cases wrote
    have kept := present.1 skips.2
    simp [turn, pairAt, skips.1, kept, Except.toBool]
  have goes : ¬(policy = .skipExisting ∧ fits base name = true ∧
      (pairAt disk root name).file ≠ none) := fun ⟨skip, fit⟩ => skips ⟨skip, present.2 fit⟩
  rw [turn, if_neg goes]
  cases stagedFits : nameFault? base (stagedName name) with
  | some fault =>
    have failed : disk.write here (base.child (stagedName name)) data = .error fault := by
      rw [site.write_eq isStaged, stagedFits]
    unfold writeSchema at wrote
    simp only [if_neg skips, stagingPath_child base isName.nonempty, failed] at wrote
    cases wrote
    simp [fits, stagedFits, Except.toBool]
  | none =>
    rw [if_pos (fits_iff.2 stagedFits)]
    cases stages : Entry.write (pairAt disk root name).staged data with
    | error fault =>
      have failed : disk.write here (base.child (stagedName name)) data = .error fault := by
        rw [site.write_eq isStaged, stagedFits]
        simp only [pairAt] at stages
        simp [stages, Except.map]
      unfold writeSchema at wrote
      simp only [if_neg skips, stagingPath_child base isName.nonempty, failed]
        at wrote
      cases wrote
      simp [Except.toBool]
    | ok entry => exact writeSchema_staged site isName skips stagedFits stages wrote

end ModelForge.Compile
