import ModelForge.Proofs.Disk.Agreement
import ModelForge.Proofs.Disk.Entry

/-! Two disks that are the same but for one directory. Work inside another directory ends in the
same way on both, for the same reason if it fails, and they stay the same but for that one. -/
namespace ModelForge.Disk

/-- Two disks hold the same at every place that is neither a certain one nor below it. -/
def SameBut (away : Location) (a b : Disk) : Prop :=
  ∀ location, ¬away <:+ location → b.entryAt location = a.entryAt location

namespace SameBut

variable {away : Location} {a b : Disk}

theorem put (same : SameBut away a b) {name : String} {parent : Location}
    (off : ¬away <:+ name :: parent) (entry : Entry) :
    SameBut away (a.put name parent entry) (b.put name parent entry) := by
  have offParent : ¬away <:+ parent := fun higher => off (higher.trans (List.suffix_cons _ _))
  have canPut : b.CanPut name parent ↔ a.CanPut name parent := by
    rw [CanPut, CanPut, same _ off, same _ offParent]
  intro location offLocation
  by_cases can : a.CanPut name parent
  · rw [entryAt_put can, entryAt_put (canPut.2 can), same location offLocation]
  · rw [Disk.put, Disk.put, dif_neg can, dif_neg fun other => can (canPut.1 other)]
    exact same location offLocation

theorem remove (same : SameBut away a b) {location : Location} (below : location ≠ []) :
    SameBut away (a.remove location) (b.remove location) := by
  intro other off
  rw [entryAt_remove below, entryAt_remove below, same other off]

end SameBut

/-- Both fail for the same reason, or both succeed and the disks are the same but for a
directory. -/
inductive Alike (away : Location) : Except Fault Disk → Except Fault Disk → Prop
  | failed (fault : Fault) : Alike away (.error fault) (.error fault)
  | done {a b : Disk} (same : SameBut away a b) : Alike away (.ok a) (.ok b)

theorem Alike.ends {away : Location} {x y : Except Fault Disk} (alike : Alike away x y) :
    (∃ fault, x = .error fault ∧ y = .error fault) ∨
      ∃ a b, x = .ok a ∧ y = .ok b ∧ SameBut away a b := by
  cases alike with
  | failed fault => exact .inl ⟨fault, rfl, rfl⟩
  | done same => exact .inr ⟨_, _, rfl, rfl, same⟩

section Child

variable {away here root : Location} {a b : Disk} {base : Path} {name : String}

theorem ensureDirectory_alike (same : SameBut away a b) (isName : Path.IsName name)
    (off : ¬away <:+ name :: root) (reachesA : a.Reaches here base root)
    (reachesB : b.Reaches here base root) (standing : a.entryAt root = some .directory)
    (freeA : a.LinkFree) (freeB : b.LinkFree) :
    (b.ensureDirectory here (base.child name)).1 = (a.ensureDirectory here (base.child name)).1 ∧
      SameBut away (a.ensureDirectory here (base.child name)).2
        (b.ensureDirectory here (base.child name)).2 := by
  have offRoot : ¬away <:+ root := fun higher => off (higher.trans (List.suffix_cons _ _))
  rw [reachesA.ensureDirectory_child isName standing (freeA _),
    reachesB.ensureDirectory_child isName ((same _ offRoot).trans standing) (freeB _), same _ off]
  cases nameFault? base name with
  | some fault => exact ⟨rfl, same⟩
  | none =>
    cases a.entryAt (name :: root) with
    | none => exact ⟨rfl, same.put off _⟩
    | some entry => cases entry <;> exact ⟨rfl, same⟩

variable (same : SameBut away a b) (siteA : a.Site here base root) (siteB : b.Site here base root)
include same siteA siteB

theorem write_alike (isName : Path.IsName name) (off : ¬away <:+ name :: root)
    (content : ByteArray) :
    Alike away (a.write here (base.child name) content)
      (b.write here (base.child name) content) := by
  rw [siteA.write_eq isName, siteB.write_eq isName, same _ off]
  cases nameFault? base name with
  | some fault => exact .failed fault
  | none =>
    cases Entry.write (a.entryAt (name :: root)) content with
    | error fault => exact .failed fault
    | ok entry => exact .done (same.put off entry)

theorem pathExists_alike (isName : Path.IsName name) (off : ¬away <:+ name :: root) :
    b.pathExists here (base.child name) = a.pathExists here (base.child name) := by
  rw [Bool.eq_iff_iff, siteA.pathExists_child_iff isName, siteB.pathExists_child_iff isName,
    same _ off]

theorem unlink_alike (isName : Path.IsName name) (off : ¬away <:+ name :: root) :
    Alike away (a.unlink here (base.child name)) (b.unlink here (base.child name)) := by
  unfold Disk.unlink
  rw [siteA.reachName_eq isName, siteB.reachName_eq isName]
  cases nameFault? base name with
  | some fault => exact .failed fault
  | none =>
    dsimp only
    rw [same _ off]
    cases a.entryAt (name :: root) with
    | none => exact .failed _
    | some entry =>
      cases entry with
      | directory => exact .failed _
      | _ => exact .done (same.remove (by simp))

theorem rename_alike {other : String} (isName : Path.IsName name) (isOther : Path.IsName other)
    (off : ¬away <:+ name :: root) (offOther : ¬away <:+ other :: root) :
    Alike away (a.rename here (base.child name) (base.child other))
      (b.rename here (base.child name) (base.child other)) := by
  unfold Disk.rename
  rw [siteA.reachName_eq isName, siteB.reachName_eq isName, siteA.reachName_eq isOther,
    siteB.reachName_eq isOther]
  cases nameFault? base name with
  | some fault => exact .failed fault
  | none =>
    cases nameFault? base other with
    | some fault => exact .failed fault
    | none =>
      dsimp only
      rw [same _ off, same _ offOther]
      have moved : ∀ entry, Alike away
          (if name :: root = other :: root then .ok a
            else .ok ((a.remove (name :: root)).put other root entry))
          (if name :: root = other :: root then .ok b
            else .ok ((b.remove (name :: root)).put other root entry)) := by
        intro entry
        split
        · exact .done same
        · exact .done ((same.remove (by simp)).put offOther entry)
      cases a.entryAt (name :: root) with
      | none => exact .failed _
      | some entry =>
        cases entry with
        | directory => exact .failed _
        | _ =>
          cases a.entryAt (other :: root) with
          | none => exact moved _
          | some present =>
            cases present with
            | directory => exact .failed _
            | _ => exact moved _

end Child

end ModelForge.Disk
