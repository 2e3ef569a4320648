import ModelForge.Proofs.Disk.Entry

/-! Two disks of one shape: they hold the same names, directories, links and devices, and at some
places files that differ in what they hold. No operation on names tells them apart, and neither does
a write, unless it is the one write that a device refuses and the other is not. -/
namespace ModelForge

/-- Two entries that differ at most in what a file holds. -/
inductive Entry.Alike : Option Entry → Option Entry → Prop where
  | refl (entry : Option Entry) : Alike entry entry
  | file (content content' : ByteArray) (executable : Bool) :
    Alike (some (.file content executable)) (some (.file content' executable))

namespace Entry.Alike

variable {x y : Option Entry}

theorem none_iff (alike : Alike x y) : y = none ↔ x = none := by
  cases alike <;> simp

theorem directory_iff (alike : Alike x y) : y = some .directory ↔ x = some .directory := by
  cases alike <;> simp

theorem link_iff (alike : Alike x y) (target : Path) :
    y = some (.link target) ↔ x = some (.link target) := by
  cases alike <;> simp

/-- What is written does not depend on what was there. -/
theorem write_eq (alike : Alike x y) (content : ByteArray) :
    Entry.write y content = Entry.write x content := by
  cases alike <;> rfl

end Entry.Alike

/-- Two contents go into the same entry in the same way if a device without room does not tell them
apart. -/
theorem Entry.write_cases_alike {before : Option Entry} {content content' : ByteArray}
    (room : before = some (.device .full) → content.isEmpty = content'.isEmpty) :
    (∃ fault, Entry.write before content = .error fault ∧
        Entry.write before content' = .error fault) ∨
      ∃ entry entry', Entry.write before content = .ok entry ∧
        Entry.write before content' = .ok entry' ∧ Alike (some entry) (some entry') := by
  cases before with
  | none => exact .inr ⟨_, _, rfl, rfl, .file _ _ _⟩
  | some entry =>
    cases entry with
    | directory => exact .inl ⟨_, rfl, rfl⟩
    | link target => exact .inl ⟨_, rfl, rfl⟩
    | file old executable => exact .inr ⟨_, _, rfl, rfl, .file _ _ _⟩
    | device kind =>
      cases kind with
      | null => exact .inr ⟨_, _, rfl, rfl, .refl _⟩
      | full =>
        have both := room rfl
        cases empty : content.isEmpty with
        | true =>
          rw [empty] at both
          exact .inr ⟨.device .full, .device .full, by simp [write, empty], by simp [write, ← both],
            .refl _⟩
        | false =>
          rw [empty] at both
          exact .inl ⟨.noSpace, by simp [write, empty], by simp [write, ← both]⟩

namespace Disk

/-- Two disks differ at most in what some files hold, all of them at `loose` places. -/
structure SameShape (loose : Location → Prop) (a b : Disk) : Prop where
  alike : ∀ location, Entry.Alike (a.entryAt location) (b.entryAt location)
  tight : ∀ location, ¬loose location → b.entryAt location = a.entryAt location

namespace SameShape

variable {loose : Location → Prop} {a b : Disk} {name : String} {parent : Location}

theorem refl (loose : Location → Prop) (disk : Disk) : SameShape loose disk disk :=
  ⟨fun _ => .refl _, fun _ _ => rfl⟩

theorem changes (same : SameShape loose a b) : Changes loose a b where
  frame := same.tight
  directory location := (same.alike location).directory_iff.2
  link location := (same.alike location).link_iff

theorem canPut_iff (same : SameShape loose a b) : b.CanPut name parent ↔ a.CanPut name parent :=
  and_congr (same.alike parent).directory_iff (not_congr (same.alike (name :: parent)).directory_iff)

theorem put (same : SameShape loose a b) {entry entry' : Entry}
    (alike : Entry.Alike (some entry) (some entry'))
    (tight : ¬loose (name :: parent) → entry' = entry) :
    SameShape loose (a.put name parent entry) (b.put name parent entry') := by
  by_cases can : a.CanPut name parent
  · constructor
    · intro location
      rw [entryAt_put can, entryAt_put (same.canPut_iff.2 can)]
      split
      · exact alike
      · exact same.alike location
    · intro location outside
      rw [entryAt_put can, entryAt_put (same.canPut_iff.2 can)]
      split
      · rename_i own
        rw [tight (own ▸ outside)]
      · exact same.tight location outside
  · rw [Disk.put, Disk.put, dif_neg can, dif_neg fun other => can (same.canPut_iff.1 other)]
    exact same

theorem remove (same : SameShape loose a b) {location : Location} (below : location ≠ []) :
    SameShape loose (a.remove location) (b.remove location) := by
  constructor
  · intro other
    rw [entryAt_remove below, entryAt_remove below]
    split
    · exact .refl _
    · exact same.alike other
  · intro other outside
    rw [entryAt_remove below, entryAt_remove below, same.tight other outside]

end SameShape

/-- Both fail for the same reason, or both succeed and leave disks of one shape. -/
inductive ShapedAlike (loose : Location → Prop) : Except Fault Disk → Except Fault Disk → Prop where
  | failed (fault : Fault) : ShapedAlike loose (.error fault) (.error fault)
  | done {a b : Disk} (same : SameShape loose a b) : ShapedAlike loose (.ok a) (.ok b)

theorem ShapedAlike.ends {loose : Location → Prop} {x y : Except Fault Disk}
    (alike : ShapedAlike loose x y) :
    (∃ fault, x = .error fault ∧ y = .error fault) ∨
      ∃ a b, x = .ok a ∧ y = .ok b ∧ SameShape loose a b := by
  cases alike with
  | failed fault => exact .inl ⟨fault, rfl, rfl⟩
  | done same => exact .inr ⟨_, _, rfl, rfl, same⟩

section Child

variable {loose : Location → Prop} {a b : Disk} {here root : Location} {base : Path} {name : String}
  {content content' : ByteArray} (same : SameShape loose a b) (site : a.Site here base root)
include same site

theorem write_shaped (isName : Path.IsName name)
    (room : a.entryAt (name :: root) = some (.device .full) →
      content.isEmpty = content'.isEmpty)
    (tight : ¬loose (name :: root) → content' = content) :
    ShapedAlike loose (a.write here (base.child name) content)
      (b.write here (base.child name) content') := by
  rw [site.write_eq isName, (site.changes same.changes).write_eq isName,
    (same.alike (name :: root)).write_eq]
  cases nameFault? base name with
  | some fault => exact .failed fault
  | none =>
    dsimp only
    rcases Entry.write_cases_alike room with
      ⟨fault, failed, failed'⟩ | ⟨entry, entry', wrote, wrote', alike⟩
    · rw [failed, failed']
      exact .failed fault
    · rw [wrote, wrote']
      refine .done (same.put alike fun outside => ?_)
      rw [tight outside, wrote] at wrote'
      exact (Except.ok.inj wrote').symm

theorem pathExists_shaped (isName : Path.IsName name) :
    b.pathExists here (base.child name) = a.pathExists here (base.child name) := by
  rw [Bool.eq_iff_iff, (site.changes same.changes).pathExists_child_iff isName,
    site.pathExists_child_iff isName, ne_eq, ne_eq, (same.alike (name :: root)).none_iff]

theorem unlink_shaped (isName : Path.IsName name) :
    ShapedAlike loose (a.unlink here (base.child name)) (b.unlink here (base.child name)) := by
  unfold Disk.unlink
  rw [site.reachName_eq isName, (site.changes same.changes).reachName_eq isName]
  cases nameFault? base name with
  | some fault => exact .failed fault
  | none =>
    dsimp only
    have removed : SameShape loose (a.remove (name :: root)) (b.remove (name :: root)) :=
      same.remove (by simp)
    have alike := same.alike (name :: root)
    generalize a.entryAt (name :: root) = x at alike ⊢
    generalize b.entryAt (name :: root) = y at alike ⊢
    cases alike with
    | file => exact .done removed
    | refl =>
      cases x with
      | none => exact .failed _
      | some entry => cases entry with
        | directory => exact .failed _
        | _ => exact .done removed

theorem rename_shaped {other : String} (isName : Path.IsName name) (isOther : Path.IsName other)
    (loosened : loose (other :: root)) :
    ShapedAlike loose (a.rename here (base.child name) (base.child other))
      (b.rename here (base.child name) (base.child other)) := by
  have siteB := site.changes same.changes
  unfold Disk.rename
  rw [site.reachName_eq isName, siteB.reachName_eq isName, site.reachName_eq isOther,
    siteB.reachName_eq isOther]
  cases nameFault? base name with
  | some fault => exact .failed fault
  | none =>
    cases nameFault? base other with
    | some fault => exact .failed fault
    | none =>
      dsimp only
      have moved : ∀ entry entry', Entry.Alike (some entry) (some entry') → ShapedAlike loose
          (if name :: root = other :: root then .ok a
            else .ok ((a.remove (name :: root)).put other root entry))
          (if name :: root = other :: root then .ok b
            else .ok ((b.remove (name :: root)).put other root entry')) := by
        intro entry entry' alike
        split
        · exact .done same
        · exact .done ((same.remove (by simp)).put alike fun outside => absurd loosened outside)
      have alike := same.alike (name :: root)
      have alike' := same.alike (other :: root)
      generalize a.entryAt (name :: root) = x at alike ⊢
      generalize b.entryAt (name :: root) = y at alike ⊢
      generalize a.entryAt (other :: root) = x' at alike' ⊢
      generalize b.entryAt (other :: root) = y' at alike' ⊢
      -- A file is moved unless a directory is in the way, and so is what is neither.
      cases alike with
      | file =>
        cases alike' with
        | file => exact moved _ _ (.file _ _ _)
        | refl =>
          rcases x' with _ | ⟨⟩ | _ | _ | _
          case some.directory => exact .failed _
          all_goals exact moved _ _ (.file _ _ _)
      | refl =>
        rcases x with _ | ⟨⟩ | _ | _ | _
        case none => exact .failed _
        case some.directory => exact .failed _
        all_goals
          cases alike' with
          | file => exact moved _ _ (.refl _)
          | refl =>
            rcases x' with _ | ⟨⟩ | _ | _ | _
            case some.directory => exact .failed _
            all_goals exact moved _ _ (.refl _)

end Child

end Disk

end ModelForge
