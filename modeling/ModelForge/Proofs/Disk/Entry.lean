import ModelForge.Proofs.Disk.Site

/-! One name in a directory without links. What an operation makes of it depends on nothing but the
entry under the name and on whether the name and the whole path are short enough. -/
namespace ModelForge

/-- What is there after a content was written. A file keeps its permission to run, a device stays
what it is. -/
def Entry.write : Option Entry → ByteArray → Except Fault Entry
  | none, content => .ok (.file content false)
  | some (.file _ executable), content => .ok (.file content executable)
  | some (.device .null), _ => .ok (.device .null)
  | some (.device .full), content =>
    if content.isEmpty then .ok (.device .full) else .error .noSpace
  | some .directory, _ => .error .isADirectory
  | some (.link _), _ => .error .notFound

/-- Files and devices can be written, and stay files and devices. -/
theorem Entry.write_ok {before : Option Entry} {content : ByteArray} {entry : Entry}
    (written : Entry.write before content = .ok entry) :
    (entry ≠ .directory ∧ ∀ target, entry ≠ .link target) ∧ before ≠ some .directory := by
  unfold Entry.write at written
  split at written
  case h_4 =>
    split at written <;> cases written
    simp
  all_goals
    cases written <;> simp

theorem Entry.write_device {kind : Device} {content : ByteArray} {entry : Entry}
    (written : Entry.write (some (.device kind)) content = .ok entry) : entry = .device kind := by
  cases kind with
  | null => exact (Except.ok.inj written).symm
  | full =>
    rw [Entry.write] at written
    split at written <;> cases written
    rfl

/-- Whatever is no device holds the content. -/
theorem Entry.write_content {before : Option Entry} {content : ByteArray} {entry : Entry}
    (written : Entry.write before content = .ok entry)
    (noDevice : ∀ kind, before ≠ some (.device kind)) :
    ∃ executable, entry = .file content executable := by
  unfold Entry.write at written
  split at written
  case h_3 | h_4 => exact absurd rfl (noDevice _)
  all_goals cases written
  all_goals exact ⟨_, rfl⟩

namespace Disk

/-- Why a name cannot be looked for in the directory to which a path leads. -/
def nameFault? (base : Path) (name : String) : Option Fault :=
  match textFault? (base.child name) with
  | some fault => some fault
  | none => if nameLimit < name.utf8ByteSize then some .nameTooLong else none

theorem nameFault?_eq_none_iff {base : Path} {name : String} :
    nameFault? base name = none ↔
      textFault? (base.child name) = none ∧ ¬nameLimit < name.utf8ByteSize := by
  unfold nameFault?
  cases textFault? (base.child name) with
  | some fault => simp
  | none => by_cases long : nameLimit < name.utf8ByteSize <;> simp [long]

/-- A joined path is not empty, so the name is never the one thing missing. -/
theorem nameFault?_ne_notFound {base : Path} {name : String} (isName : Path.IsName name) :
    nameFault? base name ≠ some .notFound := by
  unfold nameFault? textFault?
  rw [Path.isEmpty_child base isName]
  by_cases nul : '\x00' ∈ (base.child name).text.toList <;>
    by_cases long : pathLimit < (base.child name).text.utf8ByteSize <;>
      by_cases longName : nameLimit < name.utf8ByteSize <;> simp [nul, long, longName]

theorem put_self {disk : Disk} {name : String} {parent : Location} {entry : Entry}
    (present : disk.entryAt (name :: parent) = some entry) : disk.put name parent entry = disk := by
  by_cases canPut : disk.CanPut name parent
  · apply ext_entryAt
    intro location
    rw [entryAt_put canPut]
    split
    · rename_i own
      rw [own, present]
    · rfl
  · rw [put, dif_neg canPut]

/-- What is put at the place of a name depends on the entry there. -/
theorem store_eq {disk : Disk} (name : String) (parent : Location) (content : ByteArray) :
    disk.store content none (if disk.entryAt (name :: parent) = none then .vacant name parent
        else .taken (name :: parent)) =
      (Entry.write (disk.entryAt (name :: parent)) content).map (disk.put name parent) := by
  cases present : disk.entryAt (name :: parent) with
  | none => simp [store, Entry.write, Except.map]
  | some entry =>
    cases entry with
    | directory | link | file => simp [store, found, present, Entry.write, Except.map]
    | device kind =>
      cases kind with
      | null => simp [store, found, present, Entry.write, Except.map, put_self present]
      | full =>
        by_cases empty : content.isEmpty <;>
          simp [store, found, present, Entry.write, Except.map, empty, put_self present]

/-- Moving what one path names to the name of another. -/
theorem rename_eq_of_plain {disk : Disk} {here : Location} {source target : Path}
    {name name' : String} {parent parent' : Location}
    (fromName : disk.reachName here source = .ok (.plain name parent))
    (toName : disk.reachName here target = .ok (.plain name' parent'))
    (differ : name :: parent ≠ name' :: parent') {entry : Entry}
    (present : disk.entryAt (name :: parent) = some entry) (leaf : entry ≠ .directory) :
    disk.rename here source target =
      if disk.entryAt (name' :: parent') = some .directory then .error .isADirectory
      else .ok ((disk.remove (name :: parent)).put name' parent' entry) := by
  unfold rename
  simp only [fromName, toName, present]
  by_cases occupied : disk.entryAt (name' :: parent') = some .directory
  · cases entry <;> simp_all
  · cases entry <;> simp_all

theorem unlink_eq_of_plain {disk : Disk} {here : Location} {path : Path} {name : String}
    {parent : Location} (named : disk.reachName here path = .ok (.plain name parent))
    {entry : Entry} (present : disk.entryAt (name :: parent) = some entry)
    (leaf : entry ≠ .directory) :
    disk.unlink here path = .ok (disk.remove (name :: parent)) := by
  unfold unlink
  simp only [named, present]

section Child

variable {disk : Disk} {here root : Location} {base : Path} {name : String}

theorem Reaches.isDirectory_child_iff (reaches : disk.Reaches here base root)
    (isName : Path.IsName name)
    (notLink : ∀ target, disk.entryAt (name :: root) ≠ some (.link target)) :
    disk.isDirectory here (base.child name) = true ↔
      nameFault? base name = none ∧ disk.entryAt (name :: root) = some .directory := by
  constructor
  · intro directory
    obtain ⟨place, clean, reaches', found⟩ := isDirectory_iff.1 directory
    obtain ⟨-, short, ⟨-, vacant⟩ | ⟨present, taken⟩⟩ :=
      reach_child reaches isName notLink (reaches'.reach clean)
    · cases vacant
    · obtain rfl := Place.taken.inj taken
      exact ⟨nameFault?_eq_none_iff.2 ⟨clean, short⟩,
        (found_eq_directory_iff.1 found).resolve_left present⟩
  · rintro ⟨fits, there⟩
    obtain ⟨clean, short⟩ := nameFault?_eq_none_iff.1 fits
    exact isDirectory_iff.2 ⟨_, clean, reaches.child isName short there (by simp),
      found_eq_directory_iff.2 (.inr there)⟩

/-- Making a directory in one that is there, whether the path to that is empty or not. -/
theorem Reaches.ensureDirectory_child (reaches : disk.Reaches here base root)
    (isName : Path.IsName name) (standing : disk.entryAt root = some .directory)
    (notLink : ∀ target, disk.entryAt (name :: root) ≠ some (.link target)) :
    disk.ensureDirectory here (base.child name) =
      match nameFault? base name with
      | some fault => (.error fault, disk)
      | none =>
        match disk.entryAt (name :: root) with
        | none => (.ok (), disk.put name root .directory)
        | some .directory => (.ok (), disk)
        | some _ => (.error .alreadyExists, disk) := by
  have nonempty := Path.isEmpty_child base isName
  have directory := reaches.isDirectory_child_iff isName notLink
  have made : disk.makeDirectory here (base.child name) =
      match nameFault? base name with
      | some fault => .error fault
      | none => if (disk.entryAt (name :: root)).isSome then .error .alreadyExists
          else .ok (disk.put name root .directory) := by
    rw [makeDirectory, create, reachName_child reaches isName standing, nameFault?]
    cases textFault? (base.child name) with
    | some fault => rfl
    | none => by_cases long : nameLimit < name.utf8ByteSize <;> simp [long]
  cases faulty : nameFault? base name with
  | some fault =>
    have other : fault ≠ .notFound := by
      rintro rfl
      exact nameFault?_ne_notFound isName faulty
    rw [faulty] at made directory
    rw [ensureDirectory_of_error nonempty made other]
    simp only [reduceCtorEq, false_and, iff_false] at directory
    simp [settle, directory, Except.map]
  | none =>
    rw [faulty] at made directory
    cases found : disk.entryAt (name :: root) with
    | none =>
      rw [found] at made
      unfold ensureDirectory
      simp [nonempty, made]
    | some entry =>
      rw [found] at made directory
      rw [ensureDirectory_of_error nonempty made (by simp)]
      cases entry with
      | directory => simp [settle, directory, Except.map]
      | _ => simp [settle, directory, Except.map]

end Child

namespace Site

variable {disk new : Disk} {here root : Location} {base : Path} {name : String}

theorem reach_eq (site : disk.Site here base root) (isName : Path.IsName name) (creating : Bool) :
    disk.reach creating here (base.child name) =
      match nameFault? base name with
      | some fault => .error fault
      | none => .ok (if disk.entryAt (name :: root) = none then .vacant name root
          else .taken (name :: root)) := by
  obtain ⟨-, -, -, left, walked⟩ := walk_child creating site.reaches isName
  obtain ⟨onLink, eq⟩ := walk_eq_walkWith disk creating left
  have start : (if (base.child name).isAbsolute then [] else here) = base.start here :=
    Path.start_child base here isName.unslashed
  unfold reach nameFault?
  cases textFault? (base.child name) with
  | some fault => rfl
  | none =>
    simp only [start, walked, eq, walkWith, site.standing, isName.nonempty, isName.ne_current,
      isName.ne_parent]
    by_cases long : nameLimit < name.utf8ByteSize
    · simp [long]
    cases found : disk.entryAt (name :: root) with
    | none => simp [long]
    | some entry =>
      cases entry with
      | link target => exact absurd found (site.notLink name target)
      | _ => simp [long]

theorem locate_eq (site : disk.Site here base root) (isName : Path.IsName name) :
    disk.locate here (base.child name) =
      match nameFault? base name with
      | some fault => .error fault
      | none => if disk.entryAt (name :: root) = none then .error .notFound
          else .ok (name :: root) := by
  rw [locate, site.reach_eq isName]
  cases nameFault? base name with
  | some fault => rfl
  | none => by_cases absent : disk.entryAt (name :: root) = none <;> simp [absent]

theorem status?_eq (site : disk.Site here base root) (isName : Path.IsName name) :
    disk.status? here (base.child name) =
      match nameFault? base name with
      | some _ => none
      | none => disk.entryAt (name :: root) := by
  rw [status?, site.locate_eq isName]
  cases nameFault? base name with
  | some fault => rfl
  | none => cases found : disk.entryAt (name :: root) <;> simp [Disk.found, found]

theorem isDirectory_child_iff (site : disk.Site here base root) (isName : Path.IsName name) :
    disk.isDirectory here (base.child name) = true ↔
      nameFault? base name = none ∧ disk.entryAt (name :: root) = some .directory :=
  site.reaches.isDirectory_child_iff isName (site.notLink name)

theorem pathExists_child_iff (site : disk.Site here base root) (isName : Path.IsName name) :
    disk.pathExists here (base.child name) = true ↔
      nameFault? base name = none ∧ disk.entryAt (name :: root) ≠ none := by
  rw [pathExists, site.status?_eq isName]
  cases nameFault? base name <;> simp [Option.isSome_iff_ne_none]

theorem reachName_eq (site : disk.Site here base root) (isName : Path.IsName name) :
    disk.reachName here (base.child name) =
      match nameFault? base name with
      | some fault => .error fault
      | none => .ok (.plain name root) := by
  rw [reachName_child site.reaches isName site.standing, nameFault?]
  cases textFault? (base.child name) with
  | some fault => rfl
  | none => by_cases long : nameLimit < name.utf8ByteSize <;> simp [long]

theorem write_eq (site : disk.Site here base root) (isName : Path.IsName name)
    (content : ByteArray) :
    disk.write here (base.child name) content =
      match nameFault? base name with
      | some fault => .error fault
      | none => (Entry.write (disk.entryAt (name :: root)) content).map (disk.put name root) := by
  rw [Disk.write, site.reach_eq isName]
  cases nameFault? base name with
  | some fault => rfl
  | none => exact store_eq name root content

/-- Making a directory that may be there already. -/
theorem ensureDirectory_eq (site : disk.Site here base root) (isName : Path.IsName name) :
    disk.ensureDirectory here (base.child name) =
      match nameFault? base name with
      | some fault => (.error fault, disk)
      | none =>
        match disk.entryAt (name :: root) with
        | none => (.ok (), disk.put name root .directory)
        | some .directory => (.ok (), disk)
        | some _ => (.error .alreadyExists, disk) :=
  site.reaches.ensureDirectory_child isName site.standing (site.notLink name)

/-- Moving an entry from one name to another. -/
theorem rename_eq {source target : String} (site : disk.Site here base root)
    (isSource : Path.IsName source) (isTarget : Path.IsName target) (differ : source ≠ target)
    (fits : nameFault? base source = none) (fits' : nameFault? base target = none) {entry : Entry}
    (found : disk.entryAt (source :: root) = some entry) (leaf : entry ≠ .directory) :
    disk.rename here (base.child source) (base.child target) =
      if disk.entryAt (target :: root) = some .directory then .error .isADirectory
      else .ok ((disk.remove (source :: root)).put target root entry) :=
  rename_eq_of_plain (by rw [site.reachName_eq isSource, fits])
    (by rw [site.reachName_eq isTarget, fits']) (fun same => differ (List.cons.inj same).1)
    found leaf

theorem unlink_eq (site : disk.Site here base root) (isName : Path.IsName name)
    (fits : nameFault? base name = none) {entry : Entry}
    (found : disk.entryAt (name :: root) = some entry) (leaf : entry ≠ .directory) :
    disk.unlink here (base.child name) = .ok (disk.remove (name :: root)) :=
  unlink_eq_of_plain (by rw [site.reachName_eq isName, fits]) found leaf

end Site

end Disk

end ModelForge
