import ModelForge.Proofs.Disk.Directory

/-! Work inside one directory. Every operation here takes a name in a directory without links in
it, and changes nothing but the entry under that name. -/
namespace ModelForge

namespace Disk

/-- A disk has changed at some places only. Every directory is still there, and the links are the
same. -/
structure Changes (places : Location → Prop) (old new : Disk) : Prop where
  frame : ∀ location, ¬places location → new.entryAt location = old.entryAt location
  directory : ∀ location, old.entryAt location = some .directory →
    new.entryAt location = some .directory
  link : ∀ location target, new.entryAt location = some (.link target) ↔
    old.entryAt location = some (.link target)

namespace Changes

variable {places wider : Location → Prop} {a b c disk : Disk}

theorem refl (places : Location → Prop) (disk : Disk) : Changes places disk disk :=
  ⟨fun _ _ => rfl, fun _ found => found, fun _ _ => .rfl⟩

theorem trans (first : Changes places a b) (second : Changes places b c) : Changes places a c where
  frame location other := (second.frame location other).trans (first.frame location other)
  directory location found := second.directory location (first.directory location found)
  link location target := (second.link location target).trans (first.link location target)

theorem mono (changes : Changes places a b)
    (weaker : ∀ location, places location → wider location) : Changes wider a b :=
  { changes with frame := fun location other =>
      changes.frame location fun place => other (weaker location place) }

theorem linkFree (changes : Changes places a b) (free : a.LinkFree) : b.LinkFree :=
  fun location target found => free location target ((changes.link location target).1 found)

theorem keeps {here : Location} (changes : Changes places a b)
    (inside : a.entryAt here = some .directory) : Keeps here a b where
  directory := changes.directory
  link location target := (changes.link location target).2
  standing location higher absent := by
    by_cases own : location = here
    · simp [own, inside] at absent
    · have present : a.entryAt here ≠ none := by simp [inside]
      simp [entryAt_suffix higher present own] at absent

/-- New entries in place of others, none of them a link and the old ones no directories. -/
theorem of_entries
    (frame : ∀ location, ¬places location → b.entryAt location = a.entryAt location)
    (notDirectory : ∀ place, places place → a.entryAt place ≠ some .directory)
    (notLink : ∀ place, places place → ∀ target, a.entryAt place ≠ some (.link target))
    (notLink' : ∀ place, places place → ∀ target, b.entryAt place ≠ some (.link target)) :
    Changes places a b where
  frame := frame
  directory location found := by
    rw [frame location fun place => notDirectory location place found]
    exact found
  link location target := by
    by_cases place : places location
    · simp [notLink location place, notLink' location place]
    · rw [frame location place]

end Changes

theorem Adds.changes {allowed : Location → Prop} {old new : Disk} (adds : Adds allowed old new) :
    Changes allowed old new where
  frame location other := by
    rcases adds location with same | ⟨-, -, allows⟩
    · exact same
    · exact absurd allows other
  directory := (adds.keeps []).directory
  link location target := by
    rcases adds location with same | ⟨absent, made, -⟩
    · rw [same]
    · simp [absent, made]

/-- What a place holds after a text was written there. A device takes the text and keeps
nothing. -/
def Holds (disk : Disk) (place : Location) (content : ByteArray) : Prop :=
  (∃ executable, disk.entryAt place = some (.file content executable)) ∨
    ∃ kind, disk.entryAt place = some (.device kind)

theorem Holds.frame {old new : Disk} {place : Location} {content : ByteArray}
    (holds : old.Holds place content) (same : new.entryAt place = old.entryAt place) :
    new.Holds place content := by
  unfold Holds
  rw [same]
  exact holds

theorem entryAt_remove_leaf {disk : Disk} {location : Location} (below : location ≠ [])
    (leaf : disk.entryAt location ≠ some .directory) (other : Location) :
    (disk.remove location).entryAt other =
      if other = location then none else disk.entryAt other := by
  rw [entryAt_remove below]
  by_cases own : other = location
  · simp [own]
  rw [if_neg own]
  split
  · rename_i under
    by_contra found
    exact leaf (entryAt_suffix under (fun absent => found absent.symm) fun eq => own eq.symm)
  · rfl

theorem put_changes {disk : Disk} {name : String} {parent : Location} {entry : Entry}
    (notLink : ∀ target, disk.entryAt (name :: parent) ≠ some (.link target))
    (notLink' : ∀ target, entry ≠ .link target) :
    Changes (· = name :: parent) disk (disk.put name parent entry) := by
  by_cases canPut : disk.CanPut name parent
  · have entries : ∀ location, (disk.put name parent entry).entryAt location =
        if location = name :: parent then some entry else disk.entryAt location :=
      entryAt_put canPut
    refine .of_entries (fun location other => by rw [entries, if_neg other]) ?_ ?_ ?_
    · rintro _ rfl
      exact canPut.2
    · rintro _ rfl
      exact notLink
    · rintro _ rfl target found
      rw [entries, if_pos rfl] at found
      exact notLink' target (Option.some.inj found)
  · rw [put, dif_neg canPut]
    exact .refl _ _

theorem remove_changes {disk : Disk} {location : Location}
    (notLink : ∀ target, disk.entryAt location ≠ some (.link target)) (below : location ≠ [])
    (leaf : disk.entryAt location ≠ some .directory) :
    Changes (· = location) disk (disk.remove location) := by
  have removed := entryAt_remove_leaf below leaf
  refine .of_entries (fun other elsewhere => by rw [removed, if_neg elsewhere]) ?_ ?_ ?_
  · rintro _ rfl
    exact leaf
  · rintro _ rfl
    exact notLink
  · rintro _ rfl
    simp [removed]

theorem unlink_eq_ok {disk new : Disk} {here : Location} {path : Path}
    (unlinked : disk.unlink here path = .ok new) :
    ∃ name parent, disk.reachName here path = .ok (.plain name parent) ∧
      disk.entryAt (name :: parent) ≠ some .directory ∧ new = disk.remove (name :: parent) := by
  unfold Disk.unlink at unlinked
  split at unlinked
  · cases unlinked
  · cases unlinked
  rename_i name parent named
  split at unlinked
  · cases unlinked
  · cases unlinked
  rename_i entry notDirectory found
  cases unlinked
  refine ⟨name, parent, named, ?_, rfl⟩
  rw [found]
  exact fun eq => notDirectory (Option.some.inj eq)

theorem rename_eq_ok {disk new : Disk} {here : Location} {source target : Path}
    (renamed : disk.rename here source target = .ok new) :
    ∃ name parent name' parent' entry,
      disk.reachName here source = .ok (.plain name parent) ∧
      disk.reachName here target = .ok (.plain name' parent') ∧
      disk.entryAt (name :: parent) = some entry ∧ entry ≠ .directory ∧
      disk.entryAt (name' :: parent') ≠ some .directory ∧
      new = if name :: parent = name' :: parent' then disk
        else (disk.remove (name :: parent)).put name' parent' entry := by
  unfold Disk.rename at renamed
  split at renamed
  · cases renamed
  · cases renamed
  · cases renamed
  · cases renamed
  rename_i name parent name' parent' fromName toName
  split at renamed
  · cases renamed
  · cases renamed
  · cases renamed
  rename_i entry notDirectory found notDirectory'
  refine ⟨name, parent, name', parent', entry, fromName, toName, found,
    fun eq => notDirectory eq, notDirectory', ?_⟩
  split at renamed
  · rw [if_pos ‹_›]
    exact (Except.ok.inj renamed).symm
  · rw [if_neg ‹_›]
    exact (Except.ok.inj renamed).symm

/-- A path leads to a directory that holds no link, and the process stands in a directory. -/
structure Site (disk : Disk) (here : Location) (base : Path) (root : Location) : Prop where
  inside : disk.entryAt here = some .directory
  clean : textFault? base = none
  reaches : disk.Reaches here base root
  standing : disk.entryAt root = some .directory
  unlinked : ∀ below target, disk.entryAt (below ++ root) ≠ some (.link target)

namespace Site

variable {disk new : Disk} {here root : Location} {base : Path} {name : String}

theorem changes {places : Location → Prop} (site : disk.Site here base root)
    (changes : Changes places disk new) : new.Site here base root where
  inside := changes.directory here site.inside
  clean := site.clean
  reaches := site.reaches.keeps (changes.keeps site.inside) (by
    intro entry found
    rw [site.standing] at found
    rw [changes.directory root site.standing, found])
  standing := changes.directory root site.standing
  unlinked below target found := site.unlinked below target ((changes.link _ _).1 found)

theorem isDirectory (site : disk.Site here base root) : disk.isDirectory here base = true :=
  isDirectory_iff.2 ⟨root, site.clean, site.reaches, found_eq_directory_iff.2 (.inr site.standing)⟩

/-- It is found under its path as long as directories and links stay. -/
theorem isDirectory_keeps (site : disk.Site here base root) (kept : Keeps here disk new) :
    new.isDirectory here base = true := by
  have standing := kept.directory root site.standing
  refine isDirectory_iff.2 ⟨root, site.clean, site.reaches.keeps kept fun entry found => ?_,
    found_eq_directory_iff.2 (.inr standing)⟩
  rw [standing, ← site.standing, found]

theorem notLink (site : disk.Site here base root) (name : String) (target : Path) :
    disk.entryAt (name :: root) ≠ some (.link target) := site.unlinked [name] target

theorem located (site : disk.Site here base root) (isName : Path.IsName name) {location : Location}
    (located : disk.locate here (base.child name) = .ok location) :
    location = name :: root ∧ disk.entryAt (name :: root) ≠ none := by
  obtain ⟨clean, reaches⟩ := locate_eq_ok_iff.1 located
  obtain ⟨-, -, ⟨-, vacant⟩ | ⟨present, taken⟩⟩ :=
    reach_child site.reaches isName (site.notLink name) (reaches.reach clean)
  · cases vacant
  · exact ⟨Place.taken.inj taken, present⟩

theorem descend (site : disk.Site here base root) (isName : Path.IsName name)
    (directory : disk.isDirectory here (base.child name) = true) :
    disk.Site here (base.child name) (name :: root) := by
  obtain ⟨location, clean, reaches, found⟩ := isDirectory_iff.1 directory
  obtain ⟨rfl, present⟩ := site.located isName (locate_eq_ok_iff.2 ⟨clean, reaches⟩)
  exact
    { inside := site.inside
      clean := clean
      reaches := reaches
      standing := (found_eq_directory_iff.1 found).resolve_left present
      unlinked := fun below target => by simpa using site.unlinked (below ++ [name]) target }

theorem ne_none_of_pathExists (site : disk.Site here base root) (isName : Path.IsName name)
    (present : disk.pathExists here (base.child name) = true) :
    disk.entryAt (name :: root) ≠ none := by
  unfold pathExists status? at present
  split at present
  · exact (site.located isName ‹_›).2
  · simp at present

theorem pathExists_of_ne_none (site : disk.Site here base root) (isName : Path.IsName name)
    (clean : textFault? (base.child name) = none) (short : ¬nameLimit < name.utf8ByteSize)
    (present : disk.entryAt (name :: root) ≠ none) :
    disk.pathExists here (base.child name) = true := by
  obtain ⟨entry, found⟩ := Option.ne_none_iff_exists'.1 present
  have reaches := site.reaches.child isName short found
    fun target link => site.notLink name target (link ▸ found)
  simp [pathExists, status?, locate_eq_ok_iff.2 ⟨clean, reaches⟩]

/-- Making a directory that may be there already. -/
theorem ensure (site : disk.Site here base root) (isName : Path.IsName name)
    {result : Except Fault Unit}
    (ensured : disk.ensureDirectory here (base.child name) = (result, new)) :
    Adds (· = name :: root) disk new ∧ (result ≠ .ok () → new = disk) ∧
      (result = .ok () → new.Site here (base.child name) (name :: root)) := by
  have directory := (ensureDirectory_spec ensured).2
  rcases ensureDirectory_child site.reaches isName site.standing ensured with
    rfl | ⟨rfl, absent, rfl⟩
  · exact ⟨.refl _ _, fun _ => rfl, fun ok =>
      site.descend isName (directory ok (Path.isEmpty_child base isName))⟩
  · have adds := (put_directory site.standing absent).2
    exact ⟨adds, by simp, fun ok => (site.changes adds.changes).descend isName
      (directory ok (Path.isEmpty_child base isName))⟩

/-- Writing a file: a new one, or a new content for an old one. A device stays as it is. -/
theorem write (site : disk.Site here base root) (isName : Path.IsName name) {content : ByteArray}
    (written : disk.write here (base.child name) content = .ok new) :
    (new = disk ∧ ∃ kind, disk.entryAt (name :: root) = some (.device kind)) ∨
      ∃ executable, new = disk.put name root (.file content executable) ∧
        ((disk.entryAt (name :: root) = none ∧ executable = false) ∨
          ∃ before, disk.entryAt (name :: root) = some (.file before executable)) := by
  unfold Disk.write at written
  split at written
  · cases written
  rename_i place reached
  obtain ⟨-, -, ⟨absent, rfl⟩ | ⟨present, rfl⟩⟩ :=
    reach_child site.reaches isName (site.notLink name) reached
  · cases written
    exact .inr ⟨false, rfl, .inl ⟨absent, rfl⟩⟩
  obtain ⟨entry, found⟩ := Option.ne_none_iff_exists'.1 present
  simp only [store, Disk.found, found, Option.getD_some] at written
  cases entry with
  | file before executable =>
    exact .inr ⟨executable, by simpa using written.symm, .inr ⟨before, found⟩⟩
  | directory => cases written
  | link target => cases written
  | device kind =>
    refine .inl ⟨?_, kind, found⟩
    cases kind with
    | null => exact (Except.ok.inj written).symm
    | full =>
      simp only at written
      split at written
      · exact (Except.ok.inj written).symm
      · cases written

theorem write_changes (site : disk.Site here base root) (isName : Path.IsName name)
    {content : ByteArray} (written : disk.write here (base.child name) content = .ok new) :
    Changes (· = name :: root) disk new ∧ new.Holds (name :: root) content ∧
      (disk.entryAt (name :: root) = none →
        new.entryAt (name :: root) = some (.file content false)) := by
  rcases site.write isName written with ⟨rfl, kind, found⟩ | ⟨executable, rfl, before⟩
  · exact ⟨.refl _ _, .inr ⟨kind, found⟩, fun absent => by simp [absent] at found⟩
  have notDirectory : disk.entryAt (name :: root) ≠ some .directory := by
    rcases before with ⟨absent, -⟩ | ⟨old, found⟩ <;> simp_all
  have canPut : disk.CanPut name root := ⟨site.standing, notDirectory⟩
  have entries : ∀ location, (disk.put name root (.file content executable)).entryAt location =
      if location = name :: root then some (.file content executable)
      else disk.entryAt location := entryAt_put canPut
  refine ⟨put_changes (site.notLink name) (by simp), .inl ⟨executable, by simp [entries]⟩, ?_⟩
  intro absent
  rcases before with ⟨-, rfl⟩ | ⟨old, found⟩
  · simp [entries]
  · simp [absent] at found

/-- A name in the directory, when it is looked up for itself and no link is followed. -/
theorem named (site : disk.Site here base root) (isName : Path.IsName name) {found : Name}
    (named : disk.reachName here (base.child name) = .ok found) :
    found = .plain name root ∧ textFault? (base.child name) = none ∧
      ¬nameLimit < name.utf8ByteSize := by
  rw [reachName_child site.reaches isName site.standing] at named
  split at named
  · cases named
  rename_i clean
  split at named <;> cases named
  exact ⟨rfl, clean, ‹_›⟩

/-- Taking a file away. -/
theorem unlink (site : disk.Site here base root) (isName : Path.IsName name)
    (unlinked : disk.unlink here (base.child name) = .ok new) :
    Changes (· = name :: root) disk new ∧ new.entryAt (name :: root) = none := by
  obtain ⟨name', parent, named, leaf, rfl⟩ := unlink_eq_ok unlinked
  cases (site.named isName named).1
  exact ⟨remove_changes (site.notLink name) (by simp) leaf,
    by simp [entryAt_remove_leaf (by simp) leaf]⟩

/-- Moving an entry to another name takes it away from its own and puts it there in place of what
was there. -/
theorem rename {source target : String} (site : disk.Site here base root)
    (isSource : Path.IsName source) (isTarget : Path.IsName target) (differ : source ≠ target)
    (renamed : disk.rename here (base.child source) (base.child target) = .ok new) :
    Changes (fun location => location = target :: root ∨ location = source :: root) disk new ∧
      new.entryAt (target :: root) = disk.entryAt (source :: root) ∧
      new.entryAt (source :: root) = none ∧
      textFault? (base.child target) = none ∧ ¬nameLimit < target.utf8ByteSize := by
  obtain ⟨name, parent, name', parent', entry, fromName, toName, found, notDirectory, free, eq⟩ :=
    rename_eq_ok renamed
  cases (site.named isSource fromName).1
  obtain ⟨same, clean, short⟩ := site.named isTarget toName
  cases same
  rw [if_neg (by simp [differ])] at eq
  have leaf : disk.entryAt (source :: root) ≠ some .directory := by simp [found, notDirectory]
  have removed := entryAt_remove_leaf (by simp) leaf
  have first := remove_changes (site.notLink source) (by simp) leaf
  have notLink : ∀ link, entry ≠ .link link := by
    rintro link rfl
    exact site.notLink source link found
  have second : Changes (· = target :: root) (disk.remove (source :: root)) new := by
    rw [eq]
    refine put_changes (fun link => ?_) notLink
    rw [(first.link _ link).ne]
    exact site.notLink target link
  have canPut : (disk.remove (source :: root)).CanPut target root := by
    refine ⟨by simp [removed, site.standing], ?_⟩
    rw [removed, if_neg (by simp [differ.symm])]
    exact free
  have entries : ∀ location, new.entryAt location =
      if location = target :: root then some entry
      else if location = source :: root then none else disk.entryAt location := fun location => by
    rw [eq, entryAt_put canPut, removed]
  exact ⟨(first.mono fun _ => .inr).trans (second.mono fun _ => .inl), by simp [entries, found],
    by simp [entries, differ], clean, short⟩

end Site

end Disk

end ModelForge
