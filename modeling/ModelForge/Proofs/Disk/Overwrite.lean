import ModelForge.Proofs.Disk.Entry

/-! Writing a file, wherever the path leads: through links, to a file that is there or to a new one.
Writing takes two steps, of which the first leaves an empty file. `overwrite_eq` says that a failure
never comes in between, and `Written` what there is afterwards. -/
namespace ModelForge.Disk

variable {disk old new : Disk} {here parent : Location} {path : Path} {name : String}
  {place : Place} {content : ByteArray}

section Standing

theorem stranded_of_directory {disk : Disk} {here : Location}
    (inside : disk.entryAt here = some .directory) : disk.stranded here = here := by
  induction here with
  | nil => rfl
  | cons name parent ih =>
    have present : disk.entryAt (name :: parent) ≠ none := by simp [inside]
    rw [stranded, if_pos inside, ih (entryAt_parent_ne_none present)]

/-- A process that is stranded stays where it is. The places where one can be are therefore those
that stranding leaves alone. -/
theorem stranded_stranded (disk : Disk) (here : Location) :
    disk.stranded (disk.stranded here) = disk.stranded here := by
  induction here with
  | nil => rfl
  | cons name parent ih =>
    by_cases inside : disk.entryAt (name :: parent) = some .directory
    · rw [stranded_of_directory inside, stranded_of_directory inside]
    · rw [stranded, if_neg inside, stranded, ih]
      split <;> rfl

/-- Where a process stands there are directories only: whatever was taken away has lost its name. -/
theorem not_suffix_of_stranded {disk : Disk} {here : Location} {name : String} {parent : Location}
    (stands : disk.stranded here = here) (nonempty : name ≠ "")
    (leaf : disk.entryAt (name :: parent) ≠ some .directory) : ¬name :: parent <:+ here := by
  induction here with
  | nil => simp
  | cons own above ih =>
    rw [stranded] at stands
    obtain ⟨kept, stands'⟩ := List.cons.inj stands
    intro higher
    rcases List.suffix_cons_iff.1 higher with same | higher
    · obtain ⟨rfl, rfl⟩ := List.cons.inj same
      rw [if_neg leaf] at kept
      exact nonempty kept.symm
    · exact ih stands' higher

theorem Loose.of_stranded {disk : Disk} {here : Location} {name : String} {parent : Location}
    (stands : disk.stranded here = here) (nonempty : name ≠ "")
    (notDirectory : disk.entryAt (name :: parent) ≠ some .directory)
    (notLink : ∀ target, disk.entryAt (name :: parent) ≠ some (.link target)) :
    disk.Loose here (name :: parent) :=
  ⟨notDirectory, notLink, not_suffix_of_stranded stands nonempty notDirectory⟩

end Standing

section Walks

/-- A name that is missing in a directory. -/
structure Vacancy (disk : Disk) (name : String) (parent : Location) : Prop where
  inside : disk.entryAt parent = some .directory
  absent : disk.entryAt (name :: parent) = none
  named : name ≠ ""

theorem walkWith_vacant {creating : Bool}
    {onLink : Location → List String → Except Fault Place}
    (link : ∀ base pieces, onLink base pieces = .ok (.vacant name parent) →
      disk.Vacancy name parent)
    (here : Location) (pieces : List String)
    (walked : disk.walkWith creating onLink here pieces = .ok (.vacant name parent)) :
    disk.Vacancy name parent := by
  induction pieces generalizing here with
  | nil => cases walked
  | cons piece rest ih =>
    obtain ⟨-, ⟨-, onward⟩ | ⟨-, onward⟩ | ⟨proper, inside, -, found⟩⟩ := walkWith_cons walked
    · exact ih here onward
    · exact ih here.tail onward
    rcases found with ⟨absent, -, eq⟩ | ⟨target, -, onward⟩ | ⟨entry, -, -, onward⟩
    · cases eq
      exact ⟨inside, absent, proper.1⟩
    · exact link _ _ onward
    · exact ih (piece :: here) onward

theorem walk_vacant {creating : Bool} (links : Nat) (here : Location) (pieces : List String)
    (walked : disk.walk creating links here pieces = .ok (.vacant name parent)) :
    disk.Vacancy name parent := by
  induction links generalizing here pieces with
  | zero => exact walkWith_vacant (by intro _ _ jumped; cases jumped) here pieces walked
  | succ links ih => exact walkWith_vacant ih here pieces walked

/-- The path to a file that is written leads to that file afterwards. -/
theorem reach_lands (kept : Keeps here old new)
    (lands : ∃ entry, new.entryAt place.location = some entry ∧ ∀ target, entry ≠ .link target)
    (reached : old.reach true here path = .ok place) :
    new.locate here path = .ok place.location := by
  obtain ⟨clean, walked⟩ := reach_eq_ok reached
  have ends : Lands old new true place :=
    ⟨fun _ _ _ _ => lands, by rintro _ _ rfl; exact ⟨rfl, lands⟩⟩
  exact locate_eq_ok_iff.2 ⟨clean, walk_lands _ _ _ (kept.start path) ends walked⟩

end Walks

section Writing

/-- What writing has done, with the name that the path stood for and the entry under it. -/
structure Wrote (disk new : Disk) (here : Location) (path : Path) (content : ByteArray)
    (name : String) (parent : Location) (entry : Entry) : Prop where
  reached : ∃ place, disk.reach true here path = .ok place ∧ place.location = name :: parent
  inside : disk.entryAt parent = some .directory
  named : disk.entryAt (name :: parent) = none → name ≠ ""
  written : Entry.write (disk.entryAt (name :: parent)) content = .ok entry
  eq : new = disk.put name parent entry

theorem write_eq_ok (written : disk.write here path content = .ok new) :
    ∃ name parent entry, disk.Wrote new here path content name parent entry := by
  unfold write at written
  split at written
  · cases written
  rename_i place reached
  cases place with
  | vacant name parent =>
    obtain ⟨inside, absent, named⟩ := walk_vacant _ _ _ (reach_eq_ok reached).2
    refine ⟨name, parent, .file content false, ⟨_, reached, rfl⟩, inside, fun _ => named, ?_, ?_⟩
    · rw [absent, Entry.write]
    · exact (Except.ok.inj written).symm
  | taken location =>
    cases location with
    | nil => simp [store, found] at written
    | cons name parent =>
      have present : disk.entryAt (name :: parent) ≠ none := by
        intro absent
        simp [store, found, absent] at written
      have stored := @store_eq disk name parent content
      rw [if_neg present, written] at stored
      cases wrote : Entry.write (disk.entryAt (name :: parent)) content with
      | error fault => simp [wrote, Except.map] at stored
      | ok entry =>
        refine ⟨name, parent, entry, ⟨_, reached, rfl⟩, entryAt_parent_ne_none present,
          fun absent => absurd absent present, wrote, ?_⟩
        simpa [wrote, Except.map] using stored

namespace Wrote

variable {entry : Entry}

theorem canPut (wrote : disk.Wrote new here path content name parent entry) :
    disk.CanPut name parent :=
  ⟨wrote.inside, (Entry.write_ok wrote.written).2⟩

theorem entries (wrote : disk.Wrote new here path content name parent entry)
    (location : Location) : new.entryAt location =
      if location = name :: parent then some entry else disk.entryAt location := by
  rw [wrote.eq]
  exact entryAt_put wrote.canPut location

theorem keeps (wrote : disk.Wrote new here path content name parent entry)
    (stands : disk.stranded here = here) : Keeps here disk new where
  directory location found := by
    rw [wrote.entries, if_neg, found]
    rintro rfl
    exact wrote.canPut.2 found
  link location target found := by
    rw [wrote.entries, if_neg, found]
    rintro rfl
    have written := wrote.written
    rw [found] at written
    cases written
  standing location higher absent := by
    rw [wrote.entries, if_neg]
    · exact .inl absent
    · rintro rfl
      exact not_suffix_of_stranded stands (wrote.named absent) wrote.canPut.2 higher

theorem located (wrote : disk.Wrote new here path content name parent entry)
    (stands : disk.stranded here = here) : new.locate here path = .ok (name :: parent) := by
  obtain ⟨place, reached, leads⟩ := wrote.reached
  rw [← leads]
  refine reach_lands (wrote.keeps stands) ⟨entry, ?_, (Entry.write_ok wrote.written).1.2⟩ reached
  rw [leads, wrote.entries, if_pos rfl]

end Wrote

/-- What there is after a content was written at a location. A device takes it and keeps nothing;
otherwise there is a file with the content, which can be run if the one before could. -/
inductive Written (old : Disk) (content : ByteArray) (location : Location) : Disk → Prop where
  | device {kind : Device} (lies : old.entryAt location = some (.device kind))
      (room : kind = .full → content.isEmpty = true) : Written old content location old
  | file {new : Disk} {executable : Bool}
      (before : (old.entryAt location = none ∧ executable = false) ∨
        ∃ past, old.entryAt location = some (.file past executable))
      (holds : new.entryAt location = some (.file content executable))
      (frame : ∀ other, other ≠ location → new.entryAt other = old.entryAt other) :
      Written old content location new

/-- The path leads to what was written. -/
theorem write_written (stands : disk.stranded here = here)
    (written : disk.write here path content = .ok new) :
    ∃ location, new.locate here path = .ok location ∧ disk.Written content location new := by
  obtain ⟨name, parent, entry, wrote⟩ := write_eq_ok written
  refine ⟨name :: parent, wrote.located stands, ?_⟩
  have put := wrote.written
  have frame : ∀ other, other ≠ name :: parent → new.entryAt other = disk.entryAt other :=
    fun other elsewhere => by rw [wrote.entries, if_neg elsewhere]
  have holds := wrote.entries (name :: parent)
  rw [if_pos rfl] at holds
  cases lies : disk.entryAt (name :: parent) with
  | none =>
    rw [lies] at put
    cases put
    exact .file (.inl ⟨lies, rfl⟩) holds frame
  | some past =>
    rw [lies] at put
    cases past with
    | directory | link => cases put
    | file before executable =>
      cases put
      exact .file (.inr ⟨before, lies⟩) holds frame
    | device kind =>
      have same : new = disk := by
        rw [wrote.eq, Entry.write_device put, put_self lies]
      rw [same]
      refine .device lies ?_
      rintro rfl
      rw [Entry.write] at put
      split at put
      · assumption
      · cases put

end Writing

section Steps

/-- Opens a file for writing. It loses its content, and one that is missing is made. -/
def openEmpty (disk : Disk) : Place → Except Fault Unit × Disk
  | .vacant name parent => (.ok (), disk.put name parent (.file ByteArray.empty false))
  | .taken location =>
    match location, disk.found location with
    | name :: parent, .file _ executable =>
      (.ok (), disk.put name parent (.file ByteArray.empty executable))
    | _, .device _ => (.ok (), disk)
    | _, .link _ => (.error .notFound, disk)
    | _, _ => (.error .isADirectory, disk)

/-- Puts a content into what has been opened. -/
def fill (disk : Disk) (content : ByteArray) : Location → Except Fault Unit × Disk
  | [] => (.error .isADirectory, disk)
  | name :: parent =>
    match disk.entryAt (name :: parent) with
    | some (.file _ executable) => (.ok (), disk.put name parent (.file content executable))
    | some (.device .null) => (.ok (), disk)
    | some (.device .full) => (if content.isEmpty then .ok () else .error .noSpace, disk)
    | _ => (.error .isADirectory, disk)

/-- Writes a file step by step, on whatever disk the steps before have left. -/
def overwrite (disk : Disk) (here : Location) (path : Path) (content : ByteArray) :
    Except Fault Unit × Disk :=
  match disk.reach true here path with
  | .error fault => (.error fault, disk)
  | .ok place =>
    match disk.openEmpty place with
    | (.error fault, opened) => (.error fault, opened)
    | (.ok (), opened) => opened.fill content place.location

theorem fill_put {first : ByteArray} {executable : Bool} (canPut : disk.CanPut name parent) :
    (disk.put name parent (.file first executable)).fill content (name :: parent) =
      (.ok (), disk.put name parent (.file content executable)) := by
  have entries := @entryAt_put disk name parent (.file first executable) canPut
  have again : (disk.put name parent (.file first executable)).CanPut name parent := by
    refine ⟨?_, ?_⟩
    · rw [entries, if_neg (List.cons_ne_self name parent).symm, canPut.1]
    · rw [entries, if_pos rfl]
      simp
  have twice : (disk.put name parent (.file first executable)).put name parent
      (.file content executable) = disk.put name parent (.file content executable) := by
    apply ext_entryAt
    intro location
    rw [entryAt_put again, entries, entryAt_put canPut]
    split <;> rfl
  rw [fill, entries, if_pos rfl]
  simp only [twice]

/-- The steps come to the same as writing in one: whatever fails does so before anything is lost. -/
theorem overwrite_eq (disk : Disk) (here : Location) (path : Path) (content : ByteArray) :
    disk.overwrite here path content =
      match disk.write here path content with
      | .error fault => (.error fault, disk)
      | .ok new => (.ok (), new) := by
  unfold overwrite write
  cases reached : disk.reach true here path with
  | error fault => rfl
  | ok place =>
    cases place with
    | vacant name parent =>
      obtain ⟨inside, absent, -⟩ := walk_vacant _ _ _ (reach_eq_ok reached).2
      have canPut : disk.CanPut name parent := ⟨inside, by simp [absent]⟩
      exact fill_put canPut
    | taken location =>
      cases location with
      | nil => simp [openEmpty, store, found]
      | cons name parent =>
        cases lies : disk.entryAt (name :: parent) with
        | none => simp [openEmpty, store, found, lies]
        | some entry =>
          have present : disk.entryAt (name :: parent) ≠ none := by simp [lies]
          have inside := entryAt_parent_ne_none present
          cases entry with
          | directory | link => simp [openEmpty, store, found, lies]
          | file before executable =>
            have canPut : disk.CanPut name parent := ⟨inside, by simp [lies]⟩
            simp [openEmpty, store, found, lies, Place.location, fill_put canPut]
          | device kind =>
            cases kind with
            | null => simp [openEmpty, store, found, lies, Place.location, fill]
            | full =>
              by_cases empty : content.isEmpty <;>
                simp [openEmpty, store, found, lies, Place.location, fill, empty]

end Steps

end ModelForge.Disk
