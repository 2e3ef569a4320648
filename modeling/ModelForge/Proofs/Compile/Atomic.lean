import ModelForge.Proofs.Action
import ModelForge.Proofs.Compile.Present
import ModelForge.Proofs.Disk.Overwrite

/-! Writing one schema file as a whole. The data are staged beside the file and moved onto its name,
so whatever goes wrong, the file is either the old one or the new one, and nothing but the two names
is touched. -/
namespace ModelForge

namespace Compile

open Disk

variable {disk new : Disk} {here parent : Location} {path : Path} {name last : String}
  {init : List String} {policy : CopyPolicy} {data : ByteArray}
  {result : Except Error SchemaWrite}

theorem clean_of_staged (nonempty : path.isEmpty = false)
    (clean : textFault? (stagingPath path) = none) : textFault? path = none := by
  have size := size_of_clean clean
  unfold textFault? at clean
  split at clean
  · cases clean
  rename_i noNul
  have noNul' : '\x00' ∉ path.text.toList := fun member => noNul (by simp [stagingPath, member])
  have short : ¬pathLimit < path.text.utf8ByteSize := by
    rw [stagingPath, String.utf8ByteSize_append] at size
    omega
  simp [textFault?, noNul', nonempty, short]

/-- Where the data can be staged, the path itself names a place in the same directory. -/
theorem names_of_staged (pieces : path.pieces = init ++ [last])
    (pieces' : (stagingPath path).pieces = init ++ [stagedName last])
    (proper : last ≠ "" ∧ last ≠ "." ∧ last ≠ "..")
    (names : disk.Names here (stagingPath path) name parent) :
    name = stagedName last ∧ disk.Names here path last parent := by
  obtain ⟨first, ends, led⟩ := names.led
  obtain ⟨rfl, only⟩ := List.append_inj' (ends.symm.trans pieces') rfl
  obtain rfl : name = stagedName last := (List.cons.inj only).1
  have nonempty : path.text.toList ≠ [] := by
    intro empty
    have alone : [] ++ [""] = first ++ [last] := by
      rw [← pieces]
      simp [Path.pieces, empty, Text.fields]
    obtain ⟨-, only⟩ := List.append_inj' alone rfl
    exact proper.1 (List.cons.inj only).1.symm
  have start : path.start here = (stagingPath path).start here := by
    obtain ⟨c, rest, shape⟩ := List.exists_cons_of_ne_nil nonempty
    simp [Path.start, Path.isAbsolute, stagingPath, shape]
  have short : ¬nameLimit < last.utf8ByteSize := by
    have := names.short
    rw [stagedName, String.utf8ByteSize_append] at this
    omega
  exact ⟨rfl, clean_of_staged (by simp [Path.isEmpty, nonempty]) names.clean, proper, short,
    names.standing, first, pieces, start ▸ led⟩

/-- What writing a schema file makes of a disk, entry by entry. Once the data are staged, only a
directory under the name of the file can keep them from being moved there. -/
inductive SchemaEffect (disk : Disk) (here : Location) (policy : CopyPolicy) (path : Path)
    (data : ByteArray) : Except Error SchemaWrite → Disk → Prop where
  | skipped (skips : policy = .skipExisting) (present : disk.pathExists here path = true) :
    SchemaEffect disk here policy path data (.ok .skipped) disk
  | refused {fault : Fault} :
    SchemaEffect disk here policy path data
      (.error (.io .copyModules (stagingPath path) fault)) disk
  | moved {new : Disk} {name : String} {parent : Location} {entry : Entry}
    (goes : ¬(policy = .skipExisting ∧ disk.pathExists here path = true))
    (names : disk.Names here path name parent)
    (beside : disk.Names here (stagingPath path) (stagedName name) parent)
    (written : Entry.write (disk.entryAt (stagedName name :: parent)) data = .ok entry)
    (free : disk.entryAt (name :: parent) ≠ some .directory)
    (entries : ∀ location, new.entryAt location =
      if location = name :: parent then some entry
      else if location = stagedName name :: parent then none else disk.entryAt location) :
    SchemaEffect disk here policy path data (.ok .written) new
  | blocked {new : Disk} {name : String} {parent : Location}
    (names : disk.Names here path name parent)
    (beside : disk.Names here (stagingPath path) (stagedName name) parent)
    (staged : disk.entryAt (stagedName name :: parent) ≠ some .directory)
    (occupied : disk.entryAt (name :: parent) = some .directory)
    (entries : ∀ location, new.entryAt location =
      if location = stagedName name :: parent then none else disk.entryAt location) :
    SchemaEffect disk here policy path data (.error (.io .copyModules path .isADirectory)) new

section Effect

variable (pieces : path.pieces = init ++ [last])
  (pieces' : (stagingPath path).pieces = init ++ [stagedName last])
  (proper : last ≠ "" ∧ last ≠ "." ∧ last ≠ "..") (stands : disk.stranded here = here)
  (unlinked : ∀ name parent, disk.Names here (stagingPath path) name parent →
    ∀ target, disk.entryAt (name :: parent) ≠ some (.link target))

include pieces pieces' proper unlinked in
/-- Data that could be staged lie in the directory of the file. -/
theorem staged_of_write {middle : Disk}
    (written : disk.write here (stagingPath path) data = .ok middle) :
    ∃ parent entry, disk.Names here path last parent ∧
      disk.Names here (stagingPath path) (stagedName last) parent ∧
      Entry.write (disk.entryAt (stagedName last :: parent)) data = .ok entry ∧
      ∀ location, middle.entryAt location =
        if location = stagedName last :: parent then some entry else disk.entryAt location := by
  obtain ⟨place, reached⟩ : ∃ place, disk.reach true here (stagingPath path) = .ok place := by
    unfold Disk.write at written
    split at written
    · cases written
    · exact ⟨_, ‹_›⟩
  obtain ⟨parent, beside, -⟩ := names_of_reach pieces' (stagedName_proper last) reached
  obtain ⟨-, names⟩ := names_of_staged pieces pieces' proper beside
  rw [beside.write_eq (unlinked _ _ beside)] at written
  cases put : Entry.write (disk.entryAt (stagedName last :: parent)) data with
  | error fault => simp [put, Except.map] at written
  | ok entry =>
    obtain rfl : disk.put (stagedName last) parent entry = middle := by
      simpa [put, Except.map] using written
    exact ⟨parent, entry, names, beside, put,
      entryAt_put ⟨names.standing, (Entry.write_ok put).2⟩⟩

include stands in
/-- Staged data can be moved unless a directory is in their place, and can be taken away again. -/
theorem move_of_staged {middle : Disk} {entry : Entry} (names : disk.Names here path last parent)
    (beside : disk.Names here (stagingPath path) (stagedName last) parent)
    (notLink : ∀ target, disk.entryAt (stagedName last :: parent) ≠ some (.link target))
    (written : Entry.write (disk.entryAt (stagedName last :: parent)) data = .ok entry)
    (entries : ∀ location, middle.entryAt location =
      if location = stagedName last :: parent then some entry else disk.entryAt location) :
    (∀ location, (middle.remove (stagedName last :: parent)).entryAt location =
      if location = stagedName last :: parent then none else disk.entryAt location) ∧
    middle.rename here (stagingPath path) path =
      (if disk.entryAt (last :: parent) = some .directory then .error .isADirectory
        else .ok ((middle.remove (stagedName last :: parent)).put last parent entry)) ∧
    discard middle here (stagingPath path) = middle.remove (stagedName last :: parent) := by
  obtain ⟨⟨leaf, -⟩, notDirectory⟩ := Entry.write_ok written
  have differ : stagedName last :: parent ≠ last :: parent := fun same =>
    stagedName_ne last (List.cons.inj same).1
  -- Only the staged data are new, so both paths still name what they named.
  have kept : Keeps here disk middle :=
    .of_loose_place (fun location other => by rw [entries, if_neg other])
      (.of_stranded stands (stagedName_proper last).1 notDirectory notLink)
  have there : middle.entryAt (stagedName last :: parent) = some entry := by simp [entries]
  have fromName := (beside.keeps kept).reachName
  have leaf' : middle.entryAt (stagedName last :: parent) ≠ some .directory := by
    simp [there, leaf]
  have removed := entryAt_remove_leaf (by simp) leaf'
  refine ⟨fun location => ?_, ?_, ?_⟩
  · rw [removed, entries]
    split <;> rfl
  · rw [rename_eq_of_plain fromName (names.keeps kept).reachName differ there leaf, entries,
      if_neg differ.symm]
  · rw [discard, unlink_eq_of_plain fromName there leaf]

include pieces pieces' proper unlinked stands in
theorem writeSchema_effect (wrote : writeSchema disk here policy path data = (result, new)) :
    SchemaEffect disk here policy path data result new := by
  cases writeSchema_course wrote with
  | skipped skips present => exact .skipped skips present
  | notStaged => exact .refused
  | @moved middle _ goes written renamed =>
    obtain ⟨parent, entry, names, beside, put, entries⟩ :=
      staged_of_write pieces pieces' proper unlinked written
    have notDirectory := (Entry.write_ok put).2
    obtain ⟨removed, moves, -⟩ :=
      move_of_staged stands names beside (unlinked _ _ beside) put entries
    rw [moves] at renamed
    split at renamed
    · cases renamed
    rename_i free
    cases renamed
    have canPut : (middle.remove (stagedName last :: parent)).CanPut last parent := by
      constructor
      · rw [removed, if_neg, names.standing]
        intro same
        exact notDirectory (same ▸ names.standing)
      · rw [removed]
        split
        · simp
        · exact free
    exact .moved goes names beside put free fun location => by rw [entryAt_put canPut, removed]
  | notMoved written renamed =>
    obtain ⟨parent, entry, names, beside, put, entries⟩ :=
      staged_of_write pieces pieces' proper unlinked written
    obtain ⟨removed, moves, discards⟩ :=
      move_of_staged stands names beside (unlinked _ _ beside) put entries
    rw [moves] at renamed
    split at renamed
    · rename_i occupied
      cases renamed
      rw [discards]
      exact .blocked names beside (Entry.write_ok put).2 occupied removed
    · cases renamed

end Effect

/-- What is left when a file has been written in place of whatever its path named. A device that
lay where the data are staged has swallowed them and is moved instead. A path that went through a
link at its own end does not go through the file that is there now. -/
structure Replaced (old new : Disk) (here : Location) (path : Path) (data : ByteArray)
    (name : String) (parent : Location) : Prop where
  names : old.Names here path name parent
  beside : old.Names here (stagingPath path) (stagedName name) parent
  frame : ∀ location, location ≠ name :: parent → location ≠ stagedName name :: parent →
    new.entryAt location = old.entryAt location
  cleared : new.entryAt (stagedName name :: parent) = none
  notLink : ∀ target, new.entryAt (name :: parent) ≠ some (.link target)
  device : ∀ kind, old.entryAt (stagedName name :: parent) = some (.device kind) →
    new.entryAt (name :: parent) = some (.device kind)
  holds : (∀ kind, old.entryAt (stagedName name :: parent) ≠ some (.device kind)) →
    ∃ executable, new.entryAt (name :: parent) = some (.file data executable)
  read : (∀ kind, old.entryAt (stagedName name :: parent) ≠ some (.device kind)) →
    (new.read here path = .ok data ↔
      (∀ target, old.entryAt (name :: parent) ≠ some (.link target)) ∨
        (old.remove (name :: parent)).Names here path name parent)

/-- What is left when a file could not be written: everything, but for what lay where the data are
staged, and that too if nothing did. -/
structure Untouched (old new : Disk) (here : Location) (path : Path) : Prop where
  frame : ∀ location, (∀ name parent, old.Names here (stagingPath path) name parent →
    location ≠ name :: parent) → new.entryAt location = old.entryAt location
  target : ∀ name parent, old.Names here path name parent → new.Names here path name parent ∧
    new.entryAt (name :: parent) = old.entryAt (name :: parent)
  cleared : (∀ name parent, old.Names here (stagingPath path) name parent →
    old.entryAt (name :: parent) = none) → new = old

section Outcome

variable (stands : disk.stranded here = here) (names : disk.Names here path name parent)
  (free : disk.entryAt (name :: parent) ≠ some .directory)

include stands names free

/-- The file that has come to a place is found under the path exactly if the way to the place did
not go through what was there before. -/
theorem read_of_moved {staged : Location} {executable : Bool} (differ : name :: parent ≠ staged)
    (loose : disk.Loose here staged)
    (entries : ∀ location, new.entryAt location =
      if location = name :: parent then some (.file data executable)
      else if location = staged then none else disk.entryAt location) :
    new.read here path = .ok data ↔
      (∀ target, disk.entryAt (name :: parent) ≠ some (.link target)) ∨
        (disk.remove (name :: parent)).Names here path name parent := by
  have removed := entryAt_remove_leaf (by simp) free
  have apart : ¬name :: parent <:+ here := not_suffix_of_stranded stands names.proper.1 free
  -- Both disks are compared with the one on which the entry in question is missing.
  have bare : (disk.remove (name :: parent)).Loose here (name :: parent) :=
    ⟨by simp [removed], by simp [removed], apart⟩
  have frame : ∀ location, ¬(location = name :: parent ∨ location = staged) →
      new.entryAt location = (disk.remove (name :: parent)).entryAt location := by
    intro location other
    rw [not_or] at other
    rw [entries, removed, if_neg other.1, if_neg other.1, if_neg other.2]
  have there : new.entryAt (name :: parent) = some (.file data executable) := by simp [entries]
  have gone : new.entryAt staged = none := by simp [entries, differ.symm]
  constructor
  · intro found
    obtain ⟨location, reached⟩ : ∃ location,
        new.reach false here path = .ok (.taken location) := by
      unfold Disk.read at found
      split at found
      · cases found
      rename_i location located
      obtain ⟨clean, reaches⟩ := locate_eq_ok_iff.1 located
      exact ⟨location, reaches.reach clean⟩
    obtain ⟨init, ends, -⟩ := names.led
    obtain ⟨parent', names', -⟩ := names_of_reach ends names.proper reached
    have back : Keeps here new (disk.remove (name :: parent)) := by
      refine .of_loose (fun location other => (frame location other).symm) ?_
      rintro _ (rfl | rfl)
      · exact ⟨by simp [there], by simp [there], apart⟩
      · exact ⟨by simp [gone], by simp [gone], loose.apart⟩
    have further : Keeps here (disk.remove (name :: parent)) disk :=
      .of_loose_place (fun location other => by rw [removed, if_neg other]) bare
    obtain ⟨-, rfl⟩ := names.unique ((names'.keeps back).keeps further)
    exact .inr (names'.keeps back)
  · intro direct
    have names' : (disk.remove (name :: parent)).Names here path name parent := by
      refine direct.elim (fun notLink => names.keeps ?_) id
      exact .of_loose_place (fun location other => by rw [removed, if_neg other])
        ⟨free, notLink, apart⟩
    have forward : Keeps here (disk.remove (name :: parent)) new := by
      refine .of_loose frame ?_
      rintro _ (rfl | rfl)
      · exact bare
      · refine ⟨?_, ?_, loose.apart⟩ <;> rw [removed, if_neg differ.symm]
        exacts [loose.notDirectory, loose.notLink]
    have named := names'.keeps forward
    have located := locate_eq_ok_iff.2 ⟨named.clean, named.reaches there (by simp)⟩
    simp [Disk.read, located, Disk.found, there]

end Outcome

theorem replaced_of_moved {entry : Entry} (stands : disk.stranded here = here)
    (unlinked : ∀ target, disk.entryAt (stagedName name :: parent) ≠ some (.link target))
    (names : disk.Names here path name parent)
    (beside : disk.Names here (stagingPath path) (stagedName name) parent)
    (written : Entry.write (disk.entryAt (stagedName name :: parent)) data = .ok entry)
    (free : disk.entryAt (name :: parent) ≠ some .directory)
    (entries : ∀ location, new.entryAt location =
      if location = name :: parent then some entry
      else if location = stagedName name :: parent then none else disk.entryAt location) :
    Replaced disk new here path data name parent := by
  have differ : name :: parent ≠ stagedName name :: parent := fun same =>
    stagedName_ne name (List.cons.inj same).1.symm
  have there : new.entryAt (name :: parent) = some entry := by simp [entries]
  refine ⟨names, beside, fun location other other' => ?_, ?_, fun target => ?_, ?_, ?_, ?_⟩
  · rw [entries, if_neg other, if_neg other']
  · rw [entries, if_neg differ.symm, if_pos rfl]
  · rw [there]
    exact fun same => (Entry.write_ok written).1.2 target (Option.some.inj same)
  · intro kind lies
    rw [lies] at written
    rw [there, Entry.write_device written]
  · intro noDevice
    obtain ⟨executable, rfl⟩ := Entry.write_content written noDevice
    exact ⟨executable, there⟩
  · intro noDevice
    obtain ⟨executable, rfl⟩ := Entry.write_content written noDevice
    exact read_of_moved stands names free differ
      (.of_stranded stands beside.proper.1 (Entry.write_ok written).2 unlinked) entries

theorem untouched_of_blocked (stands : disk.stranded here = here)
    (unlinked : ∀ target, disk.entryAt (stagedName name :: parent) ≠ some (.link target))
    (names : disk.Names here path name parent)
    (beside : disk.Names here (stagingPath path) (stagedName name) parent)
    (staged : disk.entryAt (stagedName name :: parent) ≠ some .directory)
    (entries : ∀ location, new.entryAt location =
      if location = stagedName name :: parent then none else disk.entryAt location) :
    Untouched disk new here path := by
  have kept : Keeps here disk new :=
    .of_loose_place (fun location other => by rw [entries, if_neg other])
      (.of_stranded stands beside.proper.1 staged unlinked)
  refine ⟨fun location other => ?_, fun name' parent' names' => ⟨names'.keeps kept, ?_⟩,
    fun vacant => ext_entryAt fun location => ?_⟩
  · rw [entries, if_neg (other _ _ beside)]
  · obtain ⟨rfl, rfl⟩ := names.unique names'
    rw [entries, if_neg fun same => stagedName_ne name' (List.cons.inj same).1.symm]
  · rw [entries]
    split
    · rename_i own
      rw [own, vacant _ _ beside]
    · rfl

/-- The directory for the schema files of the sample, with some entries in it. -/
def schemaDisk (entries : List (String × Entry)) : Disk :=
  entries.foldl (fun disk (name, entry) => disk.put name ["yang", "m_1", "o", "w"] entry)
    ((((Disk.empty.put "w" [] .directory).put "o" ["w"] .directory).put "m_1" ["o", "w"]
      .directory).put "yang" ["m_1", "o", "w"] .directory)

/-- The path to a schema file in that directory. -/
def schemaSample (name : String) : Path :=
  sampleModel.schemaFile ⟨"o"⟩ ⟨name, "1", none, "A".toUTF8⟩

theorem unlinked_of_reachName (named : disk.reachName here path = .ok (.plain name parent))
    (notLink : (disk.entryAt (name :: parent)).any isLink = false) :
    ∀ name parent, disk.Names here path name parent →
      ∀ target, disk.entryAt (name :: parent) ≠ some (.link target) := by
  intro name' parent' names target found
  cases named.symm.trans names.reachName
  simp [found, isLink] at notLink

theorem wrote_of_toOption {outcome : SchemaWrite}
    (done : (writeSchema disk here policy path data).1.toOption = some outcome) :
    writeSchema disk here policy path data =
      (.ok outcome, (writeSchema disk here policy path data).2) :=
  Action.ran_of_toOption done

/-- A file whose name is a link that leads nowhere, and what an earlier attempt left beside it. -/
def danglingDisk : Disk :=
  schemaDisk [("a@1.yang", .link ⟨"gone"⟩), ("a@1.yang.config-model.tmp", .file "B".toUTF8 true)]

/-- A file is said to be written where no link lies in the place of its staged data, and yet the
data are not what is read under its path. -/
def Unread (disk : Disk) (here : Location) (path : Path) (data : ByteArray) : Prop :=
  disk.stranded here = here ∧
    (∀ name parent, disk.Names here (stagingPath path) name parent →
      ∀ target, disk.entryAt (name :: parent) ≠ some (.link target)) ∧
    ∃ new, writeSchema disk here .overwrite path data = (.ok .written, new) ∧
      new.read here path ≠ .ok data

/-- A device takes the data and becomes the file. -/
def swallowingDisk : Disk := schemaDisk [("a@1.yang.config-model.tmp", .device .null)]

/-- A path can go through the link at its own end, into a directory and up again. -/
def turningDisk : Disk := schemaDisk [("e", .directory), ("a@1.yang", .link ⟨"e"⟩)]

end Compile

end ModelForge
