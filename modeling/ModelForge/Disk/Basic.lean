import Std.Data.ExtTreeMap
import ModelForge.Path.Lexical

/-! The file system as a value: a finite map from locations to entries. Whatever has a location
lies in a directory, so a walk never meets a name under a missing parent. Two disks with the same
entries are equal. Times, owners and open handles are not modelled. -/
namespace ModelForge

/-- A file that keeps nothing. Nothing can be read from it. -/
inductive Device where
  /-- Takes whatever is written. -/
  | null
  /-- Has no room for anything. -/
  | full
deriving DecidableEq, Repr

-- The comparison of bytes is the same one wherever this module is read.
local instance (priority := 2000) decidableEqContent : DecidableEq ByteArray := ByteArray.decEq

/-- What a name in a directory can be. -/
inductive Entry where
  | directory
  | file (content : ByteArray) (executable : Bool)
  | link (target : Path)
  | device (kind : Device)
deriving DecidableEq

structure Disk where
  entries : Std.ExtTreeMap Location Entry
  /-- The root is always there and is not listed. -/
  rootless : entries[([] : Location)]? = none
  rooted : ∀ (name : String) (parent : Location), (entries[name :: parent]?).isSome →
    parent = [] ∨ entries[parent]? = some Entry.directory

namespace Disk

def empty : Disk where
  entries := ∅
  rootless := by simp
  rooted := by simp

instance : Inhabited Disk := ⟨empty⟩

/-- The entry at a location, links not followed. -/
def entryAt (disk : Disk) : Location → Option Entry
  | [] => some .directory
  | name :: parent => disk.entries[name :: parent]?

@[simp] theorem entryAt_nil (disk : Disk) : disk.entryAt [] = some .directory := rfl

theorem ext_entryAt {a b : Disk} (same : ∀ location, a.entryAt location = b.entryAt location) :
    a = b := by
  obtain ⟨entries, rootless, rooted⟩ := a
  obtain ⟨entries', rootless', rooted'⟩ := b
  have : entries = entries' := by
    apply Std.ExtTreeMap.ext_getElem?
    intro location
    cases location with
    | nil => rw [rootless, rootless']
    | cons name parent => exact same (name :: parent)
  subst this
  rfl

/-- The parent of whatever exists is a directory. -/
theorem entryAt_parent {disk : Disk} {name : String} {parent : Location}
    (found : (disk.entryAt (name :: parent)).isSome) : disk.entryAt parent = some .directory := by
  rcases disk.rooted name parent found with rfl | h
  · rfl
  · cases parent with
    | nil => rfl
    | cons => exact h

/-- An entry can be put where a directory holds it and no directory has to make way. -/
def CanPut (disk : Disk) (name : String) (parent : Location) : Prop :=
  disk.entryAt parent = some .directory ∧ disk.entryAt (name :: parent) ≠ some .directory

instance (disk : Disk) (name : String) (parent : Location) : Decidable (disk.CanPut name parent) :=
  inferInstanceAs (Decidable (_ ∧ _))

/-- Puts an entry into a directory in place of whatever the name stood for. -/
def put (disk : Disk) (name : String) (parent : Location) (entry : Entry) : Disk :=
  if free : disk.CanPut name parent then
    { entries := disk.entries.insert (name :: parent) entry
      rootless := by
        rw [Std.ExtTreeMap.getElem?_insert, if_neg (by simp)]
        exact disk.rootless
      rooted := by
        intro name' parent' found
        rw [Std.ExtTreeMap.getElem?_insert] at found
        have stays : parent' = [] ∨ disk.entries[parent']? = some .directory := by
          split at found
          · rename_i same
            have := Std.LawfulEqCmp.compare_eq_iff_eq.1 same
            obtain ⟨rfl, rfl⟩ := List.cons.inj this
            cases parent with
            | nil => exact .inl rfl
            | cons => exact .inr free.1
          · exact disk.rooted name' parent' found
        rcases stays with rfl | h
        · exact .inl rfl
        · refine .inr ?_
          rw [Std.ExtTreeMap.getElem?_insert, if_neg]
          · exact h
          · intro same
            have := Std.LawfulEqCmp.compare_eq_iff_eq.1 same
            subst this
            exact free.2 h }
  else disk

theorem entryAt_put {disk : Disk} {name : String} {parent : Location} {entry : Entry}
    (free : disk.CanPut name parent) (location : Location) :
    (disk.put name parent entry).entryAt location =
      if location = name :: parent then some entry else disk.entryAt location := by
  cases location with
  | nil => simp
  | cons name' parent' =>
    simp only [put, dif_pos free, entryAt]
    rw [Std.ExtTreeMap.getElem?_insert]
    by_cases same : name' :: parent' = name :: parent
    · rw [if_pos (Std.LawfulEqCmp.compare_eq_iff_eq.2 same.symm), if_pos same]
    · rw [if_neg (fun h => same (Std.LawfulEqCmp.compare_eq_iff_eq.1 h).symm), if_neg same]

/-- Takes away what lies at a location, with everything below it. The root stays. -/
def remove (disk : Disk) (location : Location) : Disk :=
  if location = [] then disk
  else
    { entries := disk.entries.filter fun at' _ => !location.isSuffixOf at'
      rootless := by
        rw [Std.ExtTreeMap.getElem?_filter', disk.rootless]
        rfl
      rooted := by
        intro name parent found
        rw [Std.ExtTreeMap.getElem?_filter'] at found
        obtain ⟨entry, kept⟩ := Option.isSome_iff_exists.1 found
        obtain ⟨present, outside⟩ := Option.filter_eq_some_iff.1 kept
        rcases disk.rooted name parent (by rw [present]; rfl) with rfl | h
        · exact .inl rfl
        · refine .inr ?_
          rw [Std.ExtTreeMap.getElem?_filter', h, Option.filter_eq_some_iff]
          refine ⟨rfl, ?_⟩
          simp only [Bool.not_eq_true', ← Bool.not_eq_true, List.isSuffixOf_iff_suffix] at outside ⊢
          exact fun below => outside (below.trans (List.suffix_cons _ _)) }

theorem entryAt_remove {disk : Disk} {location : Location} (below : location ≠ [])
    (other : Location) :
    (disk.remove location).entryAt other =
      if location <:+ other then none else disk.entryAt other := by
  cases other with
  | nil => simp [below]
  | cons name parent =>
    simp only [remove, if_neg below, entryAt]
    rw [Std.ExtTreeMap.getElem?_filter']
    by_cases h : location <:+ name :: parent
    · rw [if_pos h]
      cases disk.entries[name :: parent]? <;> simp [h]
    · have outside : location.isSuffixOf (name :: parent) = false :=
        Bool.eq_false_iff.2 fun found => h (List.isSuffixOf_iff_suffix.1 found)
      rw [if_neg h]
      cases disk.entries[name :: parent]? <;> simp [outside]

/-- The names in a directory, in the order of their bytes. Most locations are told apart by their
lengths alone. -/
def names (disk : Disk) (location : Location) : List String :=
  let depth := location.length
  disk.entries.keys.filterMap fun
    | [] => none
    | name :: parent =>
      if parent.length = depth ∧ parent = location then some name else none

/-- The locations below a directory. -/
def below (disk : Disk) (location : Location) : List (Location × Entry) :=
  disk.entries.toList.filter fun (at', _) => location.isSuffixOf at' && at' ≠ location

theorem mem_names_iff {disk : Disk} {location : Location} {name : String} :
    name ∈ disk.names location ↔ (disk.entryAt (name :: location)).isSome := by
  rw [names, List.mem_filterMap]
  constructor
  · rintro ⟨at', member, found⟩
    cases at' with
    | nil => simp at found
    | cons name' parent =>
      simp only [Option.ite_none_right_eq_some, Option.some.injEq] at found
      obtain ⟨⟨-, rfl⟩, rfl⟩ := found
      rw [Std.ExtTreeMap.mem_keys, Std.ExtTreeMap.mem_iff_isSome_getElem?] at member
      exact member
  · intro found
    refine ⟨name :: location, ?_, by simp⟩
    rw [Std.ExtTreeMap.mem_keys, Std.ExtTreeMap.mem_iff_isSome_getElem?]
    exact found

end Disk

end ModelForge
