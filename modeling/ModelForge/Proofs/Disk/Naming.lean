import ModelForge.Proofs.Disk.Entry

/-! Paths that end in a name. Such a path names a place in a directory, whether that is taken or
not, and a link that lies there is no part of the way to it. What an operation makes of the path
depends on the entry at that place alone. -/
namespace ModelForge

namespace Disk

variable {disk old new : Disk} {here : Location} {path : Path} {name : String} {parent : Location}

/-- The last stretch of a path is its name when there is anything in it. -/
theorem last_stretch {init first blanks : List String} {last name : String}
    (shape : init ++ [last] = first ++ name :: blanks) (blank : ∀ piece ∈ blanks, piece = "")
    (some : last ≠ "") : init = first ∧ last = name ∧ blanks = [] := by
  rcases List.eq_nil_or_concat blanks with rfl | ⟨more, piece, rfl⟩
  · obtain ⟨same, only⟩ := List.append_inj' shape rfl
    exact ⟨same, (List.cons.inj only).1, rfl⟩
  · have ending := congrArg List.getLast? shape
    rw [List.concat_eq_append, ← List.cons_append, ← List.append_assoc, List.getLast?_concat,
      List.getLast?_concat, blank piece (by simp)] at ending
    exact absurd (Option.some.inj ending) some

/-- A path leads to a directory and ends in a name in it, whether that name is taken or not. -/
structure Names (disk : Disk) (here : Location) (path : Path) (name : String)
    (parent : Location) : Prop where
  clean : textFault? path = none
  proper : name ≠ "" ∧ name ≠ "." ∧ name ≠ ".."
  short : ¬nameLimit < name.utf8ByteSize
  standing : disk.entryAt parent = some .directory
  led : ∃ init, path.pieces = init ++ [name] ∧
    disk.walk false linkLimit (path.start here) init = .ok (.taken parent)

theorem names_of_plain {init : List String} {last : String} (ends : path.pieces = init ++ [last])
    (some : last ≠ "") (named : disk.reachName here path = .ok (.plain name parent)) :
    name = last ∧ disk.Names here path name parent := by
  obtain ⟨clean, standing, short, proper, first, blanks, shape, blank, led⟩ :=
    reachName_eq_plain named
  obtain ⟨rfl, rfl, rfl⟩ := last_stretch (ends.symm.trans shape) blank some
  exact ⟨rfl, clean, proper, short, standing, init, ends, led⟩

/-- A path that ends in a name and stands for anything names a place; only a link there can take
it elsewhere. -/
theorem names_of_reach {init : List String} (ends : path.pieces = init ++ [name])
    (proper : name ≠ "" ∧ name ≠ "." ∧ name ≠ "..") {creating : Bool} {place : Place}
    (reached : disk.reach creating here path = .ok place) :
    ∃ parent, disk.Names here path name parent ∧
      ((disk.entryAt (name :: parent) = none ∧ place = .vacant name parent) ∨
        (∃ target, disk.entryAt (name :: parent) = some (.link target)) ∨
        (disk.entryAt (name :: parent) ≠ none ∧ place = .taken (name :: parent))) := by
  obtain ⟨clean, walked⟩ := reach_eq_ok reached
  rw [ends] at walked
  obtain ⟨parent, left, led, onward⟩ :=
    walk_split (fun _ _ _ => ⟨name, List.mem_singleton_self _, proper.1⟩) _ _ _ walked
  obtain ⟨onLink, eq⟩ := walk_eq_walkWith disk creating left
  rw [eq] at onward
  obtain ⟨-, ⟨stays, -⟩ | ⟨up, -⟩ | ⟨-, standing, short, found⟩⟩ := walkWith_cons onward
  · rcases stays with blank | dot
    · exact absurd blank proper.1
    · exact absurd dot proper.2.1
  · exact absurd up proper.2.2
  refine ⟨parent, ⟨clean, proper, short, standing, init, ends, led⟩, ?_⟩
  rcases found with ⟨absent, -, vacant⟩ | ⟨target, link, -⟩ | ⟨entry, present, -, onward⟩
  · exact .inl ⟨absent, vacant⟩
  · exact .inr (.inl ⟨target, link⟩)
  · rw [walkWith] at onward
    exact .inr (.inr ⟨by simp [present], (Except.ok.inj onward).symm⟩)

/-- What exists without a link in the way has a name in a directory. -/
theorem names_of_pathExists (free : disk.LinkFree) {init : List String}
    (ends : path.pieces = init ++ [name]) (proper : name ≠ "" ∧ name ≠ "." ∧ name ≠ "..")
    (exists' : disk.pathExists here path = true) :
    ∃ parent, disk.Names here path name parent ∧ disk.entryAt (name :: parent) ≠ none := by
  unfold Disk.pathExists status? at exists'
  split at exists'
  case h_2 => simp at exists'
  rename_i location located
  obtain ⟨clean, reaches⟩ := locate_eq_ok_iff.1 located
  obtain ⟨parent, names, ⟨-, vacant⟩ | ⟨target, link⟩ | ⟨present, -⟩⟩ :=
    names_of_reach ends proper (reaches.reach clean)
  · cases vacant
  · exact absurd link (free _ target)
  · exact ⟨parent, names, present⟩

namespace Names

theorem keeps (names : old.Names here path name parent) (kept : Keeps here old new) :
    new.Names here path name parent where
  clean := names.clean
  proper := names.proper
  short := names.short
  standing := kept.directory _ names.standing
  led := by
    obtain ⟨init, ends, led⟩ := names.led
    refine ⟨init, ends, walk_keeps _ _ _ (kept.start path) (fun entry found => ?_) led⟩
    rw [names.standing] at found
    rw [kept.directory _ names.standing, found]

/-- The directory and the name that were found at the end of the path. -/
theorem reachName (names : disk.Names here path name parent) :
    disk.reachName here path = .ok (.plain name parent) := by
  obtain ⟨init, ends, led⟩ := names.led
  unfold Path.start at led
  have stripped : (path.pieces.reverse.dropWhile (· = "")).reverse = init ++ [name] := by
    simp [ends, names.proper.1]
  unfold Disk.reachName
  simp only [names.clean, stripped, List.getLast?_concat, List.dropLast_concat, led,
    names.standing, names.proper.2.1, names.proper.2.2, names.short]
  simp

theorem unique {name' : String} {parent' : Location} (names : disk.Names here path name parent)
    (names' : disk.Names here path name' parent') : name' = name ∧ parent' = parent := by
  have same := names'.reachName.symm.trans names.reachName
  simpa using same

/-- What the path stands for, unless a link lies at the place. -/
theorem reach (names : disk.Names here path name parent)
    (notLink : ∀ target, disk.entryAt (name :: parent) ≠ some (.link target)) (creating : Bool) :
    disk.reach creating here path = .ok (if disk.entryAt (name :: parent) = none
      then .vacant name parent else .taken (name :: parent)) := by
  obtain ⟨init, ends, led⟩ := names.led
  obtain ⟨left, onward⟩ := @walk_append _ creating _ ⟨name, List.mem_singleton_self _,
    names.proper.1⟩ _ _ _ _ led
  obtain ⟨onLink, eq⟩ := walk_eq_walkWith disk creating left
  unfold Path.start at onward
  unfold Disk.reach
  simp only [names.clean, ends, onward, eq]
  cases found : disk.entryAt (name :: parent) with
  | none => simp [walkWith, names.standing, names.proper, names.short, found]
  | some entry =>
    rw [walkWith_name names.proper names.standing names.short found
      (fun target link => notLink target (link ▸ found)) (.inr (.inl rfl)), walkWith]
    rfl

theorem reaches (names : disk.Names here path name parent) {entry : Entry}
    (found : disk.entryAt (name :: parent) = some entry)
    (notLink : ∀ target, entry ≠ .link target) : disk.Reaches here path (name :: parent) := by
  have unlinked : ∀ target, disk.entryAt (name :: parent) ≠ some (.link target) := by
    simpa [found] using notLink
  have reached := names.reach unlinked false
  rw [found, if_neg (by simp)] at reached
  exact (reach_eq_ok reached).2

/-- What is written to the path. -/
theorem write_eq (names : disk.Names here path name parent)
    (notLink : ∀ target, disk.entryAt (name :: parent) ≠ some (.link target))
    (content : ByteArray) :
    disk.write here path content =
      (Entry.write (disk.entryAt (name :: parent)) content).map (disk.put name parent) := by
  rw [Disk.write, names.reach notLink]
  exact store_eq name parent content

theorem pathExists (names : disk.Names here path name parent) (free : disk.LinkFree)
    (present : disk.entryAt (name :: parent) ≠ none) : disk.pathExists here path = true := by
  obtain ⟨entry, found⟩ := Option.ne_none_iff_exists'.1 present
  have reaches := names.reaches found fun target link => free _ target (link ▸ found)
  simp [Disk.pathExists, status?, locate_eq_ok_iff.2 ⟨names.clean, reaches⟩]

theorem eq_follow (names : disk.Names here path name parent) (free : disk.LinkFree) :
    name :: parent = here.follow path := by
  obtain ⟨init, ends, led⟩ := names.led
  have parentEq : parent = spelled (path.start here) init := walk_spelled free led
  rw [follow_eq_spelled, ends, spelled_append, ← parentEq, spelled_name names.proper]
  rfl

end Names

end Disk

end ModelForge
