import ModelForge.Disk.Operation
import ModelForge.Proofs.Disk.Reach

/-! Making directories. Whatever becomes of an attempt, it leaves nothing behind but directories
where nothing was; without links they lie at places that leading parts of the path name. An
attempt that succeeds leaves a directory at the path. -/
namespace ModelForge

namespace Disk

/-- Nothing has come to a disk but directories, and they only to allowed places. -/
def Adds (allowed : Location → Prop) (old new : Disk) : Prop :=
  ∀ location, new.entryAt location = old.entryAt location ∨
    (old.entryAt location = none ∧ new.entryAt location = some .directory ∧ allowed location)

/-- A directory with nothing in it. -/
structure Fresh (disk : Disk) (location : Location) : Prop where
  directory : disk.entryAt location = some .directory
  bare : ∀ name, disk.entryAt (name :: location) = none

namespace Adds

variable {allowed wider : Location → Prop} {a b c : Disk}

theorem refl (allowed : Location → Prop) (disk : Disk) : Adds allowed disk disk :=
  fun _ => .inl rfl

theorem trans (first : Adds allowed a b) (second : Adds allowed b c) : Adds allowed a c := by
  intro location
  rcases first location with same | ⟨absent, made, allows⟩
  · rcases second location with same' | ⟨absent, made, allows⟩
    · exact .inl (same'.trans same)
    · exact .inr ⟨same ▸ absent, made, allows⟩
  · rcases second location with same' | ⟨absent', -⟩
    · exact .inr ⟨absent, same'.trans made, allows⟩
    · simp [made] at absent'

theorem mono (adds : Adds allowed a b) (weaker : ∀ location, allowed location → wider location) :
    Adds wider a b := by
  intro location
  rcases adds location with same | ⟨absent, made, allows⟩
  · exact .inl same
  · exact .inr ⟨absent, made, weaker location allows⟩

theorem keeps (adds : Adds allowed a b) (here : Location) : Keeps here a b where
  directory location found := by
    rcases adds location with same | ⟨absent, -⟩
    · exact same.trans found
    · simp [found] at absent
  link location target found := by
    rcases adds location with same | ⟨absent, -⟩
    · exact same.trans found
    · simp [found] at absent
  standing location _ absent := by
    rcases adds location with same | ⟨-, made, -⟩
    · exact .inl (same.trans absent)
    · exact .inr made

theorem linkFree (adds : Adds allowed a b) (free : a.LinkFree) : b.LinkFree := by
  intro location target found
  rcases adds location with same | ⟨-, made, -⟩
  · exact free location target (same ▸ found)
  · simp [made] at found

end Adds

variable {disk : Disk} {here : Location} {path : Path}

theorem entryAt_child_eq_none {location : Location} (absent : disk.entryAt location = none)
    (name : String) : disk.entryAt (name :: location) = none := by
  by_contra found
  have := entryAt_parent_ne_none found
  simp [absent] at this

theorem put_directory {name : String} {parent : Location}
    (inside : disk.entryAt parent = some .directory)
    (absent : disk.entryAt (name :: parent) = none) :
    (disk.put name parent .directory).Fresh (name :: parent) ∧
      Adds (· = name :: parent) disk (disk.put name parent .directory) := by
  have canPut : disk.CanPut name parent := ⟨inside, by simp [absent]⟩
  have entries : ∀ location, (disk.put name parent .directory).entryAt location =
      if location = name :: parent then some .directory else disk.entryAt location :=
    entryAt_put canPut
  refine ⟨⟨by simp [entries], fun other => ?_⟩, fun location => ?_⟩
  · rw [entries, if_neg (by simp)]
    exact entryAt_child_eq_none absent other
  · by_cases own : location = name :: parent
    · exact .inr ⟨own ▸ absent, by simp [entries, own], own⟩
    · exact .inl (by simp [entries, own])

/-- A path leads to the entry under its name once there is one. -/
theorem reaches_of_named {name : String} {parent : Location} {new : Disk}
    (named : disk.reachName here path = .ok (.plain name parent)) (kept : Keeps here disk new)
    (directory : new.entryAt (name :: parent) = some .directory) :
    new.Reaches here path (name :: parent) := by
  obtain ⟨-, inside, short, proper, first, blanks, shape, blank, led⟩ := reachName_eq_plain named
  have led' : new.walk false linkLimit (path.start here) first = .ok (.taken parent) := by
    refine walk_keeps _ _ _ (kept.start path) (fun entry found => ?_) led
    obtain rfl : Entry.directory = entry := by simpa [inside] using found
    exact kept.directory _ inside
  obtain ⟨left, onward⟩ := walk_append ⟨name, List.mem_cons_self (l := blanks), proper.1⟩ _ _ _ led'
  obtain ⟨onLink, eq⟩ := walk_eq_walkWith new false left
  rw [Reaches, shape, onward, eq,
    walkWith_name proper (kept.directory _ inside) short directory (by simp) (.inl rfl)]
  exact walkWith_blank (.inr directory) blank

/-- Where a directory has been made: nothing was there, and nothing is in it. -/
structure Made (here : Location) (path : Path) (old new : Disk) (location : Location) : Prop where
  absent : old.entryAt location = none
  fresh : new.Fresh location
  adds : Adds (· = location) old new
  clean : textFault? path = none
  named : ∃ name parent, location = name :: parent ∧
    old.reachName here path = .ok (.plain name parent)

namespace Made

variable {old new : Disk} {location : Location}

theorem reaches (made : Made here path old new location) : new.Reaches here path location := by
  obtain ⟨name, parent, rfl, named⟩ := made.named
  exact reaches_of_named named (made.adds.keeps here) made.fresh.directory

theorem locate (made : Made here path old new location) :
    new.locate here path = .ok location :=
  locate_eq_ok_iff.2 ⟨made.clean, made.reaches⟩

theorem isDirectory (made : Made here path old new location) :
    new.isDirectory here path = true :=
  isDirectory_iff.2 ⟨location, made.clean, made.reaches,
    found_eq_directory_iff.2 (.inr made.fresh.directory)⟩

theorem eq_follow (made : Made here path old new location) (free : old.LinkFree) :
    location = here.follow path := by
  obtain ⟨name, parent, rfl, named⟩ := made.named
  exact reachName_eq_follow free named

end Made

theorem makeDirectory_eq_ok {new : Disk} (ok : disk.makeDirectory here path = .ok new) :
    ∃ location, Made here path disk new location := by
  unfold makeDirectory create at ok
  split at ok
  · cases ok
  · cases ok
  rename_i name parent named
  split at ok
  · cases ok
  rename_i absent
  cases ok
  have absent : disk.entryAt (name :: parent) = none := by simpa using absent
  obtain ⟨clean, inside, -⟩ := reachName_eq_plain named
  obtain ⟨fresh, adds⟩ := put_directory inside absent
  exact ⟨name :: parent, absent, fresh, adds, clean, name, parent, rfl, named⟩

theorem settle_eq_ok {fault : Fault} {made : Option Location}
    (settled : disk.settle here path fault = .ok made) :
    made = none ∧ disk.isDirectory here path = true := by
  unfold settle at settled
  split at settled
  · cases settled
    exact ⟨rfl, ‹_›⟩
  · cases settled

/-- The places that a list of paths names. -/
def Spelled (disk : Disk) (here : Location) (paths : List Path) (location : Location) : Prop :=
  disk.LinkFree → ∃ path ∈ paths, here.follow path = location

/-- A directory made after others, and what is reported of it. -/
theorem Made.after {old middle new : Disk} {location : Location} {ancestors : List Path}
    (made : Made here path middle new location)
    (before : Adds (old.Spelled here (path :: ancestors)) old middle) :
    Adds (old.Spelled here (path :: ancestors)) old new ∧
      ∀ reported, (new.locate here path).toOption = some reported → new.Fresh reported ∧
        (old.LinkFree → ∃ head ∈ (path :: ancestors).head?, reported = here.follow head) := by
  have spelled : old.LinkFree → location = here.follow path := fun free =>
    made.eq_follow (before.linkFree free)
  refine ⟨before.trans (made.adds.mono ?_), fun reported eq => ?_⟩
  · rintro _ rfl free
    exact ⟨path, List.mem_cons_self, (spelled free).symm⟩
  · obtain rfl : location = reported := by simpa [made.locate, Except.toOption] using eq
    exact ⟨made.fresh, fun free => ⟨path, by simp, spelled free⟩⟩

theorem Spelled.weaken {old new : Disk} {paths : List Path} {location : Location}
    (spelled : new.Spelled here paths location) (free : old.LinkFree → new.LinkFree) :
    old.Spelled here (path :: paths) location := by
  intro oldFree
  obtain ⟨shorter, member, eq⟩ := spelled (free oldFree)
  exact ⟨shorter, List.mem_cons_of_mem _ member, eq⟩

theorem follow_of_extends {longer shorter : Path} {name : String}
    (extends' : longer.Extends shorter) (last : longer.fileName? = some name) :
    here.follow longer = name :: here.follow shorter := by
  obtain ⟨component, components⟩ := extends'
  unfold Path.fileName? at last
  rw [components, List.getLast?_concat] at last
  unfold Location.follow
  rw [components, List.foldl_concat]
  cases component with
  | name text =>
    obtain rfl : text = name := by simpa using last
    rfl
  | _ => simp at last

/-- What is left after an attempt to make a list of directories, each inside the next. A directory
that the attempt reports is new and empty, so one more name can be put into it. -/
theorem ensureChain_spec (paths : List Path) (chain : paths.IsChain Path.Extends)
    (disk : Disk) {result : Except Fault (Option Location)} {new : Disk}
    (ensured : disk.ensureChain here paths = (result, new)) :
    Adds (disk.Spelled here paths) disk new ∧
      ∀ made, result = .ok (some made) → new.Fresh made ∧
        (disk.LinkFree → ∃ path ∈ paths.head?, made = here.follow path) := by
  induction paths generalizing disk result new with
  | nil =>
    cases ensured
    exact ⟨.refl _ _, by simp⟩
  | cons path ancestors ih =>
    have settled : ∀ (disk : Disk) fault made, disk.settle here path fault ≠ .ok (some made) := by
      intro disk fault made eq
      simpa using (settle_eq_ok eq).1
    unfold ensureChain at ensured
    split at ensured
    · rename_i made
      cases ensured
      obtain ⟨location, made⟩ := makeDirectory_eq_ok made
      obtain ⟨adds, reported⟩ := made.after (.refl _ disk)
      exact ⟨adds, fun other eq => reported other (by simpa using eq)⟩
    · split at ensured
      · rename_i fault middle upper
        cases ensured
        have adds := (ih chain.tail disk upper).1
        exact ⟨adds.mono fun _ spelled => spelled.weaken id, by simp⟩
      rename_i made middle upper
      obtain ⟨adds, reported⟩ := ih chain.tail disk upper
      have adds : Adds (disk.Spelled here (path :: ancestors)) disk middle :=
        adds.mono fun _ spelled => spelled.weaken id
      split at ensured
      · -- The directory above is new, so the name can be put there without a look.
        rename_i parent name last
        obtain ⟨fresh, above⟩ := reported parent rfl
        have location : disk.LinkFree → name :: parent = here.follow path := by
          intro free
          obtain ⟨ancestor, head, rfl⟩ := above free
          obtain ⟨more, rfl⟩ := List.head?_eq_some_iff.1 (Option.mem_def.1 head)
          exact (follow_of_extends (List.isChain_cons_cons.1 chain).1 last).symm
        split at ensured
        · cases ensured
          exact ⟨adds, by simp⟩
        · cases ensured
          obtain ⟨fresh', put⟩ := put_directory fresh.directory (fresh.bare name)
          refine ⟨adds.trans (put.mono ?_), fun other eq => ?_⟩
          · rintro _ rfl free
            exact ⟨path, List.mem_cons_self, (location free).symm⟩
          · obtain rfl : name :: parent = other := by simpa using eq
            exact ⟨fresh', fun free => ⟨path, by simp, location free⟩⟩
      · split at ensured
        · rename_i made
          cases ensured
          obtain ⟨location, made⟩ := makeDirectory_eq_ok made
          obtain ⟨adds, reported⟩ := made.after adds
          exact ⟨adds, fun other eq => reported other (by simpa using eq)⟩
        · cases ensured
          exact ⟨adds, fun made eq => absurd eq (settled _ _ _)⟩
    · cases ensured
      exact ⟨.refl _ _, fun made eq => absurd eq (settled _ _ _)⟩

theorem onTheWay_of_mem {path ancestor : Path} (nonempty : path.isEmpty = false)
    (member : ancestor ∈ path :: path.ancestors) : here.OnTheWay path (here.follow ancestor) := by
  rcases List.mem_cons.1 member with rfl | member
  · exact ⟨_, Path.components_ne_nil nonempty, List.prefix_rfl, rfl⟩
  · obtain ⟨some, leading⟩ := (Path.ancestors_spec path).2 ancestor member
    exact ⟨_, some, leading, rfl⟩

/-- The last of two attempts: the directory is made now, or has to be there. -/
def lastAttempt (disk : Disk) (here : Location) (path : Path) : Except Fault Unit × Disk :=
  match disk.makeDirectory here path with
  | .ok disk => (.ok (), disk)
  | .error fault => ((disk.settle here path fault).map fun _ => (), disk)

theorem lastAttempt_spec {result : Except Fault Unit} {new : Disk}
    (again : disk.lastAttempt here path = (result, new)) :
    Adds (disk.Spelled here [path]) disk new ∧
      (result = .ok () → new.isDirectory here path = true) := by
  unfold lastAttempt at again
  split at again
  · rename_i made
    cases again
    obtain ⟨location, made⟩ := makeDirectory_eq_ok made
    exact ⟨(made.after (.refl _ _)).1, fun _ => made.isDirectory⟩
  · rename_i fault failed
    cases again
    refine ⟨.refl _ _, fun ok => ?_⟩
    cases settled : disk.settle here path fault with
    | error fault' => simp [settled, Except.map] at ok
    | ok made => exact (settle_eq_ok settled).2

/-- Whatever becomes of making a directory, only directories on the way to it come into being. -/
theorem ensureDirectory_spec {result : Except Fault Unit} {new : Disk}
    (ensured : disk.ensureDirectory here path = (result, new)) :
    Adds (fun location => disk.LinkFree → here.OnTheWay path location) disk new ∧
      (result = .ok () → path.isEmpty = false → new.isDirectory here path = true) := by
  have onTheWay : ∀ paths ⊆ path :: path.ancestors, path.isEmpty = false → ∀ location,
      disk.Spelled here paths location → disk.LinkFree → here.OnTheWay path location := by
    intro paths leading nonempty location spelled free
    obtain ⟨ancestor, member, rfl⟩ := spelled free
    exact onTheWay_of_mem nonempty (leading member)
  unfold ensureDirectory at ensured
  dsimp only at ensured
  split at ensured
  · rename_i empty
    cases ensured
    exact ⟨.refl _ _, fun _ nonempty => by simp [empty] at nonempty⟩
  rename_i nonempty
  replace nonempty : path.isEmpty = false := by simpa using nonempty
  split at ensured
  · split at ensured
    · rename_i upper
      cases ensured
      have chain := ensureChain_spec _ (Path.ancestors_spec path).1 disk upper
      exact ⟨chain.1.mono (onTheWay _ (List.subset_cons_self _ _) nonempty), by simp⟩
    · rename_i upper
      have chain := ensureChain_spec _ (Path.ancestors_spec path).1 disk upper
      obtain ⟨adds, directory⟩ := lastAttempt_spec ensured
      have before := chain.1.mono (onTheWay _ (List.subset_cons_self _ _) nonempty)
      refine ⟨before.trans (adds.mono fun location spelled => ?_), fun ok _ => directory ok⟩
      exact fun free => onTheWay [path] (by simp) nonempty location
        (fun _ => spelled (before.linkFree free)) free
  · obtain ⟨adds, directory⟩ := lastAttempt_spec ensured
    exact ⟨adds.mono (onTheWay [path] (by simp) nonempty), fun ok _ => directory ok⟩

/-- A directory is not made anew. -/
theorem makeDirectory_of_isDirectory (directory : disk.isDirectory here path = true) :
    ∃ fault, fault ≠ .notFound ∧ disk.makeDirectory here path = .error fault := by
  obtain ⟨location, clean, reaches, -⟩ := isDirectory_iff.1 directory
  obtain ⟨blanks, pieces, blank⟩ := stripped_pieces path.pieces
  suffices named : ∃ found, disk.reachName here path = .ok found ∧
      ∀ name parent, found = .plain name parent → disk.entryAt (name :: parent) ≠ none by
    obtain ⟨found, named, present⟩ := named
    refine ⟨.alreadyExists, by simp, ?_⟩
    unfold makeDirectory create
    rw [named]
    cases found with
    | special last location => rfl
    | plain name parent => simp [Option.isSome_iff_ne_none, present name parent rfl]
  unfold reachName
  rw [clean]
  dsimp only
  cases found : (path.pieces.reverse.dropWhile (· = "")).reverse.getLast? with
  | none => exact ⟨_, rfl, by simp⟩
  | some last =>
    obtain ⟨first, shape⟩ := List.getLast?_eq_some_iff.1 found
    have nonempty : last ≠ "" := by
      have head := List.head?_dropWhile_not (· = "") path.pieces.reverse
      rw [List.getLast?_reverse] at found
      simpa [found] using head
    rw [Reaches, pieces, shape, List.append_assoc] at reaches
    obtain ⟨middle, left, led, onward⟩ := walk_split (by simp) _ _ _ reaches
    obtain ⟨onLink, eq⟩ := walk_eq_walkWith disk false left
    rw [eq, List.singleton_append] at onward
    unfold Path.start at led
    obtain ⟨standing, stays | ⟨rfl, -⟩ | ⟨proper, inside, short, found⟩⟩ := walkWith_cons onward
    · obtain rfl : last = "." := stays.1.resolve_left nonempty
      refine ⟨.special .current middle, ?_, by simp⟩
      rcases standing with h | h <;> simp [shape, led, h]
    · refine ⟨.special .parent middle.tail, ?_, by simp⟩
      rcases standing with h | h <;> simp [shape, led, h]
    · refine ⟨.plain last middle, by simp [shape, led, inside, proper, short], ?_⟩
      rintro name parent same
      cases same
      rcases found with ⟨-, -, vacant⟩ | ⟨target, found, -⟩ | ⟨entry, found, -⟩
      · cases vacant
      · simp [found]
      · simp [found]

/-- Unless something above is missing, a directory that cannot be made has to be there. -/
theorem ensureDirectory_of_error {fault : Fault} (nonempty : path.isEmpty = false)
    (failed : disk.makeDirectory here path = .error fault) (other : fault ≠ .notFound) :
    disk.ensureDirectory here path = ((disk.settle here path fault).map fun _ => (), disk) := by
  unfold ensureDirectory
  dsimp only
  rw [nonempty, failed, if_neg (by simp)]
  split
  · rename_i missing
    exact absurd (Except.error.inj missing) other
  · rfl

theorem isEmpty_of_isDirectory (directory : disk.isDirectory here path = true) :
    path.isEmpty = false := by
  obtain ⟨location, clean, -⟩ := isDirectory_iff.1 directory
  exact isEmpty_of_clean clean

theorem ensureDirectory_of_isDirectory (directory : disk.isDirectory here path = true) :
    disk.ensureDirectory here path = (.ok (), disk) := by
  obtain ⟨fault, other, failed⟩ := makeDirectory_of_isDirectory directory
  rw [ensureDirectory_of_error (isEmpty_of_isDirectory directory) failed other]
  simp [settle, directory, Except.map]

section Child

variable {base : Path} {location : Location} {name : String}

theorem makeDirectory_child (reaches : disk.Reaches here base location) (isName : Path.IsName name)
    (standing : disk.entryAt location = some .directory) {result : Except Fault Disk}
    (made : disk.makeDirectory here (base.child name) = result) :
    (∃ fault, fault ≠ .notFound ∧ result = .error fault) ∨
      (disk.entryAt (name :: location) = none ∧
        result = .ok (disk.put name location .directory)) := by
  rw [makeDirectory, create, reachName_child reaches isName standing] at made
  cases faulty : textFault? (base.child name) with
  | some fault =>
    refine .inl ⟨fault, ?_, by simpa [faulty] using made.symm⟩
    rintro rfl
    have nonempty := Path.isEmpty_child base isName
    unfold textFault? at faulty
    split at faulty <;> simp_all
  | none =>
    rw [faulty] at made
    by_cases long : nameLimit < name.utf8ByteSize
    · exact .inl ⟨.nameTooLong, by simp, by simpa [long] using made.symm⟩
    · cases found : disk.entryAt (name :: location) with
      | none => exact .inr ⟨rfl, by simpa [long, found] using made.symm⟩
      | some entry => exact .inl ⟨.alreadyExists, by simp, by simpa [long, found] using made.symm⟩

/-- One directory in a directory that is there: it is there already, or is made, or nothing is
changed. -/
theorem ensureDirectory_child (reaches : disk.Reaches here base location)
    (isName : Path.IsName name) (standing : disk.entryAt location = some .directory)
    {result : Except Fault Unit} {new : Disk}
    (ensured : disk.ensureDirectory here (base.child name) = (result, new)) :
    new = disk ∨ (result = .ok () ∧ disk.entryAt (name :: location) = none ∧
      new = disk.put name location .directory) := by
  have nonempty := Path.isEmpty_child base isName
  rcases makeDirectory_child reaches isName standing rfl with ⟨fault, other, eq⟩ | ⟨absent, eq⟩
  · rw [ensureDirectory_of_error nonempty eq other] at ensured
    cases ensured
    exact .inl rfl
  · unfold ensureDirectory at ensured
    simp only [nonempty, eq] at ensured
    cases ensured
    exact .inr ⟨rfl, absent, rfl⟩

end Child

end Disk

end ModelForge
