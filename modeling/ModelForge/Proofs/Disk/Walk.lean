import ModelForge.Disk.Walk
import ModelForge.Proofs.Path.Descent

/-! Where walks lead. A walk along a path and more goes through the place to which the path
leads; a disk on which directories and links stay where they are is walked in the same way; and
without links a path leads where its text says. -/
namespace ModelForge

namespace Disk

/-- The entry that a walk has found, or the one that it would make. -/
def Place.location : Place → Location
  | .taken location => location
  | .vacant name parent => name :: parent

def LinkFree (disk : Disk) : Prop := ∀ location target, disk.entryAt location ≠ some (.link target)

def isLink : Entry → Bool
  | .link _ => true
  | _ => false

theorem linkFree_iff {disk : Disk} :
    disk.LinkFree ↔ ∀ listed ∈ disk.entries.toList, isLink listed.2 = false := by
  constructor
  · rintro free ⟨location, entry⟩ member
    have found := Std.ExtTreeMap.mem_toList_iff_getElem?_eq_some.1 member
    cases location with
    | nil => rw [disk.rootless] at found; cases found
    | cons name parent =>
      cases entry with
      | link target => exact absurd found (free (name :: parent) target)
      | _ => rfl
  · intro none location target found
    cases location with
    | nil => cases found
    | cons name parent =>
      have member := Std.ExtTreeMap.mem_toList_iff_getElem?_eq_some.2 found
      cases none (name :: parent, .link target) member

instance (disk : Disk) : Decidable disk.LinkFree := decidable_of_iff _ linkFree_iff.symm

/-- A path leads to a location, whatever the length of its text. The empty path leads to where one
stands. -/
def Reaches (disk : Disk) (here : Location) (path : Path) (location : Location) : Prop :=
  disk.walk false linkLimit (path.start here) path.pieces = .ok (.taken location)

/-- What one stretch of a successful walk does. -/
theorem walkWith_cons {disk : Disk} {creating : Bool}
    {onLink : Location → List String → Except Fault Place} {here : Location} {piece : String}
    {rest : List String} {place : Place}
    (walked : disk.walkWith creating onLink here (piece :: rest) = .ok place) :
    (disk.entryAt here = none ∨ disk.entryAt here = some .directory) ∧
    (((piece = "" ∨ piece = ".") ∧ disk.walkWith creating onLink here rest = .ok place) ∨
    (piece = ".." ∧ disk.walkWith creating onLink here.tail rest = .ok place) ∨
    ((piece ≠ "" ∧ piece ≠ "." ∧ piece ≠ "..") ∧ disk.entryAt here = some .directory ∧
      ¬nameLimit < piece.utf8ByteSize ∧
      ((disk.entryAt (piece :: here) = none ∧ rest.all (· = "") = true ∧
          place = .vacant piece here) ∨
        (∃ target, disk.entryAt (piece :: here) = some (.link target) ∧
          onLink (if target.isAbsolute then [] else here) (target.pieces ++ rest) = .ok place) ∨
        (∃ entry, disk.entryAt (piece :: here) = some entry ∧ (∀ target, entry ≠ .link target) ∧
          disk.walkWith creating onLink (piece :: here) rest = .ok place)))) := by
  rw [walkWith] at walked
  dsimp only at walked
  split at walked
  · contradiction
  rename_i standing
  have stands : disk.entryAt here = none ∨ disk.entryAt here = some .directory := by
    by_cases absent : disk.entryAt here = none
    · exact .inl absent
    · exact .inr (Classical.byContradiction fun other => standing ⟨absent, other⟩)
  refine ⟨stands, ?_⟩
  split at walked
  · exact .inl ⟨‹_›, walked⟩
  rename_i moves
  split at walked
  · exact .inr (.inl ⟨‹_›, walked⟩)
  rename_i notUp
  rw [not_or] at moves
  split at walked
  · contradiction
  split at walked
  · contradiction
  rename_i exists'
  split at walked
  · contradiction
  rename_i short
  refine .inr (.inr ⟨⟨moves.1, moves.2, notUp⟩, stands.resolve_left exists', short, ?_⟩)
  split at walked
  · rename_i absent
    split at walked
    · exact .inl ⟨absent, ‹_›, (Except.ok.inj walked).symm⟩
    · contradiction
  · rename_i target found
    exact .inr (.inl ⟨target, found, walked⟩)
  · rename_i entry notLink found
    exact .inr (.inr ⟨entry, found, fun target eq => notLink target (eq ▸ rfl), walked⟩)

section Equations

variable {disk : Disk} {creating : Bool} {onLink : Location → List String → Except Fault Place}
  {here : Location} {piece : String} {rest : List String}

theorem walkWith_stay (standing : disk.entryAt here = none ∨ disk.entryAt here = some .directory)
    (stays : piece = "" ∨ piece = ".") :
    disk.walkWith creating onLink here (piece :: rest) =
      disk.walkWith creating onLink here rest := by
  rw [walkWith]
  rcases standing with h | h <;> simp [h, stays]

theorem walkWith_up (standing : disk.entryAt here = none ∨ disk.entryAt here = some .directory) :
    disk.walkWith creating onLink here (".." :: rest) =
      disk.walkWith creating onLink here.tail rest := by
  rw [walkWith]
  rcases standing with h | h <;> simp [h]

/-- Whether what comes after a name leaves it to be looked up like any other: nothing does, or
something with a name in it, or the walk is not about to make a file. -/
def Ordinary (creating : Bool) (rest : List String) : Prop :=
  creating = false ∨ rest = [] ∨ ∃ piece ∈ rest, piece ≠ ""

theorem Ordinary.not_slashed (ordinary : Ordinary creating rest) :
    ¬(creating = true ∧ rest.all (· = "") = true ∧ rest ≠ []) := by
  rintro ⟨making, blank, some⟩
  rcases ordinary with reading | last | ⟨more, member, nonempty⟩
  · simp [reading] at making
  · exact some last
  · simp only [List.all_eq_true, decide_eq_true_eq] at blank
    exact nonempty (blank more member)

theorem walkWith_name (proper : piece ≠ "" ∧ piece ≠ "." ∧ piece ≠ "..")
    (standing : disk.entryAt here = some .directory) (short : ¬nameLimit < piece.utf8ByteSize)
    {entry : Entry} (found : disk.entryAt (piece :: here) = some entry)
    (notLink : ∀ target, entry ≠ .link target) (ordinary : Ordinary creating rest) :
    disk.walkWith creating onLink here (piece :: rest) =
      disk.walkWith creating onLink (piece :: here) rest := by
  rw [walkWith]
  simp only [standing, proper, ordinary.not_slashed, short, found]
  cases entry with
  | link target => exact absurd rfl (notLink target)
  | _ => simp

theorem walkWith_link (proper : piece ≠ "" ∧ piece ≠ "." ∧ piece ≠ "..")
    (standing : disk.entryAt here = some .directory) (short : ¬nameLimit < piece.utf8ByteSize)
    {target : Path} (found : disk.entryAt (piece :: here) = some (.link target))
    (ordinary : Ordinary creating rest) :
    disk.walkWith creating onLink here (piece :: rest) =
      onLink (target.start here) (target.pieces ++ rest) := by
  rw [walkWith]
  simp only [standing, proper, ordinary.not_slashed, short, found, Path.start]
  simp

end Equations

theorem walk_eq_walkWith (disk : Disk) (creating : Bool) (links : Nat) :
    ∃ onLink, disk.walk creating links = disk.walkWith creating onLink := by
  cases links with
  | zero => exact ⟨_, rfl⟩
  | succ links => exact ⟨_, rfl⟩

/-- What is said of the walk that is left after `first` carries over the stretches of `first`, when
it carries over links. -/
theorem walkWith_append {disk : Disk} {creating : Bool}
    {onLink onLink' : Location → List String → Except Fault Place} {rest : List String}
    (named : ∃ piece ∈ rest, piece ≠ "") (Left : Location → Except Fault Place → Prop)
    (nil : ∀ location, Left location (disk.walkWith creating onLink' location rest))
    (link : ∀ base pieces location, onLink base pieces = .ok (.taken location) →
      Left location (onLink' base (pieces ++ rest)))
    (here : Location) (first : List String) {location : Location}
    (walked : disk.walkWith false onLink here first = .ok (.taken location)) :
    Left location (disk.walkWith creating onLink' here (first ++ rest)) := by
  induction first generalizing here with
  | nil =>
    rw [walkWith] at walked
    obtain rfl : here = location := by simpa using walked
    exact nil here
  | cons piece more ih =>
    have ordinary : Ordinary creating (more ++ rest) := by
      obtain ⟨piece', member, nonempty⟩ := named
      exact .inr (.inr ⟨piece', List.mem_append_right _ member, nonempty⟩)
    rw [List.cons_append]
    obtain ⟨standing, ⟨stays, onward⟩ | ⟨rfl, onward⟩ | ⟨proper, inside, short, found⟩⟩ :=
      walkWith_cons walked
    · rw [walkWith_stay standing stays]
      exact ih here onward
    · rw [walkWith_up standing]
      exact ih here.tail onward
    rcases found with ⟨-, -, eq⟩ | ⟨target, found, onward⟩ | ⟨entry, found, notLink, onward⟩
    · cases eq
    · rw [walkWith_link proper inside short found ordinary, ← List.append_assoc]
      exact link _ _ location onward
    · rw [walkWith_name proper inside short found notLink ordinary]
      exact ih (piece :: here) onward

/-- The walk along `first` and more, where more has a name in it, is the walk from the place to
which `first` leads, with the links that are left. -/
theorem walk_append {disk : Disk} {creating : Bool} {rest : List String}
    (named : ∃ piece ∈ rest, piece ≠ "") (links : Nat) (here : Location) (first : List String)
    {location : Location} (walked : disk.walk false links here first = .ok (.taken location)) :
    ∃ left, disk.walk creating links here (first ++ rest) =
      disk.walk creating left location rest := by
  induction links generalizing here first location with
  | zero =>
    exact walkWith_append named
      (fun location result => ∃ left, result = disk.walk creating left location rest)
      (fun _ => ⟨0, rfl⟩) (by intro _ _ _ jumped; cases jumped) here first walked
  | succ links ih =>
    exact walkWith_append named
      (fun location result => ∃ left, result = disk.walk creating left location rest)
      (fun _ => ⟨links + 1, rfl⟩) (fun base pieces _ walked => ih base pieces walked)
      here first walked

/-- The other way round: a walk can be broken off anywhere before the name that it would make. -/
theorem walkWith_split {disk : Disk} {creating : Bool}
    {onLink onLink' : Location → List String → Except Fault Place} {rest : List String}
    {place : Place} (ends : ∀ name parent, place = .vacant name parent → ∃ piece ∈ rest, piece ≠ "")
    (Left : Except Fault Place → Prop)
    (nil : ∀ middle, disk.walkWith creating onLink middle rest = .ok place →
      Left (.ok (.taken middle)))
    (link : ∀ base pieces, onLink base (pieces ++ rest) = .ok place → Left (onLink' base pieces))
    (here : Location) (first : List String)
    (walked : disk.walkWith creating onLink here (first ++ rest) = .ok place) :
    Left (disk.walkWith false onLink' here first) := by
  induction first generalizing here with
  | nil => exact nil here walked
  | cons piece more ih =>
    obtain ⟨standing, ⟨stays, onward⟩ | ⟨rfl, onward⟩ | ⟨proper, inside, short, found⟩⟩ :=
      walkWith_cons walked
    · rw [walkWith_stay standing stays]
      exact ih here onward
    · rw [walkWith_up standing]
      exact ih here.tail onward
    rcases found with ⟨-, blank, eq⟩ | ⟨target, found, onward⟩ | ⟨entry, found, notLink, onward⟩
    · obtain ⟨named, member, nonempty⟩ := ends _ _ eq
      simp only [List.all_eq_true, decide_eq_true_eq] at blank
      exact absurd (blank named (List.mem_append_right _ member)) nonempty
    · rw [walkWith_link proper inside short found (.inl rfl)]
      exact link _ _ (by rwa [List.append_assoc])
    · rw [walkWith_name proper inside short found notLink (.inl rfl)]
      exact ih (piece :: here) onward

theorem walk_split {disk : Disk} {creating : Bool} {rest : List String} {place : Place}
    (ends : ∀ name parent, place = .vacant name parent → ∃ piece ∈ rest, piece ≠ "") (links : Nat)
    (here : Location) (first : List String)
    (walked : disk.walk creating links here (first ++ rest) = .ok place) :
    ∃ middle left, disk.walk false links here first = .ok (.taken middle) ∧
      disk.walk creating left middle rest = .ok place := by
  induction links generalizing here first with
  | zero =>
    exact walkWith_split ends (fun result => ∃ middle left, result = .ok (.taken middle) ∧
        disk.walk creating left middle rest = .ok place)
      (fun middle walked => ⟨middle, 0, rfl, walked⟩) (by intro _ _ jumped; cases jumped)
      here first walked
  | succ links ih =>
    exact walkWith_split ends (fun result => ∃ middle left, result = .ok (.taken middle) ∧
        disk.walk creating left middle rest = .ok place)
      (fun middle walked => ⟨middle, links + 1, rfl, walked⟩) (fun base pieces => ih base pieces)
      here first walked

/-- Directories and links stay where they are; and where one stands in a directory that has been
taken away, nothing but a directory comes into its place. -/
structure Keeps (here : Location) (old new : Disk) : Prop where
  directory : ∀ location, old.entryAt location = some .directory →
    new.entryAt location = some .directory
  link : ∀ location target, old.entryAt location = some (.link target) →
    new.entryAt location = some (.link target)
  standing : ∀ location, location <:+ here → old.entryAt location = none →
    new.entryAt location = none ∨ new.entryAt location = some .directory

theorem Keeps.refl (here : Location) (disk : Disk) : disk.Keeps here disk :=
  ⟨fun _ h => h, fun _ _ h => h, fun _ _ h => .inl h⟩

theorem Keeps.trans {here : Location} {a b c : Disk} (first : Keeps here a b)
    (second : Keeps here b c) : Keeps here a c where
  directory location h := second.directory location (first.directory location h)
  link location target h := second.link location target (first.link location target h)
  standing location below h := by
    rcases first.standing location below h with none | directory
    · exact second.standing location below none
    · exact .inr (second.directory location directory)

theorem Keeps.start {here : Location} {old new : Disk} (kept : Keeps here old new) (path : Path) :
    Keeps (path.start here) old new := by
  refine { kept with standing := fun location higher absent => ?_ }
  unfold Path.start at higher
  split at higher
  · obtain rfl := List.suffix_nil.1 higher
    simp at absent
  · exact kept.standing location higher absent

/-- A place at which there is neither a directory nor a link. No process stands there or below. -/
structure Loose (disk : Disk) (here place : Location) : Prop where
  notDirectory : disk.entryAt place ≠ some .directory
  notLink : ∀ target, disk.entryAt place ≠ some (.link target)
  apart : ¬place <:+ here

/-- No way leads by a loose place, so what lies there may change. -/
theorem Keeps.of_loose {here : Location} {old new : Disk} {places : Location → Prop}
    (frame : ∀ location, ¬places location → new.entryAt location = old.entryAt location)
    (loose : ∀ place, places place → old.Loose here place) : Keeps here old new where
  directory location found :=
    (frame location fun place => (loose location place).notDirectory found).trans found
  link location target found :=
    (frame location fun place => (loose location place).notLink target found).trans found
  standing location higher absent :=
    .inl ((frame location fun place => (loose location place).apart higher).trans absent)

theorem Keeps.of_loose_place {here place : Location} {old new : Disk}
    (frame : ∀ location, location ≠ place → new.entryAt location = old.entryAt location)
    (loose : old.Loose here place) : Keeps here old new :=
  @Keeps.of_loose here old new (· = place) frame (by rintro _ rfl; exact loose)

theorem entryAt_parent_ne_none {disk : Disk} {name : String} {parent : Location}
    (found : disk.entryAt (name :: parent) ≠ none) : disk.entryAt parent = some .directory :=
  entryAt_parent (Option.isSome_iff_ne_none.2 found)

theorem entryAt_suffix {disk : Disk} {above location : Location} (higher : above <:+ location)
    (found : disk.entryAt location ≠ none) (proper : above ≠ location) :
    disk.entryAt above = some .directory := by
  induction location with
  | nil => exact absurd (List.suffix_nil.1 higher) proper
  | cons name parent ih =>
    rcases List.suffix_cons_iff.1 higher with eq | higher
    · exact absurd eq proper
    have directory := entryAt_parent_ne_none found
    by_cases eq : above = parent
    · rw [eq]; exact directory
    · exact ih higher (by simp [directory]) eq

/-- A walk that is about to make a file ends with the name of it. -/
theorem last_of_creating {disk : Disk} {onLink : Location → List String → Except Fault Place}
    {here : Location} {piece : String} {rest : List String} {place : Place}
    (proper : piece ≠ "" ∧ piece ≠ "." ∧ piece ≠ "..") (blank : rest.all (· = "") = true)
    (walked : disk.walkWith true onLink here (piece :: rest) = .ok place) : rest = [] := by
  by_contra more
  rw [walkWith] at walked
  simp only [proper, blank] at walked
  split at walked <;> simp [more] at walked

/-- What has to lie where a walk has ended, for a walk to end there once more: a file or device
where there was one, and an entry under a name that was to be made. -/
structure Lands (old new : Disk) (creating : Bool) (place : Place) : Prop where
  taken : ∀ entry, old.entryAt place.location = some entry → entry ≠ .directory →
    (∀ target, entry ≠ .link target) →
      ∃ there, new.entryAt place.location = some there ∧ ∀ target, there ≠ .link target
  vacant : ∀ name parent, place = .vacant name parent → creating = true ∧
    ∃ made, new.entryAt (name :: parent) = some made ∧ ∀ target, made ≠ .link target

/-- A walk leads to the same place on a disk that keeps what it passed and the entry at its end. -/
theorem walkWith_lands {old new : Disk} {creating : Bool}
    {onLink onLink' : Location → List String → Except Fault Place} {place : Place}
    (here : Location) (pieces : List String) (kept : Keeps here old new)
    (lands : Lands old new creating place)
    (link : ∀ base pieces, Keeps base old new → onLink base pieces = .ok place →
      onLink' base pieces = .ok (.taken place.location))
    (walked : old.walkWith creating onLink here pieces = .ok place) :
    new.walkWith false onLink' here pieces = .ok (.taken place.location) := by
  induction pieces generalizing here with
  | nil =>
    cases walked
    rfl
  | cons piece rest ih =>
    obtain ⟨standing, found⟩ := walkWith_cons walked
    have standing' : new.entryAt here = none ∨ new.entryAt here = some .directory := by
      rcases standing with none | directory
      · exact kept.standing here List.suffix_rfl none
      · exact .inr (kept.directory here directory)
    obtain ⟨stays, onward⟩ | ⟨rfl, onward⟩ | ⟨proper, inside, short, found⟩ := found
    · rw [walkWith_stay standing' stays]
      exact ih here kept onward
    · rw [walkWith_up standing']
      exact ih here.tail
        { kept with standing := fun at' higher =>
            kept.standing at' (higher.trans (List.tail_suffix here)) } onward
    have inside' := kept.directory here inside
    rcases found with ⟨-, blank, eq⟩ | ⟨target, found, onward⟩ | ⟨entry, found, notLink, onward⟩
    · obtain ⟨rfl, made, there, notLink⟩ := lands.vacant _ _ eq
      rw [last_of_creating proper blank walked, eq,
        walkWith_name proper inside' short there notLink (.inl rfl)]
      rfl
    · rw [walkWith_link proper inside' short (kept.link _ target found) (.inl rfl)]
      exact link _ _ (kept.start target) onward
    · by_cases directory : entry = .directory
      · subst directory
        have below : ∀ at', at' <:+ piece :: here → old.entryAt at' = none →
            new.entryAt at' = none ∨ new.entryAt at' = some .directory := by
          intro at' higher absent
          rcases List.suffix_cons_iff.1 higher with rfl | higher
          · simp [found] at absent
          · exact kept.standing at' higher absent
        rw [walkWith_name proper inside' short (kept.directory _ found) notLink (.inl rfl)]
        exact ih (piece :: here) { kept with standing := below } onward
      · -- A file or a device can only be the end of the walk.
        cases rest with
        | nil =>
          obtain rfl : Place.taken (piece :: here) = place := by simpa [walkWith] using onward
          obtain ⟨there, found', notLink'⟩ := lands.taken entry found directory notLink
          rw [walkWith_name proper inside' short found' notLink' (.inl rfl)]
          rfl
        | cons next more =>
          have blocked := (walkWith_cons onward).1
          simp [found, directory] at blocked

theorem walk_lands {old new : Disk} {creating : Bool} {place : Place} (links : Nat)
    (here : Location) (pieces : List String) (kept : Keeps here old new)
    (lands : Lands old new creating place)
    (walked : old.walk creating links here pieces = .ok place) :
    new.walk false links here pieces = .ok (.taken place.location) := by
  induction links generalizing here pieces with
  | zero => exact walkWith_lands here pieces kept lands (by intro _ _ _ jumped; cases jumped) walked
  | succ links ih => exact walkWith_lands here pieces kept lands ih walked

theorem walk_keeps {old new : Disk} {location : Location} (links : Nat) (here : Location)
    (pieces : List String) (kept : Keeps here old new)
    (same : ∀ entry, old.entryAt location = some entry → new.entryAt location = some entry)
    (walked : old.walk false links here pieces = .ok (.taken location)) :
    new.walk false links here pieces = .ok (.taken location) :=
  have lands : Lands old new false (.taken location) :=
    ⟨fun entry found _ notLink => ⟨entry, same entry found, notLink⟩, by rintro _ _ ⟨⟩⟩
  walk_lands links here pieces kept lands walked

end Disk

end ModelForge
