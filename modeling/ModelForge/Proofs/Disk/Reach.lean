import ModelForge.Proofs.Disk.Walk

/-! The places that paths stand for. A path joined to one that leads to a directory stands for
the name in that directory. Where there are no links, a path stands for the location that its
text spells. -/
namespace ModelForge

namespace Disk

variable {disk : Disk} {here : Location}

theorem isEmpty_of_clean {path : Path} (clean : textFault? path = none) : path.isEmpty = false := by
  unfold textFault? at clean
  split at clean
  · cases clean
  split at clean
  · cases clean
  simpa using ‹¬path.isEmpty = true›

theorem size_of_clean {path : Path} (clean : textFault? path = none) :
    path.text.utf8ByteSize ≤ pathLimit := by
  unfold textFault? at clean
  split at clean
  · cases clean
  split at clean
  · cases clean
  split at clean
  · cases clean
  · omega

theorem reach_eq_ok {creating : Bool} {path : Path} {place : Place}
    (reached : disk.reach creating here path = .ok place) :
    textFault? path = none ∧
      disk.walk creating linkLimit (path.start here) path.pieces = .ok place := by
  unfold reach at reached
  split at reached
  · contradiction
  · exact ⟨‹_›, reached⟩

theorem Reaches.reach {path : Path} {location : Location}
    (reaches : disk.Reaches here path location) (clean : textFault? path = none) :
    disk.reach false here path = .ok (.taken location) := by
  unfold Disk.reach
  rw [clean]
  exact reaches

theorem locate_eq_ok_iff {path : Path} {location : Location} :
    disk.locate here path = .ok location ↔
      textFault? path = none ∧ disk.Reaches here path location := by
  constructor
  · intro located
    unfold locate at located
    split at located <;> cases located
    exact reach_eq_ok ‹_›
  · rintro ⟨clean, reaches⟩
    simp [locate, reaches.reach clean]

theorem isDirectory_iff {path : Path} :
    disk.isDirectory here path = true ↔ ∃ location, textFault? path = none ∧
      disk.Reaches here path location ∧ disk.found location = .directory := by
  unfold isDirectory status?
  rw [decide_eq_true_iff]
  constructor
  · intro status
    cases located : disk.locate here path with
    | error fault => simp [located] at status
    | ok location =>
      obtain ⟨clean, reaches⟩ := locate_eq_ok_iff.1 located
      exact ⟨location, clean, reaches, by simpa [located] using status⟩
  · rintro ⟨location, clean, reaches, standing⟩
    simp [locate_eq_ok_iff.2 ⟨clean, reaches⟩, standing]

theorem found_eq_directory_iff {location : Location} :
    disk.found location = .directory ↔
      disk.entryAt location = none ∨ disk.entryAt location = some .directory := by
  unfold found
  cases disk.entryAt location <;> simp

/-- What a kept disk still reaches. -/
theorem Reaches.keeps {old new : Disk} {path : Path} {location : Location}
    (reaches : old.Reaches here path location) (kept : Keeps here old new)
    (same : ∀ entry, old.entryAt location = some entry → new.entryAt location = some entry) :
    new.Reaches here path location :=
  walk_keeps _ _ _ (kept.start path) same reaches

/-- A walk over empty stretches stays in its directory. -/
theorem walkWith_blank {creating : Bool} {onLink : Location → List String → Except Fault Place}
    {location : Location} {blanks : List String}
    (standing : disk.entryAt location = none ∨ disk.entryAt location = some .directory)
    (blank : ∀ piece ∈ blanks, piece = "") :
    disk.walkWith creating onLink location blanks = .ok (.taken location) := by
  induction blanks with
  | nil => rfl
  | cons piece rest ih =>
    rw [walkWith_stay standing (.inl (blank piece List.mem_cons_self))]
    exact ih fun other member => blank other (List.mem_cons_of_mem _ member)

section Child

variable {base : Path} {location : Location} {name : String}

/-- The walk along a joined path ends with a step from where the first path leads. -/
theorem walk_child (creating : Bool) (reaches : disk.Reaches here base location)
    (isName : Path.IsName name) :
    ∃ first, (base.child name).pieces = first ++ [name] ∧
      disk.walk false linkLimit (base.start here) first = .ok (.taken location) ∧
      ∃ left, disk.walk creating linkLimit (base.start here) (base.child name).pieces =
        disk.walk creating left location [name] := by
  obtain ⟨first, shape, before⟩ := Path.pieces_child base isName.unslashed
  have led : disk.walk false linkLimit (base.start here) first = .ok (.taken location) := by
    unfold Reaches at reaches
    rcases before with eq | eq <;> rw [eq] at reaches
    · exact reaches
    · obtain ⟨middle, left, led, onward⟩ := walk_split (by simp) _ _ _ reaches
      obtain ⟨onLink, eq⟩ := walk_eq_walkWith disk false left
      rw [eq] at onward
      have standing := (walkWith_cons onward).1
      rw [walkWith_blank standing (by simp)] at onward
      cases onward
      exact led
  refine ⟨first, shape, led, ?_⟩
  rw [shape]
  exact walk_append ⟨name, by simp, isName.nonempty⟩ _ _ _ led

/-- What a joined path stands for, when no link has that name. -/
theorem reach_child {creating : Bool} {place : Place} (reaches : disk.Reaches here base location)
    (isName : Path.IsName name)
    (notLink : ∀ target, disk.entryAt (name :: location) ≠ some (.link target))
    (reached : disk.reach creating here (base.child name) = .ok place) :
    disk.entryAt location = some .directory ∧ ¬nameLimit < name.utf8ByteSize ∧
      ((disk.entryAt (name :: location) = none ∧ place = .vacant name location) ∨
        (disk.entryAt (name :: location) ≠ none ∧ place = .taken (name :: location))) := by
  obtain ⟨-, walked⟩ := reach_eq_ok reached
  rw [Path.start_child base here isName.unslashed] at walked
  obtain ⟨-, -, -, left, eq⟩ := walk_child creating reaches isName
  obtain ⟨onLink, with'⟩ := walk_eq_walkWith disk creating left
  rw [eq, with'] at walked
  obtain ⟨-, stays | up | ⟨-, inside, short, found⟩⟩ := walkWith_cons walked
  · exact absurd stays.1 (by simp [isName.nonempty, isName.ne_current])
  · exact absurd up.1 isName.ne_parent
  refine ⟨inside, short, ?_⟩
  rcases found with ⟨absent, -, eq⟩ | ⟨target, found, -⟩ | ⟨entry, found, -, onward⟩
  · exact .inl ⟨absent, eq⟩
  · exact absurd found (notLink target)
  · refine .inr ⟨by simp [found], ?_⟩
    rw [walkWith] at onward
    exact (Except.ok.inj onward).symm

theorem Reaches.child (reaches : disk.Reaches here base location) (isName : Path.IsName name)
    (short : ¬nameLimit < name.utf8ByteSize) {entry : Entry}
    (found : disk.entryAt (name :: location) = some entry)
    (notLink : ∀ target, entry ≠ .link target) :
    disk.Reaches here (base.child name) (name :: location) := by
  obtain ⟨-, -, -, left, eq⟩ := walk_child false reaches isName
  obtain ⟨onLink, with'⟩ := walk_eq_walkWith disk false left
  have inside := entryAt_parent_ne_none (by simp [found] : disk.entryAt (name :: location) ≠ none)
  rw [Reaches, Path.start_child base here isName.unslashed, eq, with',
    walkWith_name ⟨isName.nonempty, isName.ne_current, isName.ne_parent⟩ inside short found notLink
      (.inl rfl), walkWith]

/-- The directory and the name behind a joined path. -/
theorem reachName_child (reaches : disk.Reaches here base location) (isName : Path.IsName name)
    (standing : disk.entryAt location = some .directory) :
    disk.reachName here (base.child name) =
      match textFault? (base.child name) with
      | some fault => .error fault
      | none =>
        if nameLimit < name.utf8ByteSize then .error .nameTooLong
        else .ok (.plain name location) := by
  obtain ⟨first, shape, led, -⟩ := walk_child false reaches isName
  unfold reachName
  cases textFault? (base.child name) with
  | some fault => rfl
  | none =>
    have start : (if (base.child name).isAbsolute then [] else here) = base.start here :=
      Path.start_child base here isName.unslashed
    have stripped : (((base.child name).pieces.reverse.dropWhile (· = "")).reverse) =
        first ++ [name] := by
      simp [shape, isName.nonempty]
    simp only [start, stripped, List.getLast?_append, List.getLast?_singleton, Option.some_or,
      List.dropLast_concat, led, standing, isName.ne_current, isName.ne_parent]
    simp

end Child

/-- The stretches up to the last one that is not empty, and the empty ones behind it. -/
theorem stripped_pieces (pieces : List String) :
    ∃ blanks, pieces = (pieces.reverse.dropWhile (· = "")).reverse ++ blanks ∧
      ∀ piece ∈ blanks, piece = "" := by
  refine ⟨(pieces.reverse.takeWhile (· = "")).reverse, ?_, fun piece member => ?_⟩
  · rw [← List.reverse_append, List.takeWhile_append_dropWhile, List.reverse_reverse]
  · have all := List.all_takeWhile (p := (· = "")) (l := pieces.reverse)
    simpa using List.all_eq_true.1 all piece (List.mem_reverse.1 member)

/-- What is known of the directory and the name that a path gives. -/
theorem reachName_eq_plain {path : Path} {name : String} {parent : Location}
    (named : disk.reachName here path = .ok (.plain name parent)) :
    textFault? path = none ∧ disk.entryAt parent = some .directory ∧
      ¬nameLimit < name.utf8ByteSize ∧ (name ≠ "" ∧ name ≠ "." ∧ name ≠ "..") ∧
      ∃ first blanks, path.pieces = first ++ name :: blanks ∧ (∀ piece ∈ blanks, piece = "") ∧
        disk.walk false linkLimit (path.start here) first = .ok (.taken parent) := by
  obtain ⟨blanks, pieces, blank⟩ := stripped_pieces path.pieces
  unfold reachName at named
  split at named
  · cases named
  rename_i clean
  dsimp only at named
  split at named
  · cases named
  rename_i last found
  have nonempty : last ≠ "" := by
    have head := List.head?_dropWhile_not (· = "") path.pieces.reverse
    rw [List.getLast?_reverse] at found
    simpa [found] using head
  obtain ⟨first, shape⟩ := List.getLast?_eq_some_iff.1 found
  rw [shape, List.dropLast_concat] at named
  split at named
  · cases named
  · cases named
  rename_i place parent' led
  split at named
  · cases named
  rename_i standing
  split at named
  · cases named
  rename_i notCurrent
  split at named
  · cases named
  rename_i notParent
  split at named
  · cases named
  rename_i present
  split at named
  · cases named
  rename_i short
  cases named
  have inside : disk.entryAt parent = some .directory :=
    Classical.byContradiction fun other => standing ⟨present, other⟩
  refine ⟨clean, inside, short, ⟨nonempty, notCurrent, notParent⟩, first, blanks, ?_, blank, led⟩
  rw [pieces, shape, List.append_assoc]
  rfl

section Lexical

/-- The place that stretches spell, whatever there is on the disk. -/
def spelled (here : Location) (pieces : List String) : Location :=
  (pieces.filterMap Path.Component.ofPiece?).foldl Location.step here

theorem spelled_append (here : Location) (first rest : List String) :
    spelled here (first ++ rest) = spelled (spelled here first) rest := by
  simp [spelled]

theorem spelled_blank {blanks : List String} (blank : ∀ piece ∈ blanks, piece = "")
    (here : Location) : spelled here blanks = here := by
  induction blanks with
  | nil => rfl
  | cons piece rest ih =>
    have empty := blank piece List.mem_cons_self
    have tail := ih fun other member => blank other (List.mem_cons_of_mem _ member)
    simpa [spelled, empty, Path.Component.ofPiece?] using tail

theorem spelled_name {piece : String} (proper : piece ≠ "" ∧ piece ≠ "." ∧ piece ≠ "..")
    (here : Location) (rest : List String) :
    spelled here (piece :: rest) = spelled (piece :: here) rest := by
  simp [spelled, Path.Component.ofPiece?, proper, Location.step]

theorem follow_eq_spelled (here : Location) (path : Path) :
    here.follow path = spelled (path.start here) path.pieces := by
  unfold Location.follow Path.components spelled Path.start
  dsimp only
  split
  · rfl
  · split <;> rfl

theorem walkWith_spelled (free : disk.LinkFree) {creating : Bool}
    {onLink : Location → List String → Except Fault Place} (here : Location) (pieces : List String)
    {place : Place} (walked : disk.walkWith creating onLink here pieces = .ok place) :
    place.location = spelled here pieces := by
  induction pieces generalizing here with
  | nil =>
    rw [walkWith] at walked
    cases walked
    rfl
  | cons piece rest ih =>
    obtain ⟨-, ⟨stays, onward⟩ | ⟨rfl, onward⟩ | ⟨proper, -, -, found⟩⟩ := walkWith_cons walked
    · rw [ih here onward]
      rcases stays with rfl | rfl <;> simp [spelled, Path.Component.ofPiece?]
    · rw [ih here.tail onward]
      simp [spelled, Path.Component.ofPiece?, Location.step]
    rw [spelled_name proper]
    rcases found with ⟨-, blank, rfl⟩ | ⟨target, found, -⟩ | ⟨entry, -, -, onward⟩
    · rw [spelled_blank (by simpa using blank)]
      rfl
    · exact absurd found (free _ target)
    · exact ih (piece :: here) onward

theorem walk_spelled (free : disk.LinkFree) {creating : Bool} {links : Nat} {here : Location}
    {pieces : List String} {place : Place}
    (walked : disk.walk creating links here pieces = .ok place) :
    place.location = spelled here pieces := by
  obtain ⟨onLink, eq⟩ := walk_eq_walkWith disk creating links
  rw [eq] at walked
  exact walkWith_spelled free here pieces walked

theorem Reaches.eq_follow (free : disk.LinkFree) {path : Path} {location : Location}
    (reaches : disk.Reaches here path location) : location = here.follow path := by
  rw [follow_eq_spelled]
  exact walk_spelled free reaches

theorem reachName_eq_follow (free : disk.LinkFree) {path : Path} {name : String}
    {parent : Location} (named : disk.reachName here path = .ok (.plain name parent)) :
    name :: parent = here.follow path := by
  obtain ⟨-, -, -, proper, first, blanks, shape, blank, led⟩ := reachName_eq_plain named
  have parentEq : parent = spelled (path.start here) first := walk_spelled free led
  rw [follow_eq_spelled, shape, spelled_append, ← parentEq, spelled_name proper,
    spelled_blank blank]

end Lexical

end Disk

end ModelForge
