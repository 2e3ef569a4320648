import ModelForge.Proofs.Disk.Site

/-! Disks without links. There a path can be taken by its text: what an operation changes lies at
the place that the path spells, and every place that a leading part spells is there when the path
leads anywhere. -/
namespace ModelForge

namespace Disk

variable {disk new : Disk} {here : Location}

theorem reach_spelled (free : disk.LinkFree) {creating : Bool} {path : Path} {place : Place}
    (reached : disk.reach creating here path = .ok place) : place.location = here.follow path := by
  rw [follow_eq_spelled]
  exact walk_spelled free (reach_eq_ok reached).2

theorem write_spelled (free : disk.LinkFree) {path : Path} {content : ByteArray}
    (written : disk.write here path content = .ok new) :
    Changes (· = here.follow path) disk new := by
  unfold Disk.write at written
  split at written
  · cases written
  rename_i place reached
  have spelled := reach_spelled free reached
  rw [← spelled]
  cases place with
  | vacant name parent =>
    cases written
    exact put_changes (free _) (by simp)
  | taken location =>
    cases location with
    | nil => simp [store, found] at written
    | cons name parent =>
      cases kind : disk.found (name :: parent) with
      | file before executable =>
        simp only [store, kind] at written
        cases written
        exact put_changes (free _) (by simp)
      | device device =>
        have same : new = disk := by
          cases device with
          | null => simpa [store, kind] using written.symm
          | full =>
            simp only [store, kind] at written
            split at written <;> cases written
            rfl
        rw [same]
        exact .refl _ _
      | directory => simp [store, kind] at written
      | link target => simp [store, kind] at written

theorem unlink_spelled (free : disk.LinkFree) {path : Path}
    (unlinked : disk.unlink here path = .ok new) : Changes (· = here.follow path) disk new := by
  obtain ⟨name, parent, named, leaf, rfl⟩ := unlink_eq_ok unlinked
  rw [← reachName_eq_follow free named]
  exact remove_changes (free _) (by simp) leaf

theorem rename_spelled (free : disk.LinkFree) {source target : Path}
    (renamed : disk.rename here source target = .ok new) :
    Changes (fun location => location = here.follow source ∨ location = here.follow target)
      disk new := by
  obtain ⟨name, parent, name', parent', entry, fromName, toName, found, notDirectory, -, rfl⟩ :=
    rename_eq_ok renamed
  rw [← reachName_eq_follow free fromName, ← reachName_eq_follow free toName]
  split
  · exact .refl _ _
  have leaf : disk.entryAt (name :: parent) ≠ some .directory := by simp [found, notDirectory]
  have first := remove_changes (free _) (by simp) leaf
  have notLink : ∀ target, entry ≠ .link target := by
    rintro target rfl
    exact free _ target found
  have second := put_changes (first.linkFree free (name' :: parent')) notLink
  exact (first.mono fun _ => .inl).trans (second.mono fun _ => .inr)

/-- A walk that starts at an entry passes only entries. -/
theorem walkWith_standing (free : disk.LinkFree)
    {onLink : Location → List String → Except Fault Place} {location : Location}
    (here : Location) (pieces : List String) (inside : disk.entryAt here ≠ none)
    (walked : disk.walkWith false onLink here pieces = .ok (.taken location))
    {lead : List String} (leading : lead <+: pieces) :
    disk.entryAt (spelled here lead) ≠ none := by
  induction pieces generalizing here lead with
  | nil =>
    rw [List.prefix_nil.1 leading]
    exact inside
  | cons piece rest ih =>
    cases lead with
    | nil => exact inside
    | cons piece' lead =>
      obtain ⟨rfl, more⟩ := List.cons_prefix_cons.1 leading
      obtain ⟨-, ⟨stays, onward⟩ | ⟨rfl, onward⟩ | ⟨proper, -, -, found⟩⟩ := walkWith_cons walked
      · have same : spelled here (piece' :: lead) = spelled here lead := by
          rcases stays with rfl | rfl <;> simp [spelled, Path.Component.ofPiece?]
        rw [same]
        exact ih here inside onward more
      · have up : disk.entryAt here.tail ≠ none := by
          cases here with
          | nil => simp
          | cons name parent => simp [entryAt_parent_ne_none inside]
        have same : spelled here (".." :: lead) = spelled here.tail lead := by
          simp [spelled, Path.Component.ofPiece?, Location.step]
        rw [same]
        exact ih here.tail up onward more
      rw [spelled_name proper]
      rcases found with ⟨-, -, vacant⟩ | ⟨target, found, -⟩ | ⟨entry, found, -, onward⟩
      · cases vacant
      · exact absurd found (free _ target)
      · exact ih (piece' :: here) (by simp [found]) onward more

theorem spelled_of_onTheWay {path : Path} {place : Location} (way : here.OnTheWay path place) :
    ∃ lead, lead <+: path.pieces ∧ place = spelled (path.start here) lead := by
  obtain ⟨lead, nonempty, leading, rfl⟩ := way
  obtain ⟨first, more, rfl⟩ := List.exists_cons_of_ne_nil nonempty
  unfold Path.components at leading
  dsimp only at leading
  unfold Path.start
  by_cases absolute : path.isAbsolute = true
  · rw [if_pos absolute] at leading
    obtain ⟨rfl, further⟩ := List.cons_prefix_cons.1 leading
    obtain ⟨pieces, inside, rfl⟩ := List.prefix_filterMap_iff.1 further
    exact ⟨pieces, inside, by simp [spelled, Location.step, absolute]⟩
  rw [if_neg absolute] at leading
  by_cases dotted : path.pieces.head? = some "."
  · rw [if_pos dotted] at leading
    obtain ⟨rfl, further⟩ := List.cons_prefix_cons.1 leading
    obtain ⟨pieces, inside, rfl⟩ := List.prefix_filterMap_iff.1 further
    exact ⟨pieces, inside, by simp [spelled, Location.step, absolute]⟩
  · rw [if_neg dotted] at leading
    obtain ⟨pieces, inside, eq⟩ := List.prefix_filterMap_iff.1 leading
    exact ⟨pieces, inside, by simp [spelled, eq, absolute]⟩

theorem follow_join (here : Location) (base : Path) {extra : Path}
    (relative : extra.isAbsolute = false) :
    here.follow (base.join extra) = spelled (here.follow base) extra.pieces := by
  obtain ⟨first, shape, before⟩ := base.pieces_join relative
  rw [follow_eq_spelled, follow_eq_spelled, base.start_join here relative, shape, spelled_append]
  rcases before with eq | eq
  · rw [eq]
  · have none : ∀ piece ∈ [""], piece = "" := by simp
    rw [eq, spelled_append _ first [""], spelled_blank none]

/-- Stretches that never go up put their names below. -/
theorem spelled_of_noParent {pieces : List String} (noParent : ".." ∉ pieces) (here : Location) :
    spelled here pieces =
      (pieces.filter fun piece => piece ≠ "" ∧ piece ≠ ".").reverse ++ here := by
  induction pieces generalizing here with
  | nil => rfl
  | cons piece rest ih =>
    have up : piece ≠ ".." := fun eq => noParent (eq ▸ List.mem_cons_self)
    have more := ih fun member => noParent (List.mem_cons_of_mem _ member)
    by_cases name : piece ≠ "" ∧ piece ≠ "."
    · rw [spelled_name ⟨name.1, name.2, up⟩, more]
      simp [name]
    · have stays : spelled here (piece :: rest) = spelled here rest := by
        have none : Path.Component.ofPiece? piece = none := by
          rw [Path.Component.ofPiece?, if_pos (by simpa [Classical.or_iff_not_imp_left] using name)]
        simp [spelled, none]
      rw [stays, more]
      simp [name]

/-- On the way of a path that leads somewhere nothing is missing. -/
theorem Reaches.onTheWay (free : disk.LinkFree) {path : Path} {location place : Location}
    (reaches : disk.Reaches here path location) (inside : disk.entryAt here ≠ none)
    (way : here.OnTheWay path place) : disk.entryAt place ≠ none := by
  obtain ⟨lead, leading, rfl⟩ := spelled_of_onTheWay way
  obtain ⟨onLink, eq⟩ := walk_eq_walkWith disk false linkLimit
  rw [Reaches, eq] at reaches
  refine walkWith_standing free _ _ ?_ reaches leading
  unfold Path.start
  split
  · simp
  · exact inside

/-- A directory that is found lies where its path says, if the process stands in a directory. -/
theorem site_of_isDirectory (free : disk.LinkFree) (inside : disk.entryAt here = some .directory)
    {path : Path} (directory : disk.isDirectory here path = true) :
    disk.Site here path (here.follow path) := by
  obtain ⟨location, clean, reaches, found⟩ := isDirectory_iff.1 directory
  obtain rfl := reaches.eq_follow free
  have whole : here.OnTheWay path (here.follow path) :=
    ⟨_, Path.components_ne_nil (isEmpty_of_clean clean), List.prefix_rfl, rfl⟩
  have present := reaches.onTheWay free (by simp [inside]) whole
  exact
    { inside := inside
      clean := clean
      reaches := reaches
      standing := (found_eq_directory_iff.1 found).resolve_left present
      unlinked := fun below target => free _ target }

end Disk

end ModelForge
