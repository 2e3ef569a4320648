import ModelForge.Proofs.Disk.Lexical
import ModelForge.Proofs.Disk.Naming
import ModelForge.Proofs.Path.Ancestors

/-! Paths that no link is in the way of. A path joined to one that leads to a directory leads where
its text says, seen from there, wherever links may lie otherwise; what an operation changes under
such a path lies there. -/
namespace ModelForge

namespace Disk

variable {disk new : Disk} {here root : Location} {base extra : Path}

/-- No link lies on the way of a path or at its end. -/
def Straight (disk : Disk) (here : Location) (path : Path) : Prop :=
  ∀ place, here.OnTheWay path place → ∀ target, disk.entryAt place ≠ some (.link target)

theorem Straight.mono {path : Path} (straight : disk.Straight here path)
    (fewer : ∀ location target, new.entryAt location = some (.link target) →
      disk.entryAt location = some (.link target)) : new.Straight here path :=
  fun place way target found => straight place way target (fewer place target found)

section Walk

/-- A walk that meets no link ends where its stretches say. -/
theorem walkWith_straight {creating : Bool}
    {onLink : Location → List String → Except Fault Place} (here : Location) (pieces : List String)
    (straight : ∀ lead, lead <+: pieces → ∀ target,
      disk.entryAt (spelled here lead) ≠ some (.link target)) {place : Place}
    (walked : disk.walkWith creating onLink here pieces = .ok place) :
    place.location = spelled here pieces := by
  induction pieces generalizing here with
  | nil =>
    rw [walkWith] at walked
    cases walked
    rfl
  | cons piece rest ih =>
    have onward : ∀ next, (∀ lead, spelled here (piece :: lead) = spelled next lead) →
        disk.walkWith creating onLink next rest = .ok place →
        place.location = spelled here (piece :: rest) := by
      intro next spells walked'
      rw [spells]
      refine ih next (fun lead leading target => ?_) walked'
      rw [← spells]
      exact straight _ (List.cons_prefix_cons.2 ⟨rfl, leading⟩) target
    obtain ⟨-, ⟨stays, walked'⟩ | ⟨rfl, walked'⟩ | ⟨proper, -, -, found⟩⟩ := walkWith_cons walked
    · exact onward here (by rcases stays with rfl | rfl <;> simp [spelled, Path.Component.ofPiece?])
        walked'
    · exact onward here.tail (by simp [spelled, Path.Component.ofPiece?, Location.step]) walked'
    rcases found with ⟨-, blank, rfl⟩ | ⟨target, found, -⟩ | ⟨entry, -, -, walked'⟩
    · rw [spelled_name proper, spelled_blank (by simpa using blank)]
      rfl
    · have here' := straight [piece] (List.cons_prefix_cons.2 ⟨rfl, List.nil_prefix⟩) target
      rw [spelled_name proper] at here'
      exact absurd found here'
    · exact onward (piece :: here) (spelled_name proper here) walked'

/-- Where a walk can end: at an entry, or at a missing name in a directory. -/
def Found (disk : Disk) : Place → Prop
  | .taken location => disk.entryAt location ≠ none
  | .vacant name parent =>
    disk.entryAt parent = some .directory ∧ disk.entryAt (name :: parent) = none

theorem walkWith_found {creating : Bool}
    {onLink : Location → List String → Except Fault Place} {place : Place}
    (link : ∀ base pieces, disk.entryAt base ≠ none → onLink base pieces = .ok place →
      disk.Found place)
    (here : Location) (pieces : List String) (inside : disk.entryAt here ≠ none)
    (walked : disk.walkWith creating onLink here pieces = .ok place) : disk.Found place := by
  induction pieces generalizing here with
  | nil =>
    rw [walkWith] at walked
    cases walked
    exact inside
  | cons piece rest ih =>
    obtain ⟨-, ⟨-, onward⟩ | ⟨-, onward⟩ | ⟨-, standing, -, found⟩⟩ := walkWith_cons walked
    · exact ih here inside onward
    · refine ih here.tail ?_ onward
      cases here with
      | nil => simp
      | cons name parent => simp [entryAt_parent_ne_none inside]
    rcases found with ⟨absent, -, rfl⟩ | ⟨target, -, jumped⟩ | ⟨entry, found, -, onward⟩
    · exact ⟨standing, absent⟩
    · refine link _ _ ?_ jumped
      split
      · simp
      · exact inside
    · exact ih (piece :: here) (by simp [found]) onward

theorem walk_found {creating : Bool} {place : Place} (links : Nat) (here : Location)
    (pieces : List String) (inside : disk.entryAt here ≠ none)
    (walked : disk.walk creating links here pieces = .ok place) : disk.Found place := by
  induction links generalizing here pieces with
  | zero => exact walkWith_found (by intro _ _ _ jumped; cases jumped) here pieces inside walked
  | succ links ih => exact walkWith_found ih here pieces inside walked

/-- The walk along a joined path comes by the place to which the first path leads. -/
theorem join_front (reaches : disk.Reaches here base root) (extra : Path) :
    ∃ front, (base.join extra).pieces = front ++ extra.pieces ∧
      disk.walk false linkLimit ((base.join extra).start here) front =
        .ok (.taken (extra.start root)) := by
  by_cases absolute : extra.isAbsolute = true
  · have whole : base.join extra = extra := by simp [Path.join, absolute]
    refine ⟨[], by rw [whole]; rfl, ?_⟩
    obtain ⟨onLink, eq⟩ := walk_eq_walkWith disk false linkLimit
    rw [whole, eq, walkWith, Path.start, if_pos absolute, Path.start, if_pos absolute]
  have relative : extra.isAbsolute = false := by simpa using absolute
  obtain ⟨front, shape, before⟩ := base.pieces_join relative
  refine ⟨front, shape, ?_⟩
  rw [base.start_join here relative, Path.start, Path.start, if_neg absolute]
  rw [Reaches, Path.start] at reaches
  rcases before with eq | eq <;> rw [eq] at reaches
  · exact reaches
  · obtain ⟨middle, left, led, onward⟩ := walk_split (by simp) _ _ _ reaches
    obtain ⟨onLink, eq⟩ := walk_eq_walkWith disk false left
    rw [eq] at onward
    have standing := (walkWith_cons onward).1
    rw [walkWith_blank standing (by simp)] at onward
    cases onward
    exact led

end Walk

section Join

variable (reaches : disk.Reaches here base root) (standing : disk.entryAt root = some .directory)

include standing in
theorem start_present (extra : Path) : disk.entryAt (extra.start root) = some .directory := by
  unfold Path.start
  split
  · rfl
  · exact standing

include standing in
theorem Straight.leads (straight : disk.Straight root extra) {lead : List String}
    (leading : lead <+: extra.pieces) (target : Path) :
    disk.entryAt (spelled (extra.start root) lead) ≠ some (.link target) := by
  by_cases none : extra.opening ++ lead.filterMap Path.Component.ofPiece? = []
  · have here : spelled (extra.start root) lead = extra.start root := by
      rw [spelled, (List.append_eq_nil_iff.1 none).2]
      rfl
    rw [here, start_present standing extra]
    simp
  · refine straight _ ⟨extra.opening ++ lead.filterMap Path.Component.ofPiece?, none, ?_, ?_⟩ target
    · rw [extra.components_eq]
      exact (List.prefix_append_right_inj _).2 (leading.filterMap _)
    · rw [List.foldl_append, extra.foldl_opening, spelled]

include reaches standing

/-- A joined path leads where its text says. -/
theorem reach_join (straight : disk.Straight root extra)
    (named : ∃ piece ∈ extra.pieces, piece ≠ "") {creating : Bool} {place : Place}
    (reached : disk.reach creating here (base.join extra) = .ok place) :
    place.location = root.follow extra ∧ disk.Found place := by
  obtain ⟨front, shape, led⟩ := join_front reaches extra
  obtain ⟨-, walked⟩ := reach_eq_ok reached
  obtain ⟨left, onward⟩ := @walk_append _ creating _ named _ _ _ _ led
  rw [shape, onward] at walked
  refine ⟨?_, walk_found left _ _ (by simp [start_present standing extra]) walked⟩
  obtain ⟨onLink, eq⟩ := walk_eq_walkWith disk creating left
  rw [eq] at walked
  rw [follow_eq_spelled]
  exact walkWith_straight _ _ (fun lead leading => straight.leads standing leading) walked

/-- The last name of a joined path stands for the place that its text says. -/
theorem reachName_join (straight : disk.Straight root extra) {init : List String} {last : String}
    (ends : extra.pieces = init ++ [last]) (some : last ≠ "") {name : String} {parent : Location}
    (named : disk.reachName here (base.join extra) = .ok (.plain name parent)) :
    name :: parent = root.follow extra := by
  obtain ⟨front, shape, led⟩ := join_front reaches extra
  obtain ⟨-, -, -, proper, first, blanks, whole, blank, led'⟩ := reachName_eq_plain named
  rw [shape, ends, ← List.append_assoc] at whole
  obtain ⟨rfl, rfl, -⟩ := last_stretch whole blank some
  obtain ⟨middle, left, led'', onward⟩ := walk_split (by simp) _ _ _ led'
  rw [led''] at led
  obtain rfl : middle = extra.start root := by simpa using led
  obtain ⟨onLink, eq⟩ := walk_eq_walkWith disk false left
  rw [eq] at onward
  have spells := walkWith_straight _ _ (fun lead leading =>
    straight.leads standing (leading.trans (ends ▸ List.prefix_append _ _))) onward
  change parent = _ at spells
  rw [follow_eq_spelled, ends, spelled_append, ← spells, spelled_name proper]
  rfl

end Join

section Operations

/-- Content that is put at a place is there afterwards, unless a device took it, and nothing else
has changed. -/
theorem store_changes {place : Place} {content : ByteArray} (found : disk.Found place)
    (notLink : ∀ target, disk.entryAt place.location ≠ some (.link target))
    (stored : disk.store content none place = .ok new) :
    Changes (· = place.location) disk new ∧
      ((∀ kind, disk.entryAt place.location ≠ some (.device kind)) →
        ∃ executable, new.entryAt place.location = some (.file content executable)) := by
  obtain ⟨name, parent, standing, rfl⟩ : ∃ name parent, disk.entryAt parent = some .directory ∧
      place = if disk.entryAt (name :: parent) = none then .vacant name parent
        else .taken (name :: parent) := by
    cases place with
    | vacant name parent => exact ⟨name, parent, found.1, by simp [found.2]⟩
    | taken location =>
      cases location with
      | nil => simp [store, Disk.found] at stored
      | cons name parent =>
        have present : disk.entryAt (name :: parent) ≠ none := found
        exact ⟨name, parent, entryAt_parent_ne_none present, by simp [present]⟩
  have place : (if disk.entryAt (name :: parent) = none then Place.vacant name parent
      else .taken (name :: parent)).location = name :: parent := by
    split <;> rfl
  rw [place] at notLink ⊢
  rw [store_eq] at stored
  cases written : Entry.write (disk.entryAt (name :: parent)) content with
  | error fault => simp [written, Except.map] at stored
  | ok entry =>
    obtain rfl : disk.put name parent entry = new := by simpa [written, Except.map] using stored
    obtain ⟨⟨-, notLink'⟩, leaf⟩ := Entry.write_ok written
    refine ⟨put_changes notLink notLink', fun noDevice => ?_⟩
    obtain ⟨executable, rfl⟩ := Entry.write_content written noDevice
    exact ⟨executable, by simp [entryAt_put ⟨standing, leaf⟩]⟩

/-- What a path stood for is afterwards what another one stood for, and that one stands for
nothing. -/
theorem rename_changes {source target : Path} {name name' : String} {parent parent' : Location}
    (fromName : disk.reachName here source = .ok (.plain name parent))
    (toName : disk.reachName here target = .ok (.plain name' parent'))
    (differ : name :: parent ≠ name' :: parent')
    (notLink : ∀ link, disk.entryAt (name :: parent) ≠ some (.link link))
    (notLink' : ∀ link, disk.entryAt (name' :: parent') ≠ some (.link link))
    (renamed : disk.rename here source target = .ok new) :
    Changes (fun location => location = name' :: parent' ∨ location = name :: parent) disk new ∧
      new.entryAt (name' :: parent') = disk.entryAt (name :: parent) ∧
      new.entryAt (name :: parent) = none := by
  obtain ⟨_, _, _, _, entry, fromName', toName', found, notDirectory, free, eq⟩ :=
    rename_eq_ok renamed
  cases fromName.symm.trans fromName'
  cases toName.symm.trans toName'
  rw [if_neg differ] at eq
  have inside := (reachName_eq_plain toName).2.1
  have leaf : disk.entryAt (name :: parent) ≠ some .directory := by simp [found, notDirectory]
  have removed := entryAt_remove_leaf (by simp) leaf
  have first := remove_changes notLink (by simp) leaf
  have second : Changes (· = name' :: parent') (disk.remove (name :: parent)) new := by
    rw [eq]
    refine put_changes (fun link => ?_) ?_
    · rw [(first.link _ link).ne]
      exact notLink' link
    · rintro link rfl
      exact notLink link found
  have canPut : (disk.remove (name :: parent)).CanPut name' parent' := by
    refine ⟨?_, ?_⟩
    · rw [removed, if_neg, inside]
      rintro rfl
      exact leaf inside
    · rw [removed, if_neg differ.symm]
      exact free
  have entries : ∀ location, new.entryAt location =
      if location = name' :: parent' then some entry
      else if location = name :: parent then none else disk.entryAt location := fun location => by
    rw [eq, entryAt_put canPut, removed]
  exact ⟨(first.mono fun _ => .inr).trans (second.mono fun _ => .inl), by simp [entries, found],
    by simp only [entries, if_neg differ, if_true]⟩

end Operations

end Disk

end ModelForge
