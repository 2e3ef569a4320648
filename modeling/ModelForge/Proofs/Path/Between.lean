import ModelForge.Proofs.Disk.Lexical
import ModelForge.Proofs.Path.Join

/-! The way from one directory to another. The normal form of an absolute path spells the place to
which the path leads, with at most one `..` that stays at the root; the way goes up once for every
component that only the first normal form has, and then down along the second. -/
namespace ModelForge

namespace Location

open Path (Component IsName)

theorem foldl_names (here : Location) (names : List String) :
    (names.map Component.name).foldl step here = names.reverse ++ here := by
  induction names generalizing here with
  | nil => rfl
  | cons name rest ih => simp [ih, step]

theorem foldl_parents (here : Location) (count : Nat) :
    (List.replicate count Component.parent).foldl step here = here.drop count := by
  induction count generalizing here with
  | zero => rfl
  | succ count ih => rw [List.replicate_succ, List.foldl_cons, ih, step, List.drop_tail]

/-- A path that does not start over goes on from where the path before it leads. -/
theorem follow_join (here : Location) (base : Path) {extra : Path}
    (relative : extra.isAbsolute = false) :
    here.follow (base.join extra) = (here.follow base).follow extra := by
  rw [Disk.follow_join here base relative, Disk.follow_eq_spelled _ extra, Path.start,
    if_neg (by simp [relative])]

theorem foldl_isName {components : List Component} {here : Location}
    (formed : ∀ component ∈ components, component = .root ∨ component = .current ∨
      component.IsInner) (names : ∀ name ∈ here, IsName name) :
    ∀ name ∈ components.foldl step here, IsName name := by
  induction components generalizing here with
  | nil => exact names
  | cons component rest ih =>
    refine ih (fun other member => formed other (List.mem_cons_of_mem _ member)) ?_
    intro name member
    cases component with
    | root => cases member
    | current => exact names name member
    | parent => exact names name (List.mem_of_mem_tail member)
    | name text =>
      rcases List.mem_cons.1 member with rfl | member
      · obtain root | current | inner := formed (.name name) List.mem_cons_self
        · cases root
        · cases current
        · exact inner
      · exact names name member

/-- A path leads to a place with a path of its own, if it starts at such a place. -/
theorem follow_isName {here : Location} (names : ∀ name ∈ here, IsName name) (path : Path) :
    ∀ name ∈ here.follow path, IsName name := by
  refine foldl_isName (fun component member => ?_) names
  obtain ⟨opening, inner, shape, openings, allInner⟩ := path.components_shape
  rw [shape, List.mem_append] at member
  rcases member with first | further
  · rcases openings with rfl | rfl | rfl <;> simp_all
  · exact .inr (.inr (allInner component further))

end Location

namespace Path

/-- A relative text that leads to a location when it is joined to the path of a directory. -/
def LeadsTo (directory : Path) (text : String) (location : Location) : Prop :=
  (Path.mk text).isAbsolute = false ∧ Location.follow [] (directory.join ⟨text⟩) = location

instance (directory : Path) (text : String) (location : Location) :
    Decidable (directory.LeadsTo text location) := inferInstanceAs (Decidable (_ ∧ _))

theorem leadsTo_text {directory path : Path} {location : Location}
    (relative : path.isAbsolute = false)
    (follows : Location.follow [] (directory.join path) = location) :
    directory.LeadsTo path.text location := ⟨relative, follows⟩

theorem LeadsTo.below {directory : Path} {text name : String} {location : Location}
    (leads : directory.LeadsTo text location) (some : text ≠ "") (isName : IsName name) :
    directory.LeadsTo (text ++ ("/" ++ name)) (name :: location) := by
  obtain ⟨relative, follows⟩ := leads
  have relative' : (Path.mk (text ++ ("/" ++ name))).isAbsolute = false :=
    (isAbsolute_append some _).trans relative
  have pieces : (Path.mk (text ++ ("/" ++ name))).pieces = (Path.mk text).pieces ++ [name] := by
    rw [← pieces_mk_of_unslashed isName.unslashed]
    simp [pieces, Text.fields_append_separator]
  rw [Disk.follow_join _ _ relative] at follows
  refine ⟨relative', ?_⟩
  rw [Disk.follow_join _ _ relative', pieces, Disk.spelled_append, follows,
    Disk.spelled_name ⟨isName.nonempty, isName.ne_current, isName.ne_parent⟩]
  rfl

/-- What a normal form can hold behind the root before the names: nothing, or a single `..`. -/
def Held (held : List Component) : Prop := held = [] ∨ held = [.parent]

/-- A normal form whose last component stands first spells a location. -/
def Stands (stack : List Component) (location : Location) : Prop :=
  ∃ held, Held held ∧ stack = location.map .name ++ (held ++ [.root])

theorem Stands.absorb {stack : List Component} {location : Location}
    (stands : Stands stack location) (component : Component) :
    Stands (absorb stack component) (location.step component) := by
  obtain ⟨held, either, rfl⟩ := stands
  cases component with
  | root => exact ⟨[], .inl rfl, rfl⟩
  | current => exact ⟨held, either, rfl⟩
  | name text => exact ⟨held, either, rfl⟩
  | parent =>
    cases location with
    | cons name rest => exact ⟨held, either, rfl⟩
    | nil =>
      -- At the root the `..` stays, and the next one takes it away.
      rcases either with rfl | rfl
      · exact ⟨[.parent], .inr rfl, rfl⟩
      · exact ⟨[], .inl rfl, rfl⟩

theorem Stands.foldl {stack : List Component} {location : Location} (stands : Stands stack location)
    (components : List Component) :
    Stands (components.foldl Path.absorb stack) (components.foldl Location.step location) := by
  induction components generalizing stack location with
  | nil => exact stands
  | cons component rest ih => exact ih (stands.absorb component)

theorem components_of_isAbsolute {path : Path} (absolute : path.isAbsolute = true) :
    path.components = .root :: path.pieces.filterMap Component.ofPiece? := by
  simp [components, absolute]

/-- The normal form of an absolute path spells where the path leads. -/
theorem normalComponents_eq {path : Path} (absolute : path.isAbsolute = true) :
    ∃ held, Held held ∧ path.normalComponents =
      .root :: (held ++ (Location.follow [] path).reverse.map .name) := by
  have start : Stands (Path.absorb [] .root) [] := ⟨[], .inl rfl, rfl⟩
  have stands := start.foldl (path.pieces.filterMap Component.ofPiece?)
  obtain ⟨held, either, shape⟩ := stands
  refine ⟨held, either, ?_⟩
  rw [normalComponents, components_of_isAbsolute absolute, List.foldl_cons, shape,
    Location.follow, components_of_isAbsolute absolute, List.foldl_cons]
  rcases either with rfl | rfl <;> simp [Location.step]

/-- What two lists share stands at the front of both. -/
theorem sharedLength_spec (a b : List Component) :
    a.take (sharedLength a b) = b.take (sharedLength a b) := by
  fun_induction sharedLength a b with
  | case1 as b bs ih => simp [ih]
  | case2 a as b bs other => simp
  | case3 a b other => simp

/-- From the place that a normal form spells, one `..` for each of its last components leads to the
place that the components before them spell. -/
theorem climb {held common rest : List Component} {names : List String} (either : Held held)
    (shape : held ++ names.map .name = common ++ rest) :
    (List.replicate rest.length Component.parent).foldl Location.step names.reverse =
      common.foldl Location.step [] := by
  have inside {common rest : List Component} (shape : names.map .name = common ++ rest) :
      names.reverse.drop rest.length = common.foldl Location.step [] := by
    obtain ⟨before, after, rfl, rfl, rfl⟩ := List.map_eq_append_iff.1 shape
    rw [Location.foldl_names, List.reverse_append, List.length_map, ← List.length_reverse,
      List.drop_left, List.append_nil]
  rw [Location.foldl_parents]
  rcases either with rfl | rfl
  · exact inside shape
  cases common with
  | nil =>
    rw [List.nil_append] at shape
    rw [← shape]
    exact List.drop_eq_nil_of_le (by simp)
  | cons first more =>
    obtain ⟨rfl, more⟩ := List.cons.inj shape
    have climbed := inside more
    exact climbed

/-- The components of the way between two directories, none if they are the same. -/
def steps (source target : Path) : List Component :=
  let shared := sharedLength source.normalComponents target.normalComponents
  (source.normalComponents.drop shared).map (fun _ => Component.parent) ++
    target.normalComponents.drop shared

theorem between_eq (source target : Path) :
    between source target =
      if (steps source target).isEmpty then ⟨"."⟩ else ofComponents (steps source target) := rfl

theorem components_ofComponents {inner : List Component}
    (allInner : ∀ component ∈ inner, component.IsInner) : (ofComponents inner).components = inner := by
  induction inner using List.reverseRecOn with
  | nil => decide
  | append_singleton before component ih =>
    rw [ofComponents_concat, components_child_inner _ (allInner component (by simp)),
      ih fun other member => allInner other (List.mem_append_left _ member)]

theorem relative_ofComponents {inner : List Component}
    (allInner : ∀ component ∈ inner, component.IsInner) :
    (ofComponents inner).isAbsolute = false := by
  rw [← List.nil_append inner, ofComponents_append, isAbsolute_within]
  · decide
  · intro name member
    obtain ⟨component, found, rfl⟩ := List.mem_map.1 member
    exact (allInner component found).unslashed

section Way

variable {source target : Path}

/-- Nothing but `..` and names, for the root is shared. -/
theorem steps_isInner (fromRoot : source.isAbsolute = true) (toRoot : target.isAbsolute = true) :
    ∀ component ∈ steps source target, component.IsInner := by
  obtain ⟨held, -, shape⟩ := normalComponents_eq fromRoot
  obtain ⟨held', either', shape'⟩ := normalComponents_eq toRoot
  intro component member
  rw [steps, shape, shape', sharedLength, if_pos rfl, List.drop_succ_cons, List.drop_succ_cons,
    List.mem_append] at member
  rcases member with up | down
  · obtain ⟨-, -, rfl⟩ := List.mem_map.1 up
    trivial
  rcases List.mem_append.1 (List.mem_of_mem_drop down) with first | named
  · have only : component = .parent := by
      rcases either' with rfl | rfl <;> simp_all
    exact only ▸ trivial
  · obtain ⟨name, found, rfl⟩ := List.mem_map.1 named
    exact Location.follow_isName (by simp) target name (List.mem_reverse.1 found)

/-- Taken from the first directory, the steps lead to the second. -/
theorem foldl_steps (fromRoot : source.isAbsolute = true) (toRoot : target.isAbsolute = true) :
    (steps source target).foldl Location.step (Location.follow [] source) =
      Location.follow [] target := by
  obtain ⟨held, either, shape⟩ := normalComponents_eq fromRoot
  obtain ⟨held', either', shape'⟩ := normalComponents_eq toRoot
  rw [steps, shape, shape', sharedLength, if_pos rfl, List.drop_succ_cons, List.drop_succ_cons]
  generalize front : held ++ (Location.follow [] source).reverse.map Component.name = a
  generalize back : held' ++ (Location.follow [] target).reverse.map Component.name = b
  -- Up to where the two part, and on from there along the second.
  have up : ((a.drop (sharedLength a b)).map fun _ => Component.parent).foldl Location.step
      (Location.follow [] source) = (a.take (sharedLength a b)).foldl Location.step [] := by
    have climbed := climb either (front.trans (List.take_append_drop (sharedLength a b) a).symm)
    rwa [List.reverse_reverse, ← List.map_const'] at climbed
  have down : b.foldl Location.step [] = Location.follow [] target := by
    rw [← back, List.foldl_append, Location.foldl_names, List.reverse_reverse]
    rcases either' with rfl | rfl <;> simp [Location.step]
  rw [List.foldl_append, up, sharedLength_spec, ← List.foldl_append, List.take_append_drop, down]

theorem components_between (fromRoot : source.isAbsolute = true)
    (toRoot : target.isAbsolute = true) : (between source target).components =
      if (steps source target).isEmpty then [.current] else steps source target := by
  rw [between_eq]
  split
  · decide
  · exact components_ofComponents (steps_isInner fromRoot toRoot)

theorem between_relative (fromRoot : source.isAbsolute = true) (toRoot : target.isAbsolute = true) :
    (between source target).isAbsolute = false := by
  rw [between_eq]
  split
  · decide
  · exact relative_ofComponents (steps_isInner fromRoot toRoot)

theorem between_nonempty (fromRoot : source.isAbsolute = true) (toRoot : target.isAbsolute = true) :
    (between source target).text ≠ "" := by
  intro blank
  have some : (between source target).components ≠ [] := by
    rw [components_between fromRoot toRoot]
    split
    · simp
    · simpa using ‹¬(steps source target).isEmpty = true›
  exact some (by rw [show between source target = ⟨""⟩ from congrArg Path.mk blank]; decide)

/-- The way between two directories leads from the one to the other. -/
theorem follow_between (fromRoot : source.isAbsolute = true) (toRoot : target.isAbsolute = true) :
    (Location.follow [] source).follow (between source target) = Location.follow [] target := by
  rw [Location.follow, components_between fromRoot toRoot, ← foldl_steps fromRoot toRoot]
  split
  · rename_i none
    rw [List.isEmpty_iff.1 none]
    rfl
  · rfl

/-- Written behind the path of the first directory it makes a path to the second. -/
theorem between_leads (fromRoot : source.isAbsolute = true) (toRoot : target.isAbsolute = true) :
    source.LeadsTo (between source target).text (Location.follow [] target) := by
  have relative := between_relative fromRoot toRoot
  refine leadsTo_text relative ?_
  rw [Location.follow_join _ _ relative, follow_between fromRoot toRoot]

end Way

end Path

end ModelForge
