import ModelForge.Proofs.Path.Between

/-! Normal forms and the places that they lead to. An absolute path leads where it led before. Of
the `..` with which a relative path climbs above its start, each second one takes away the one
before it, so only one or none is left of them. -/
namespace ModelForge

namespace Path

/-- Where a relative path has come to: how far above its start, and through which names down from
there, the last one first. -/
structure Way where
  up : Nat
  down : List String
deriving DecidableEq, Repr

namespace Way

def step (way : Way) : Component → Way
  | .root => ⟨0, []⟩
  | .current => way
  | .name text => ⟨way.up, text :: way.down⟩
  | .parent =>
    match way.down with
    | [] => ⟨way.up + 1, []⟩
    | _ :: rest => ⟨way.up, rest⟩

/-- The place to which it leads. -/
def goal (way : Way) (here : Location) : Location := way.down ++ here.drop way.up

/-- What is left of it in a normal form, the last component first. -/
def stack (way : Way) : List Component :=
  way.down.map .name ++ List.replicate (way.up % 2) .parent

theorem goal_step (way : Way) {component : Component} (relative : component ≠ .root)
    (here : Location) : (way.step component).goal here = (way.goal here).step component := by
  obtain ⟨up, down⟩ := way
  cases component with
  | root => exact absurd rfl relative
  | current => rfl
  | name text => rfl
  | parent =>
    cases down with
    | nil => simp [step, goal, Location.step]
    | cons name rest => rfl

theorem stack_step (way : Way) {component : Component} (relative : component ≠ .root) :
    (way.step component).stack = absorb way.stack component := by
  obtain ⟨up, down⟩ := way
  cases component with
  | root => exact absurd rfl relative
  | current => rfl
  | name text => rfl
  | parent =>
    cases down with
    | cons name rest => rfl
    | nil =>
      -- Of two `..` in a row the second takes the first one away.
      rcases Nat.mod_two_eq_zero_or_one up with even | odd
      · simp [step, stack, absorb, even, show (up + 1) % 2 = 1 by omega]
      · simp [step, stack, absorb, odd, show (up + 1) % 2 = 0 by omega]

variable {components : List Component}

theorem goal_foldl (way : Way) (relative : ∀ component ∈ components, component ≠ .root)
    (here : Location) : (components.foldl step way).goal here =
      components.foldl Location.step (way.goal here) := by
  induction components generalizing way with
  | nil => rfl
  | cons component rest ih =>
    rw [List.foldl_cons, ih _ fun other member => relative other (List.mem_cons_of_mem _ member),
      way.goal_step (relative component List.mem_cons_self), List.foldl_cons]

theorem stack_foldl (way : Way) (relative : ∀ component ∈ components, component ≠ .root) :
    (components.foldl step way).stack = components.foldl absorb way.stack := by
  induction components generalizing way with
  | nil => rfl
  | cons component rest ih =>
    rw [List.foldl_cons, ih _ fun other member => relative other (List.mem_cons_of_mem _ member),
      way.stack_step (relative component List.mem_cons_self), List.foldl_cons]

end Way

/-- Where a path leads from a start that is not known. -/
def way (path : Path) : Way := path.components.foldl Way.step ⟨0, []⟩

section Relative

variable {path : Path} (relative : path.isAbsolute = false)

include relative

theorem ne_root_of_relative : ∀ component ∈ path.components, component ≠ .root := by
  rw [components_eq, opening, if_neg (by simp [relative])]
  intro component member
  rcases List.mem_append.1 member with first | further
  · split at first
    · simp only [List.mem_singleton] at first
      simp [first]
    · cases first
  · rintro rfl
    exact Component.isInner_of_piece further

theorem follow_eq_goal (here : Location) : here.follow path = path.way.goal here :=
  (Way.goal_foldl ⟨0, []⟩ (ne_root_of_relative relative) here).symm

theorem normalComponents_of_relative : path.normalComponents =
    List.replicate (path.way.up % 2) .parent ++ path.way.down.reverse.map .name := by
  have stack := Way.stack_foldl ⟨0, []⟩ (ne_root_of_relative relative)
  change path.way.stack = path.components.foldl absorb [] at stack
  rw [normalComponents, ← stack, Way.stack]
  simp

end Relative

/-- Going down does not lead through anything but names of entries. -/
theorem isName_of_mem_down {path : Path} (relative : path.isAbsolute = false) {name : String}
    (member : name ∈ path.way.down) : IsName name := by
  have above : ∀ name ∈ ([] : Location), IsName name := by simp
  refine Location.follow_isName above path name ?_
  rw [follow_eq_goal relative]
  exact List.mem_append_left _ member

theorem isInner_of_relative {path : Path} (relative : path.isAbsolute = false) :
    ∀ component ∈ path.normalComponents, component.IsInner := by
  rw [normalComponents_of_relative relative]
  intro component member
  rcases List.mem_append.1 member with up | down
  · rw [List.eq_of_mem_replicate up]
    trivial
  · obtain ⟨name, found, rfl⟩ := List.mem_map.1 down
    exact isName_of_mem_down relative (List.mem_reverse.1 found)

/-- Behind the root stand nothing but `..` and names. -/
theorem normalComponents_of_absolute {path : Path} (absolute : path.isAbsolute = true) :
    ∃ inner, path.normalComponents = .root :: inner ∧ (∀ component ∈ inner, component.IsInner) ∧
      inner.foldl Location.step [] = Location.follow [] path := by
  obtain ⟨held, either, shape⟩ := normalComponents_eq absolute
  refine ⟨_, shape, fun component member => ?_, ?_⟩
  · rcases List.mem_append.1 member with first | named
    · rcases either with rfl | rfl
      · cases first
      · rw [List.mem_singleton.1 first]
        trivial
    · obtain ⟨name, found, rfl⟩ := List.mem_map.1 named
      exact Location.follow_isName (by simp) path name (List.mem_reverse.1 found)
  · rw [List.foldl_append, Location.foldl_names, List.reverse_reverse]
    rcases either with rfl | rfl <;> simp [Location.step]

theorem ofComponents_root {inner : List Component}
    (allInner : ∀ component ∈ inner, component.IsInner) :
    (ofComponents (.root :: inner)).components = .root :: inner ∧
      (ofComponents (.root :: inner)).isAbsolute = true := by
  induction inner using List.reverseRecOn with
  | nil => decide
  | append_singleton before component ih =>
    have last := allInner component (by simp)
    obtain ⟨components, absolute⟩ := ih fun other member =>
      allInner other (List.mem_append_left _ member)
    rw [← List.cons_append, ofComponents_concat, components_child_inner _ last, components]
    exact ⟨rfl, (isAbsolute_child _ last.unslashed).trans absolute⟩

/-- A path has the components of its normal form once it is normalized, and it is absolute if it
was. -/
theorem components_normalize (path : Path) :
    path.normalize.components = path.normalComponents ∧
      path.normalize.isAbsolute = path.isAbsolute := by
  unfold normalize
  cases absolute : path.isAbsolute with
  | true =>
    obtain ⟨inner, shape, allInner, -⟩ := normalComponents_of_absolute absolute
    rw [shape]
    exact ofComponents_root allInner
  | false =>
    have allInner := isInner_of_relative absolute
    exact ⟨components_ofComponents allInner, relative_ofComponents allInner⟩

/-- Two normalized paths with the same components have the same text. -/
theorem normalize_eq_iff {a b : Path} :
    a.normalize = b.normalize ↔ a.normalComponents = b.normalComponents := by
  constructor
  · intro same
    rw [← (components_normalize a).1, same, (components_normalize b).1]
  · exact congrArg ofComponents

theorem follow_normalize_of_absolute {path : Path} (absolute : path.isAbsolute = true)
    (here : Location) : here.follow path.normalize = here.follow path := by
  obtain ⟨inner, shape, -, leads⟩ := normalComponents_of_absolute absolute
  rw [Location.follow, (components_normalize path).1, shape, List.foldl_cons, Location.step, leads,
    Location.follow, Location.follow, components_of_isAbsolute absolute]
  rfl

theorem follow_normalize_of_relative {path : Path} (relative : path.isAbsolute = false)
    (here : Location) :
    here.follow path.normalize = path.way.down ++ here.drop (path.way.up % 2) := by
  rw [Location.follow, (components_normalize path).1, normalComponents_of_relative relative,
    List.foldl_append, Location.foldl_parents, Location.foldl_names, List.reverse_reverse]

theorem drop_eq_drop_iff {here : Location} {few many : Nat} (fewer : few ≤ many) :
    here.drop few = here.drop many ↔ few = many ∨ here.length ≤ few := by
  constructor
  · intro same
    have lengths := congrArg List.length same
    rw [List.length_drop, List.length_drop] at lengths
    omega
  · rintro (rfl | short)
    · rfl
    · rw [List.drop_eq_nil_of_le short, List.drop_eq_nil_of_le (short.trans fewer)]

/-- Behind a directory a normalized path leads where the path leads, if that is absolute or climbs
at most one step above its start, or if the root is so near that further steps stay there. It leads
elsewhere in every other case. -/
theorem normalize_leads_iff (base path : Path) :
    Location.follow [] (base.join path.normalize) = Location.follow [] (base.join path) ↔
      path.isAbsolute = true ∨ path.way.up ≤ 1 ∨
        (Location.follow [] base).length ≤ path.way.up % 2 := by
  have same := (components_normalize path).2
  cases absolute : path.isAbsolute with
  | true =>
    rw [absolute] at same
    have whole : base.join path = path := by simp [join, absolute]
    have whole' : base.join path.normalize = path.normalize := by simp [join, same]
    rw [whole, whole', follow_normalize_of_absolute absolute]
    simp
  | false =>
    rw [Location.follow_join [] base (same.trans absolute), Location.follow_join [] base absolute,
      follow_normalize_of_relative absolute, follow_eq_goal absolute, Way.goal,
      List.append_cancel_left_eq, drop_eq_drop_iff (Nat.mod_le _ _)]
    simp only [Bool.false_eq_true, false_or]
    omega

/-- Two steps up cancel each other. -/
theorem normalize_leads_nowhere : (Path.mk "../..").normalize = ⟨""⟩ ∧
    Location.follow [] (Path.join ⟨"/a/b"⟩ ⟨"../.."⟩) = [] ∧
    Location.follow [] (Path.join ⟨"/a/b"⟩ (Path.mk "../..").normalize) = ["b", "a"] := by
  decide

section Between

variable {source target : Path}

/-- The way between two directories climbs first and then goes down. -/
theorem steps_shape (fromRoot : source.isAbsolute = true) (toRoot : target.isAbsolute = true) :
    ∃ (up : Nat) (names : List String), (∀ name ∈ names, IsName name) ∧
      steps source target = List.replicate up .parent ++ names.map .name := by
  obtain ⟨held, -, shape⟩ := normalComponents_eq fromRoot
  obtain ⟨held', either', shape'⟩ := normalComponents_eq toRoot
  have isName : ∀ name ∈ (Location.follow [] target).reverse, IsName name := fun name member =>
    Location.follow_isName (by simp) target name (List.mem_reverse.1 member)
  rw [steps, shape, shape', sharedLength, if_pos rfl, List.drop_succ_cons, List.drop_succ_cons,
    List.map_const']
  generalize (List.drop _ _).length = up
  generalize sharedLength _ _ = shared
  generalize (Location.follow [] target).reverse = names at *
  have some : ∀ count, ∃ more : List String, (∀ name ∈ more, IsName name) ∧
      (names.map Component.name).drop count = more.map .name := fun count =>
    ⟨names.drop count, fun name member => isName name (List.mem_of_mem_drop member), by simp⟩
  rcases either' with rfl | rfl
  · obtain ⟨more, proper, eq⟩ := some shared
    exact ⟨up, more, proper, by rw [List.nil_append, eq]⟩
  cases shared with
  | zero =>
    exact ⟨up + 1, names, isName, by simp [List.replicate_succ']⟩
  | succ shared =>
    obtain ⟨more, proper, eq⟩ := some shared
    exact ⟨up, more, proper, by rw [List.singleton_append, List.drop_succ_cons, eq]⟩

theorem sharedLength_self (components : List Component) :
    sharedLength components components = components.length := by
  induction components with
  | nil => rfl
  | cons component rest ih => simp [sharedLength, ih]

/-- There is nothing to walk only between two paths with the same normal form. -/
theorem steps_eq_nil_iff :
    steps source target = [] ↔ source.normalComponents = target.normalComponents := by
  constructor
  · intro none
    obtain ⟨up, down⟩ := List.append_eq_nil_iff.1 none
    rw [List.map_eq_nil_iff] at up
    have shared := sharedLength_spec source.normalComponents target.normalComponents
    rw [List.drop_eq_nil_iff] at up down
    rwa [List.take_of_length_le up, List.take_of_length_le down] at shared
  · intro same
    simp [steps, same, sharedLength_self]

theorem between_eq_current_iff (fromRoot : source.isAbsolute = true)
    (toRoot : target.isAbsolute = true) : between source target = ⟨"."⟩ ↔
      source.normalComponents = target.normalComponents := by
  rw [← steps_eq_nil_iff]
  constructor
  · intro dot
    have components := components_between fromRoot toRoot
    rw [dot, show (Path.mk ".").components = [.current] by decide] at components
    by_contra some
    rw [if_neg (by simpa using some)] at components
    exact steps_isInner fromRoot toRoot .current (by simp [← components])
  · intro none
    rw [between_eq, none, List.isEmpty_nil, if_pos rfl]

/-- The way from one absolute path to another is a relative path that climbs first and then goes
down, or a single dot. Taken behind the first it leads to the second. It is the dot just when both
have the same normal form. -/
theorem between_joins (fromRoot : source.isAbsolute = true) (toRoot : target.isAbsolute = true) :
    (between source target).text ≠ "" ∧ (between source target).isAbsolute = false ∧
      (between source target = ⟨"."⟩ ∨
        ∃ (up : Nat) (names : List String), (∀ name ∈ names, IsName name) ∧
          (between source target).components = List.replicate up .parent ++ names.map .name) ∧
      Location.follow [] (source.join (between source target)) = Location.follow [] target ∧
      (between source target = ⟨"."⟩ ↔ source.normalize = target.normalize) ∧
      (between source target = ⟨"."⟩ ↔
        source.normalize.components = target.normalize.components) := by
  have dot := between_eq_current_iff fromRoot toRoot
  refine ⟨between_nonempty fromRoot toRoot, between_relative fromRoot toRoot, ?_,
    (between_leads fromRoot toRoot).2, dot.trans normalize_eq_iff.symm, ?_⟩
  · by_cases none : steps source target = []
    · exact .inl (dot.2 (steps_eq_nil_iff.1 none))
    · obtain ⟨up, names, isName, shape⟩ := steps_shape fromRoot toRoot
      refine .inr ⟨up, names, isName, ?_⟩
      rw [components_between fromRoot toRoot, if_neg (by simpa using none), shape]
  · rw [dot, (components_normalize source).1, (components_normalize target).1]

theorem between_joins_climbing :
    (Path.mk "/a/../../b/./c/").isAbsolute = true ∧ (Path.mk "/../b//d").isAbsolute = true ∧
      between ⟨"/a/../../b/./c/"⟩ ⟨"/../b//d"⟩ = ⟨"../d"⟩ ∧
      Location.follow [] (Path.join ⟨"/a/../../b/./c/"⟩ ⟨"../d"⟩) = ["d", "b"] ∧
      (Path.mk "/a/../../b/./c/").normalize ≠ (Path.mk "/../b//d").normalize := by
  have fromRoot : (Path.mk "/a/../../b/./c/").isAbsolute = true := by decide
  have toRoot : (Path.mk "/../b//d").isAbsolute = true := by decide
  have way : between ⟨"/a/../../b/./c/"⟩ ⟨"/../b//d"⟩ = ⟨"../d"⟩ := by decide
  obtain ⟨-, -, -, leads, dot, -⟩ := between_joins fromRoot toRoot
  rw [way] at leads dot
  exact ⟨fromRoot, toRoot, way, leads.trans (by decide),
    fun same => absurd (dot.2 same) (by decide)⟩

end Between

end Path

end ModelForge
