import ModelForge.Proofs.Path.Normal

/-! Normal forms of paths that are put together. A component is absorbed into the normal form of
what came before it, and a normal form absorbs into nothing as itself, so the first of two paths may
be normalized before the second is joined to it. -/
namespace ModelForge.Path

/-- The normal form of a path, its last component first. -/
def stacked (path : Path) : List Component := path.components.foldl absorb []

theorem normalComponents_eq_reverse (path : Path) : path.normalComponents = path.stacked.reverse :=
  rfl

theorem normalize_of_stacked {a b : Path} (same : a.stacked = b.stacked) :
    a.normalize = b.normalize :=
  normalize_eq_iff.2 (congrArg List.reverse same)

/-- What stands at the beginning of a path adds nothing to a normal form, or starts it anew. -/
theorem absorb_opening (path : Path) (stack : List Component) :
    path.opening.foldl absorb stack = if path.isAbsolute then [.root] else stack := by
  unfold opening
  split
  · rfl
  · split <;> rfl

theorem absorb_components (path : Path) (stack : List Component) :
    path.components.foldl absorb stack =
      (path.pieces.filterMap Component.ofPiece?).foldl absorb
        (if path.isAbsolute then [.root] else stack) := by
  rw [components_eq, List.foldl_append, absorb_opening]

/-- The second of two paths is absorbed into the normal form of the first. -/
theorem stacked_join (a b : Path) : (a.join b).stacked = b.components.foldl absorb a.stacked := by
  have blank : Component.ofPiece? "" = none := by simp [Component.ofPiece?]
  unfold stacked
  simp only [absorb_components]
  cases absolute : b.isAbsolute with
  | true => simp [join, absolute]
  | false =>
    obtain ⟨first, shape, before⟩ := pieces_join a absolute
    have front : first.filterMap Component.ofPiece? = a.pieces.filterMap Component.ofPiece? := by
      rcases before with same | slashed
      · simp [same]
      · simp [slashed, blank]
    simp [shape, front, isAbsolute_join a absolute, List.foldl_append]

/-- A normal form climbs, or starts at the root, and only then goes through names. -/
theorem normalComponents_cases (path : Path) : ∃ (front : List Component) (names : List String),
    (front = [] ∨ front = [.parent] ∨ front = [.root] ∨ front = [.root, .parent]) ∧
      path.normalComponents = front ++ names.map .name := by
  cases absolute : path.isAbsolute with
  | true =>
    obtain ⟨held, either, shape⟩ := normalComponents_eq absolute
    refine ⟨.root :: held, _, ?_, shape⟩
    rcases either with rfl | rfl <;> simp
  | false =>
    refine ⟨_, _, ?_, normalComponents_of_relative absolute⟩
    rcases Nat.mod_two_eq_zero_or_one path.way.up with even | odd
    · simp [even]
    · simp [odd]

theorem absorb_names (names : List String) (stack : List Component) :
    (names.map Component.name).foldl absorb stack = (names.map .name).reverse ++ stack := by
  induction names generalizing stack with
  | nil => rfl
  | cons name rest ih => simp [ih, absorb]

/-- A normal form is its own normal form. -/
theorem stacked_normalize (path : Path) : path.normalize.stacked = path.stacked := by
  obtain ⟨front, names, fronts, shape⟩ := normalComponents_cases path
  have again : front.foldl absorb [] = front.reverse := by
    rcases fronts with rfl | rfl | rfl | rfl <;> rfl
  have stack : path.stacked = path.normalComponents.reverse := by
    simp [normalComponents_eq_reverse]
  rw [stacked, (components_normalize path).1, stack, shape, List.foldl_append, again, absorb_names,
    List.reverse_append]

/-- Normalizing the first of two paths that are joined makes no difference to the normal form of
both, and a path that is normalized stays as it is. A normalized path is absolute if the path was;
no `.` is left in it, and no name stands before a `..`. -/
theorem normalize_composes (a b : Path) :
    (a.join b).normalize = (a.normalize.join b).normalize ∧
      a.normalize.normalize = a.normalize ∧
      (a.normalize.isAbsolute = true ↔ a.isAbsolute = true) ∧
      .current ∉ a.normalize.components ∧
      a.normalize.components.Pairwise fun before behind =>
        behind = .parent → ∀ name, before ≠ .name name := by
  refine ⟨?_, normalize_of_stacked (stacked_normalize a), ?_, ?_⟩
  · apply normalize_of_stacked
    simp only [stacked_join, stacked_normalize]
  · rw [(components_normalize a).2]
  · obtain ⟨front, names, fronts, shape⟩ := normalComponents_cases a
    have climbs : ∀ component ∈ front, component = .root ∨ component = .parent := by
      rcases fronts with rfl | rfl | rfl | rfl <;> simp
    rw [(components_normalize a).1, shape]
    refine ⟨?_, List.pairwise_append.2 ⟨?_, ?_, ?_⟩⟩
    · intro member
      rcases List.mem_append.1 member with first | named
      · rcases climbs _ first with root | parent
        · cases root
        · cases parent
      · simp at named
    · refine List.pairwise_of_forall_mem_list fun before first behind _ _ name named => ?_
      rcases climbs before first with rfl | rfl <;> cases named
    · refine List.pairwise_of_forall_mem_list fun before _ behind named later => ?_
      rw [later] at named
      simp at named
    · rintro before first behind later rfl
      simp at later

end ModelForge.Path
