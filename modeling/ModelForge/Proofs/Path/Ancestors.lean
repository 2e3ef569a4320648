import ModelForge.Proofs.Path.Descent

/-! The ancestors of a path as texts. Each is spelled as plainly as can be, so none is longer than
the path, and each is the next one with the one component that it has more. -/
namespace ModelForge

namespace Text

/-- The room that texts take, with a separator behind each. -/
def room : List String → Nat
  | [] => 0
  | text :: rest => text.utf8ByteSize + 1 + room rest

@[simp] theorem room_nil : room [] = 0 := rfl

@[simp] theorem room_cons (text : String) (rest : List String) :
    room (text :: rest) = text.utf8ByteSize + 1 + room rest := rfl

theorem room_append (a b : List String) : room (a ++ b) = room a + room b := by
  induction a with
  | nil => simp
  | cons text rest ih =>
    rw [List.cons_append, room_cons, room_cons, ih]
    omega

/-- Stretches take as much room as the text that they were cut from, with one separator each. -/
theorem size_rejoin (fields : List (List Char)) (some : fields ≠ []) :
    (String.ofList (rejoin '/' fields)).utf8ByteSize + 1 = room (fields.map String.ofList) := by
  induction fields with
  | nil => exact absurd rfl some
  | cons first more ih =>
    cases more with
    | nil => simp [rejoin]
    | cons second rest =>
      have tail := ih (by simp)
      have slash : '/'.utf8Size = 1 := rfl
      rw [rejoin, List.map_cons, room_cons, ← tail]
      simp only [String.ofList_append, String.utf8ByteSize_append, String.ofList_cons,
        String.utf8ByteSize_singleton, slash]
      omega
      · simp

theorem mem_of_mem_field {separator : Char} {s field : List Char}
    (member : field ∈ fields separator s) {c : Char} (inside : c ∈ field) : c ∈ s := by
  induction s generalizing field with
  | nil =>
    obtain rfl : field = [] := by simpa [fields] using member
    cases inside
  | cons head rest ih =>
    obtain ⟨first, more, shape⟩ := List.exists_cons_of_ne_nil (fields_ne_nil separator rest)
    by_cases cut : head = separator
    · rw [fields, if_pos cut] at member
      rcases List.mem_cons.1 member with rfl | member
      · cases inside
      · exact List.mem_cons_of_mem _ (ih member inside)
    · rw [fields, if_neg cut, shape] at member
      rcases List.mem_cons.1 member with rfl | member
      · rcases List.mem_cons.1 inside with rfl | inside
        · exact List.mem_cons_self
        · exact List.mem_cons_of_mem _ (ih (shape ▸ List.mem_cons_self) inside)
      · exact List.mem_cons_of_mem _ (ih (shape ▸ List.mem_cons_of_mem _ member) inside)

end Text

namespace Path

/-- What stands before the components that the stretches contribute. -/
def opening (path : Path) : List Component :=
  if path.isAbsolute then [.root] else if path.pieces.head? = some "." then [.current] else []

theorem components_eq (path : Path) :
    path.components = path.opening ++ path.pieces.filterMap Component.ofPiece? := by
  unfold components opening
  dsimp only
  split
  · rfl
  · split <;> rfl

theorem opening_cases (path : Path) :
    path.opening = [] ∨ ∃ component, path.opening = [component] := by
  unfold opening
  split
  · exact .inr ⟨_, rfl⟩
  split
  · exact .inr ⟨_, rfl⟩
  · exact .inl rfl

theorem foldl_opening (path : Path) (here : Location) :
    path.opening.foldl Location.step here = path.start here := by
  unfold opening start
  split
  · rfl
  · split <;> rfl

/-- The room that components take, with a separator behind each. -/
def weight (components : List Component) : Nat :=
  Text.room (components.map Component.text)

theorem weight_append (a b : List Component) : weight (a ++ b) = weight a + weight b := by
  rw [weight, List.map_append, Text.room_append, weight, weight]

theorem text_of_ofPiece {piece : String} {component : Component}
    (found : Component.ofPiece? piece = some component) : component.text = piece := by
  unfold Component.ofPiece? at found
  split at found
  · cases found
  split at found
  · cases found
    exact ‹piece = ".."›.symm
  · cases found
    rfl

theorem text_ne_empty {piece : String} {component : Component}
    (found : Component.ofPiece? piece = some component) : component.text ≠ "" := by
  rw [text_of_ofPiece found]
  rintro rfl
  simp [Component.ofPiece?] at found

/-- The components need no more room than the path, but for one character before the root. -/
theorem weight_components (path : Path) :
    weight path.components ≤ path.text.utf8ByteSize + 2 := by
  have whole : path.text.utf8ByteSize + 1 = Text.room path.pieces := by
    have size := Text.size_rejoin (Text.fields '/' path.text.toList) (Text.fields_ne_nil _ _)
    rwa [Text.rejoin_fields, String.ofList_toList] at size
  have named : ∀ pieces : List String, weight (pieces.filterMap Component.ofPiece?) ≤
      Text.room pieces := by
    intro pieces
    induction pieces with
    | nil => simp [weight]
    | cons piece rest ih =>
      cases found : Component.ofPiece? piece with
      | none =>
        simp only [List.filterMap_cons, found, Text.room_cons]
        omega
      | some component =>
        simp only [List.filterMap_cons, found, Text.room_cons]
        have same := text_of_ofPiece found
        simp only [weight, List.map_cons, Text.room_cons, same] at ih ⊢
        omega
  rw [components_eq, weight_append]
  by_cases absolute : path.isAbsolute = true
  · obtain ⟨rest, chars⟩ : ∃ rest, path.text.toList = '/' :: rest :=
      List.head?_eq_some_iff.1 (by simpa [isAbsolute] using absolute)
    obtain ⟨more, shape⟩ : ∃ more, path.pieces = "" :: more := by
      simp [pieces, chars, Text.fields]
    have inner := named more
    rw [shape, Text.room_cons] at whole
    have blank : Component.ofPiece? "" = none := by simp [Component.ofPiece?]
    rw [shape, List.filterMap_cons_none blank, opening, if_pos absolute]
    have root : weight [.root] = 2 := by decide
    have empty : "".utf8ByteSize = 0 := rfl
    omega
  by_cases dotted : path.pieces.head? = some "."
  · obtain ⟨more, shape⟩ := List.head?_eq_some_iff.1 dotted
    have inner := named more
    rw [shape, Text.room_cons] at whole
    have dot : Component.ofPiece? "." = none := by simp [Component.ofPiece?]
    rw [opening, if_neg absolute, if_pos dotted, shape, List.filterMap_cons_none dot]
    have current : weight [.current] = 2 := by decide
    have one : ".".utf8ByteSize = 1 := rfl
    omega
  · have all := named path.pieces
    rw [opening, if_neg absolute, if_neg dotted]
    have none : weight [] = 0 := rfl
    omega

/-- A component's text is one of a few, or a part of the path. -/
theorem mem_text_of_mem_component {path : Path} {component : Component}
    (member : component ∈ path.components) {c : Char} (inside : c ∈ component.text.toList) :
    c ∈ path.text.toList ∨ c = '/' ∨ c = '.' := by
  rw [components_eq, List.mem_append] at member
  rcases member with first | named
  · unfold opening at first
    split at first
    · obtain rfl := List.mem_singleton.1 first
      exact .inr (.inl (by simpa [Component.text] using inside))
    · split at first
      · obtain rfl := List.mem_singleton.1 first
        exact .inr (.inr (by simpa [Component.text] using inside))
      · cases first
  · obtain ⟨piece, found, eq⟩ := List.mem_filterMap.1 named
    obtain ⟨field, cut, rfl⟩ := List.mem_map.1 found
    rw [text_of_ofPiece eq, String.toList_ofList] at inside
    exact .inl (Text.mem_of_mem_field cut inside)

/-- A list of components that a path can have. -/
def Component.Formed : List Component → Prop
  | [] => True
  | first :: rest => (first = .root ∨ first = .current ∨ first.IsInner) ∧
      ∀ component ∈ rest, component.IsInner

theorem formed_components (path : Path) : Component.Formed path.components := by
  obtain ⟨opening, inner, shape, openings, allInner⟩ := components_shape path
  rw [shape]
  rcases openings with rfl | rfl | rfl
  · cases inner with
    | nil => trivial
    | cons first rest =>
      exact ⟨.inr (.inr (allInner first List.mem_cons_self)),
        fun component member => allInner component (List.mem_cons_of_mem _ member)⟩
  · exact ⟨.inl rfl, allInner⟩
  · exact ⟨.inr (.inl rfl), allInner⟩

theorem Component.Formed.of_append {a b : List Component} (formed : Formed (a ++ b)) :
    Formed a := by
  cases a with
  | nil => trivial
  | cons first rest =>
    exact ⟨formed.1, fun component member => formed.2 component (List.mem_append_left _ member)⟩

/-- The last stretch with anything in it. -/
def lastPiece? (path : Path) : Option String := path.pieces.reverse.find? (· ≠ "")

/-- A path that has been made component by component. -/
structure Plain (path : Path) : Prop where
  size : path.text.utf8ByteSize ≤ weight path.components
  chars : ∀ c ∈ path.text.toList, c = '/' ∨ ∃ component ∈ path.components,
    c ∈ component.text.toList
  /-- No `.` comes last, unless there is nothing else. -/
  last : path.lastPiece? ≠ some "." ∨ path.components = [.current]

theorem plain_empty : Plain ⟨""⟩ := ⟨by decide, by simp, .inl (by decide)⟩

theorem size_stem (base : Path) : base.stem.utf8ByteSize ≤ base.text.utf8ByteSize + 1 := by
  unfold stem
  split
  · simp
  split
  · omega
  · rw [String.utf8ByteSize_append]
    exact Nat.le_refl _

theorem size_le_child (base : Path) {name : String} (unslashed : '/' ∉ name.toList) :
    base.text.utf8ByteSize + name.utf8ByteSize ≤ (base.child name).text.utf8ByteSize := by
  rw [child_eq_stem base unslashed, String.utf8ByteSize_append]
  unfold stem
  split
  · rename_i blank
    have none : base.text = "" := by simpa [isEmpty] using blank
    simp [none]
  split
  · exact Nat.le_refl _
  · rw [String.utf8ByteSize_append]
    omega

theorem mem_stem {base : Path} {c : Char} (member : c ∈ base.stem.toList) :
    c ∈ base.text.toList ∨ c = '/' := by
  unfold stem at member
  split at member
  · simp at member
  split at member
  · exact .inl member
  · simpa using member

theorem Component.IsInner.unslashed {component : Component} (inner : component.IsInner) :
    '/' ∉ component.text.toList := by
  cases component with
  | root | current => exact inner.elim
  | parent => decide
  | name text => exact Path.IsName.unslashed inner

theorem Component.IsInner.proper {component : Component} (inner : component.IsInner) :
    component.text ≠ "" ∧ component.text ≠ "." := by
  cases component with
  | root | current => exact inner.elim
  | parent => decide
  | name text => exact ⟨Path.IsName.nonempty inner, Path.IsName.ne_current inner⟩

theorem Component.Formed.text_ne_empty {components : List Component} (formed : Formed components)
    {component : Component} (member : component ∈ components) : component.text ≠ "" := by
  cases components with
  | nil => cases member
  | cons first rest =>
    rcases List.mem_cons.1 member with rfl | member
    · rcases formed.1 with rfl | rfl | inner
      · decide
      · decide
      · exact inner.proper.1
    · exact (formed.2 component member).proper.1

theorem Plain.child {base : Path} (plain : Plain base) {component : Component}
    (inner : component.IsInner) : Plain (base.child component.text) := by
  have components := components_child_inner base inner
  have text := child_eq_stem base inner.unslashed
  constructor
  · have size := plain.size
    have stem := size_stem base
    rw [components, weight_append, text, String.utf8ByteSize_append]
    simp only [weight, List.map_cons, List.map_nil, Text.room_cons, Text.room_nil] at size ⊢
    omega
  · intro c member
    rw [text, String.toList_append, List.mem_append] at member
    rw [components]
    rcases member with front | own
    · rcases mem_stem front with before | slash
      · rcases plain.chars c before with slash | ⟨other, found, inside⟩
        · exact .inl slash
        · exact .inr ⟨other, List.mem_append_left _ found, inside⟩
      · exact .inl slash
    · exact .inr ⟨component, List.mem_append_right _ (List.mem_singleton_self _), own⟩
  · obtain ⟨first, shape, -⟩ := pieces_child base inner.unslashed
    refine .inl ?_
    simp [lastPiece?, shape, inner.proper]

/-- The one-component path that begins the ancestors. -/
theorem plain_first {component : Component} (formed : Component.Formed [component]) :
    Plain (Path.child ⟨""⟩ component.text) ∧
      (Path.child ⟨""⟩ component.text).components = [component] := by
  rcases formed.1 with rfl | rfl | inner
  · have whole : Path.child ⟨""⟩ Component.root.text = ⟨"/"⟩ := by decide
    rw [whole]
    refine ⟨⟨by decide, ?_, .inl (by decide)⟩, by decide⟩
    intro c member
    exact .inl (by simpa using member)
  · have whole : Path.child ⟨""⟩ Component.current.text = ⟨"."⟩ := by decide
    have only : (Path.mk ".").components = [.current] := by decide
    rw [whole]
    refine ⟨⟨by decide, ?_, .inr only⟩, only⟩
    intro c member
    exact .inr ⟨.current, only ▸ List.mem_singleton_self _, member⟩
  · exact ⟨plain_empty.child inner, components_child_inner ⟨""⟩ inner⟩

/-- The paths that are made of leading components, the longest first. -/
theorem leading_paths (components : List Component) (formed : Component.Formed components) :
    let found := components.foldl
      (fun found component => (found.headD ⟨""⟩).child component.text :: found) ([] : List Path)
    (found.headD ⟨""⟩).components = components ∧ (found ++ [Path.mk ""]).IsChain Extends ∧
      ∀ path ∈ found, Plain path ∧ path.components ≠ [] ∧ path.components <+: components := by
  induction components using List.reverseRecOn with
  | nil => exact ⟨by decide, by simp, by simp⟩
  | append_singleton before component ih =>
    obtain ⟨head, chain, members⟩ := ih formed.of_append
    rw [List.foldl_concat]
    dsimp only
    generalize before.foldl
      (fun found component => (found.headD ⟨""⟩).child component.text :: found) ([] : List Path) =
        found
      at head chain members ⊢
    have grown : Plain ((found.headD ⟨""⟩).child component.text) ∧
        ((found.headD ⟨""⟩).child component.text).components = before ++ [component] := by
      cases found with
      | nil =>
        obtain rfl : before = [] := head.symm
        exact plain_first formed
      | cons path more =>
        obtain ⟨plain, some, -⟩ := members path List.mem_cons_self
        have inner : component.IsInner := by
          obtain ⟨first, rest, shape⟩ := List.exists_cons_of_ne_nil some
          rw [List.headD_cons] at head
          rw [← head, shape] at formed
          exact formed.2 component (by simp)
        exact ⟨plain.child inner, by rw [components_child_inner _ inner, head]⟩
    refine ⟨grown.2, ?_, fun path member => ?_⟩
    · rw [List.cons_append]
      cases found with
      | nil => exact .cons_cons ⟨component, grown.2.trans (by rw [← head]; rfl)⟩ chain
      | cons path more =>
        exact .cons_cons ⟨component, grown.2.trans (by rw [← head]; rfl)⟩ chain
    · rcases List.mem_cons.1 member with rfl | member
      · refine ⟨grown.1, ?_, grown.2 ▸ List.prefix_rfl⟩
        rw [grown.2]
        simp
      · obtain ⟨plain, some, leading⟩ := members path member
        exact ⟨plain, some, leading.trans (List.prefix_append _ _)⟩

variable {path ancestor : Path}

theorem ancestors_chain (path : Path) :
    (path.ancestors.headD ⟨""⟩).components = path.components.dropLast ∧
      (path.ancestors ++ [Path.mk ""]).IsChain Extends ∧ ∀ ancestor ∈ path.ancestors,
        Plain ancestor ∧ ancestor.components ≠ [] ∧
          ancestor.components <+: path.components.dropLast := by
  refine leading_paths path.components.dropLast ?_
  have formed := formed_components path
  by_cases none : path.components = []
  · rw [none]
    trivial
  · rw [← List.dropLast_append_getLast none] at formed
    exact formed.of_append

/-- No ancestor is longer than the path. -/
theorem size_ancestor (member : ancestor ∈ path.ancestors) :
    ancestor.text.utf8ByteSize ≤ path.text.utf8ByteSize := by
  obtain ⟨plain, some, leading⟩ := (ancestors_chain path).2.2 ancestor member
  obtain ⟨more, shape⟩ := leading
  have all := weight_components path
  have nonempty : path.components ≠ [] := by
    intro none
    rw [none, List.dropLast_nil, List.append_eq_nil_iff] at shape
    exact some shape.1
  have whole := List.dropLast_append_getLast nonempty
  rw [← shape] at whole
  have last : 2 ≤ weight [path.components.getLast nonempty] := by
    have text := (formed_components path).text_ne_empty (List.getLast_mem nonempty)
    have size : (path.components.getLast nonempty).text.utf8ByteSize ≠ 0 := by simp [text]
    simp only [weight, List.map_cons, List.map_nil, Text.room_cons, Text.room_nil]
    omega
  rw [← whole, weight_append, weight_append] at all
  have size := plain.size
  omega

theorem mem_ancestor (member : ancestor ∈ path.ancestors) {c : Char}
    (inside : c ∈ ancestor.text.toList) : c ∈ path.text.toList ∨ c = '/' ∨ c = '.' := by
  obtain ⟨plain, -, leading⟩ := (ancestors_chain path).2.2 ancestor member
  rcases plain.chars c inside with slash | ⟨component, found, inside⟩
  · exact .inr (.inl slash)
  · exact mem_text_of_mem_component (List.dropLast_subset _ (leading.subset found)) inside

end Path

end ModelForge
