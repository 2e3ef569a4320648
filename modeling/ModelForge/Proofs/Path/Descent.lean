import Mathlib.Data.List.Chain
import ModelForge.Path.Lexical

/-! Paths that are built name by name. Joining one name to a path adds one component, whatever
the spelling of the path; the ancestors of a path are its leading parts; and the place to which
a path leads is one step below the place to which all but its last component leads. -/
namespace ModelForge

namespace Text

theorem fields_append_separator (separator : Char) (before after : List Char) :
    fields separator (before ++ separator :: after) =
      fields separator before ++ fields separator after := by
  induction before with
  | nil => simp [fields]
  | cons c rest ih =>
    by_cases h : c = separator
    · simp [fields, h, ih]
    · obtain ⟨first, more, shape⟩ := List.exists_cons_of_ne_nil (fields_ne_nil separator rest)
      simp [fields, h, ih, shape]

theorem fields_of_notMem {separator : Char} {s : List Char} (absent : separator ∉ s) :
    fields separator s = [s] := by
  induction s with
  | nil => rfl
  | cons c rest ih =>
    have head : c ≠ separator := fun same => absent (same ▸ List.mem_cons_self)
    have tail := ih fun member => absent (List.mem_cons_of_mem _ member)
    simp [fields, head, tail]

/-- Where two texts meet, the last stretch of the one goes on in the first of the other. -/
theorem fields_append {separator : Char} {before after last first : List Char}
    {front more : List (List Char)} (left : fields separator before = front ++ [last])
    (right : fields separator after = first :: more) :
    fields separator (before ++ after) = front ++ (last ++ first) :: more := by
  induction before generalizing front last with
  | nil =>
    obtain ⟨rfl, rfl⟩ : front = [] ∧ last = [] := by
      simpa [fields, List.append_eq_singleton_iff, eq_comm] using left
    exact right
  | cons c rest ih =>
    obtain ⟨init, final, shape⟩ : ∃ init final, fields separator rest = init ++ [final] :=
      ⟨_, _, (List.dropLast_append_getLast (fields_ne_nil separator rest)).symm⟩
    have onward := ih shape
    by_cases h : c = separator
    · have whole : fields separator (c :: rest) = ([] :: init) ++ [final] := by
        simp [fields, h, shape]
      obtain ⟨rfl, same⟩ := List.append_inj' (left.symm.trans whole) rfl
      obtain rfl := (List.cons.inj same).1
      simp [fields, h, onward]
    · cases init with
      | nil =>
        have whole : fields separator (c :: rest) = [] ++ [c :: final] := by
          simp [fields, h, shape]
        obtain ⟨rfl, same⟩ := List.append_inj' (left.symm.trans whole) rfl
        obtain rfl := (List.cons.inj same).1
        simp [fields, h, onward]
      | cons head tail =>
        have whole : fields separator (c :: rest) = ((c :: head) :: tail) ++ [final] := by
          simp [fields, h, shape]
        obtain ⟨rfl, same⟩ := List.append_inj' (left.symm.trans whole) rfl
        obtain rfl := (List.cons.inj same).1
        simp [fields, h, onward]

/-- A text without separators that comes behind another lengthens its last stretch. -/
theorem fields_append_of_notMem {separator : Char} {after : List Char} (absent : separator ∉ after)
    (s : List Char) : ∃ front last, fields separator s = front ++ [last] ∧
      fields separator (s ++ after) = front ++ [last ++ after] :=
  have shape := (List.dropLast_append_getLast (fields_ne_nil separator s)).symm
  ⟨_, _, shape, fields_append shape (fields_of_notMem absent)⟩

/-- Every other character lies in one of the stretches. -/
theorem exists_field_of_mem {separator c : Char} {s : List Char} (member : c ∈ s)
    (other : c ≠ separator) : ∃ field ∈ fields separator s, c ∈ field := by
  induction s with
  | nil => cases member
  | cons head rest ih =>
    obtain ⟨first, more, shape⟩ := List.exists_cons_of_ne_nil (fields_ne_nil separator rest)
    by_cases h : head = separator
    · have inRest : c ∈ rest := (List.mem_cons.1 member).resolve_left fun eq => other (eq.trans h)
      obtain ⟨field, found, holds⟩ := ih inRest
      exact ⟨field, by simp [fields, h, found], holds⟩
    · rcases List.mem_cons.1 member with rfl | inRest
      · exact ⟨c :: first, by simp [fields, h, shape], List.mem_cons_self⟩
      · obtain ⟨field, found, holds⟩ := ih inRest
        rw [shape] at found
        rcases List.mem_cons.1 found with rfl | found
        · exact ⟨head :: field, by simp [fields, h, shape], List.mem_cons_of_mem _ holds⟩
        · exact ⟨field, by simp [fields, h, shape, found], holds⟩

end Text

namespace Path

/-- A text that names one entry of a directory: no slash in it, not empty, and none of the two
texts of dots that mean a directory already reached. -/
structure IsName (text : String) : Prop where
  nonempty : text ≠ ""
  ne_current : text ≠ "."
  ne_parent : text ≠ ".."
  unslashed : '/' ∉ text.toList

instance (text : String) : Decidable (IsName text) :=
  decidable_of_iff (text ≠ "" ∧ text ≠ "." ∧ text ≠ ".." ∧ '/' ∉ text.toList)
    ⟨fun ⟨a, b, c, d⟩ => ⟨a, b, c, d⟩, fun ⟨a, b, c, d⟩ => ⟨a, b, c, d⟩⟩

/-- A text that leads down from wherever it is joined: it does not begin with a slash, and no
stretch of it is `..`. -/
structure Inward (text : String) : Prop where
  relative : (Path.mk text).isAbsolute = false
  noParent : ".." ∉ (Path.mk text).pieces

instance (text : String) : Decidable (Inward text) :=
  decidable_of_iff ((Path.mk text).isAbsolute = false ∧ ".." ∉ (Path.mk text).pieces)
    ⟨fun ⟨a, b⟩ => ⟨a, b⟩, fun ⟨a, b⟩ => ⟨a, b⟩⟩

/-- Where the walk along a path starts. -/
def start (path : Path) (here : Location) : Location := if path.isAbsolute then [] else here

theorem pieces_mk_of_unslashed {text : String} (unslashed : '/' ∉ text.toList) :
    (Path.mk text).pieces = [text] := by
  simp [pieces, Text.fields_of_notMem unslashed]

theorem unslashed_of_mem_pieces {path : Path} {piece : String} (member : piece ∈ path.pieces) :
    '/' ∉ piece.toList := by
  obtain ⟨field, found, rfl⟩ := List.mem_map.1 member
  simpa using Text.separator_notMem_fields '/' path.text.toList field found

theorem head?_ne_slash {text : String} (unslashed : '/' ∉ text.toList) :
    text.toList.head? ≠ some '/' := by
  intro found
  exact unslashed (List.mem_of_head? found)

theorem relative_of_unslashed {text : String} (unslashed : '/' ∉ text.toList) :
    (Path.mk text).isAbsolute = false := by
  simp [isAbsolute, head?_ne_slash unslashed]

theorem IsName.inward {text : String} (isName : IsName text) : Inward text where
  relative := relative_of_unslashed isName.unslashed
  noParent := by
    rw [pieces_mk_of_unslashed isName.unslashed, List.mem_singleton]
    exact fun eq => isName.ne_parent eq.symm

/-- Any character but a slash and a dot makes a stretch that is a name. -/
theorem exists_name_of_mem {text : String} {c : Char} (member : c ∈ text.toList) (slash : c ≠ '/')
    (dot : c ≠ '.') : ∃ piece ∈ (Path.mk text).pieces, piece ≠ "" ∧ piece ≠ "." := by
  obtain ⟨field, found, holds⟩ := Text.exists_field_of_mem member slash
  refine ⟨String.ofList field, List.mem_map_of_mem found, ?_, ?_⟩
  · rintro eq
    simp [String.ofList_eq_empty_iff.1 eq] at holds
  · intro eq
    have chars := congrArg String.toList eq
    rw [String.toList_ofList] at chars
    rw [chars] at holds
    exact dot (List.mem_singleton.1 holds)

/-- What stands behind a text does not make it begin with a slash. -/
theorem isAbsolute_append {text : String} (some : text ≠ "") (more : String) :
    (Path.mk (text ++ more)).isAbsolute = (Path.mk text).isAbsolute := by
  simp [isAbsolute, some]

/-- Lengthening the last name does not lead out. -/
theorem Inward.append {text more : String} {c : Char} (inward : Inward text) (some : text ≠ "")
    (unslashed : '/' ∉ more.toList) (member : c ∈ more.toList) (dot : c ≠ '.') :
    Inward (text ++ more) where
  relative := (isAbsolute_append some more).trans inward.relative
  noParent := by
    obtain ⟨front, last, eq, eq'⟩ := Text.fields_append_of_notMem unslashed text.toList
    intro found
    rw [pieces, String.toList_append, eq', List.map_append, List.mem_append] at found
    rcases found with found | found
    · exact inward.noParent (by simp only [pieces, eq, List.map_append, List.mem_append, found,
        true_or])
    · have same : ".." = String.ofList (last ++ more.toList) := by simpa using found
      have dots : c ∈ "..".toList := by
        rw [same, String.toList_ofList]
        exact List.mem_append_right _ member
      exact dot (by simpa using dots)

/-- The text to which a name is joined. -/
def stem (base : Path) : String :=
  if base.isEmpty then ""
  else if base.text.toList.getLast? = some '/' then base.text
  else base.text ++ "/"

theorem join_eq_stem (base : Path) {extra : Path} (relative : extra.isAbsolute = false) :
    base.join extra = ⟨base.stem ++ extra.text⟩ := by
  unfold join stem
  by_cases blank : base.isEmpty = true
  · simp [blank]
  · by_cases slashed : base.text.toList.getLast? = some '/' <;> simp [relative, blank, slashed]

theorem child_eq_stem (base : Path) {name : String} (unslashed : '/' ∉ name.toList) :
    base.child name = ⟨base.stem ++ name⟩ :=
  base.join_eq_stem (relative_of_unslashed unslashed)

theorem stem_child (base : Path) {name : String} (isName : IsName name) :
    (base.child name).stem = base.stem ++ name ++ "/" := by
  obtain ⟨front, last, shape⟩ : ∃ front last, name.toList = front ++ [last] :=
    ⟨_, _, (List.dropLast_append_getLast (by simpa using isName.nonempty)).symm⟩
  have notSlash : last ≠ '/' := fun eq => isName.unslashed (by simp [shape, eq])
  rw [child_eq_stem base isName.unslashed, stem, if_neg, if_neg]
  · simp [shape, notSlash]
  · simp [isEmpty, isName.nonempty]

/-- How the text of a path grows when a relative one is joined to it. -/
theorem join_cases (base : Path) {extra : Path} (relative : extra.isAbsolute = false) :
    (base.text = "" ∧ base.join extra = extra) ∨
    (∃ front, base.text.toList = front ++ ['/'] ∧ base.join extra = ⟨base.text ++ extra.text⟩) ∨
    (base.text ≠ "" ∧ base.join extra = ⟨base.text ++ "/" ++ extra.text⟩) := by
  rw [base.join_eq_stem relative]
  unfold stem
  by_cases blank : base.isEmpty = true
  · exact .inl ⟨by simpa [isEmpty] using blank, by simp [blank]⟩
  by_cases slashed : base.text.toList.getLast? = some '/'
  · obtain ⟨front, shape⟩ := List.getLast?_eq_some_iff.1 slashed
    exact .inr (.inl ⟨front, shape, by simp [blank, slashed]⟩)
  · exact .inr (.inr ⟨fun text => blank (by simp [isEmpty, text]), by simp [blank, slashed]⟩)

theorem isEmpty_join (base : Path) {extra : Path} (relative : extra.isAbsolute = false)
    (nonempty : extra.isEmpty = false) : (base.join extra).isEmpty = false := by
  have chars : extra.text ≠ "" := by simpa [isEmpty] using nonempty
  rcases join_cases base relative with ⟨-, eq⟩ | ⟨front, shape, eq⟩ | ⟨-, eq⟩ <;>
    simp [eq, isEmpty, chars]

/-- A path that ends in a slash, or is empty, has an empty last stretch. What is joined takes the
place of that stretch; else it comes behind. -/
theorem pieces_join (base : Path) {extra : Path} (relative : extra.isAbsolute = false) :
    ∃ first, (base.join extra).pieces = first ++ extra.pieces ∧
      (base.pieces = first ∨ base.pieces = first ++ [""]) := by
  rcases join_cases base relative with ⟨text, eq⟩ | ⟨front, shape, eq⟩ | ⟨-, eq⟩
  · exact ⟨[], by rw [eq]; rfl, .inr (by simp [pieces, text, Text.fields])⟩
  · refine ⟨(Text.fields '/' front).map String.ofList, ?_, .inr ?_⟩
    · rw [eq, pieces, String.toList_append, shape, List.append_assoc, List.singleton_append,
        Text.fields_append_separator, List.map_append]
      rfl
    · simp [pieces, shape, Text.fields_append_separator, Text.fields]
  · refine ⟨base.pieces, ?_, .inl rfl⟩
    rw [eq, pieces, String.toList_append, String.toList_append, List.append_assoc,
      show "/".toList = ['/'] from rfl, List.singleton_append, Text.fields_append_separator,
      List.map_append]
    rfl

theorem isAbsolute_join (base : Path) {extra : Path} (relative : extra.isAbsolute = false) :
    (base.join extra).isAbsolute = base.isAbsolute := by
  rcases join_cases base relative with ⟨text, eq⟩ | ⟨front, shape, eq⟩ | ⟨text, eq⟩
  · rw [eq, relative]
    simp [isAbsolute, text]
  · rw [eq]
    cases front <;> simp [isAbsolute, shape]
  · have chars : base.text.toList ≠ [] := by simpa using text
    obtain ⟨c, rest, shape⟩ := List.exists_cons_of_ne_nil chars
    simp [eq, isAbsolute, shape]

@[simp] theorem start_join (base : Path) {extra : Path} (here : Location)
    (relative : extra.isAbsolute = false) : (base.join extra).start here = base.start here := by
  simp [start, isAbsolute_join base relative]

section Name

variable {name : String}

theorem isEmpty_child (base : Path) (isName : IsName name) :
    (base.child name).isEmpty = false :=
  base.isEmpty_join (relative_of_unslashed isName.unslashed) (by
    simp [isEmpty, isName.nonempty])

theorem pieces_child (base : Path) (unslashed : '/' ∉ name.toList) :
    ∃ first, (base.child name).pieces = first ++ [name] ∧
      (base.pieces = first ∨ base.pieces = first ++ [""]) := by
  rw [← pieces_mk_of_unslashed unslashed]
  exact base.pieces_join (relative_of_unslashed unslashed)

theorem isAbsolute_child (base : Path) (unslashed : '/' ∉ name.toList) :
    (base.child name).isAbsolute = base.isAbsolute :=
  base.isAbsolute_join (relative_of_unslashed unslashed)

@[simp] theorem start_child (base : Path) (here : Location) (unslashed : '/' ∉ name.toList) :
    (base.child name).start here = base.start here :=
  base.start_join here (relative_of_unslashed unslashed)

end Name

/-- A stretch that contributes a component contributes it at the end. -/
theorem components_child_of_piece (base : Path) {name : String} {component : Component}
    (unslashed : '/' ∉ name.toList) (piece : Component.ofPiece? name = some component) :
    (base.child name).components = base.components ++ [component] := by
  have notDot : name ≠ "." := by rintro rfl; simp [Component.ofPiece?] at piece
  obtain ⟨first, shape, before⟩ := pieces_child base unslashed
  have named : (base.child name).pieces.filterMap Component.ofPiece? =
      base.pieces.filterMap Component.ofPiece? ++ [component] := by
    have empty : Component.ofPiece? "" = none := by simp [Component.ofPiece?]
    rcases before with eq | eq <;> simp [shape, eq, piece, empty]
  have head : (base.child name).pieces.head? = some "." ↔ base.pieces.head? = some "." := by
    rcases before with eq | eq
    · have nonempty : base.pieces ≠ [] := by simp [pieces, Text.fields_ne_nil]
      obtain ⟨piece, more, pieces⟩ := List.exists_cons_of_ne_nil nonempty
      simp [shape, ← eq, pieces]
    · cases first <;> simp [shape, eq, notDot]
  unfold components
  rw [isAbsolute_child base unslashed, named]
  simp only [head]
  split
  · rfl
  · split <;> rfl

/-- Joining a relative path leaves the components that are there. -/
theorem components_join_prefix (base : Path) {extra : Path} (relative : extra.isAbsolute = false) :
    base.components <+: (base.join extra).components := by
  have empty : Component.ofPiece? "" = none := by simp [Component.ofPiece?]
  obtain ⟨first, shape, before⟩ := pieces_join base relative
  have named : (base.join extra).pieces.filterMap Component.ofPiece? =
      base.pieces.filterMap Component.ofPiece? ++ extra.pieces.filterMap Component.ofPiece? := by
    rcases before with eq | eq <;> simp [shape, eq, empty]
  unfold components
  dsimp only
  rw [isAbsolute_join base relative, named]
  split
  · exact List.prefix_append _ _
  by_cases bare : first = []
  · have none : base.pieces = [""] := by
      rcases before with eq | eq
      · exact absurd (eq.trans bare) (by simp [pieces, Text.fields_ne_nil])
      · simp [eq, bare]
    simp [none, empty]
  · obtain ⟨piece, more, rfl⟩ := List.exists_cons_of_ne_nil bare
    have head : (base.join extra).pieces.head? = base.pieces.head? := by
      rcases before with eq | eq <;> simp [shape, eq]
    rw [head]
    split <;> exact List.prefix_append _ _

theorem components_child (base : Path) {name : String} (isName : IsName name) :
    (base.child name).components = base.components ++ [.name name] :=
  components_child_of_piece base isName.unslashed (by
    simp [Component.ofPiece?, isName.nonempty, isName.ne_current, isName.ne_parent])

end Path

namespace Location

@[simp] theorem follow_child (here : Location) (base : Path) {name : String}
    (isName : Path.IsName name) : here.follow (base.child name) = name :: here.follow base := by
  simp [follow, Path.components_child base isName, step]

/-- A place that a leading part of a path names. -/
def OnTheWay (here : Location) (path : Path) (place : Location) : Prop :=
  ∃ lead, lead ≠ [] ∧ lead <+: path.components ∧ lead.foldl step here = place

theorem OnTheWay.of_prefix {here : Location} {a b : Path} {place : Location}
    (shorter : a.components <+: b.components) (way : here.OnTheWay a place) :
    here.OnTheWay b place := by
  obtain ⟨lead, nonempty, isPrefix, eq⟩ := way
  exact ⟨lead, nonempty, isPrefix.trans shorter, eq⟩

end Location

namespace Path

/-- The components that can stand behind others. -/
def Component.IsInner : Component → Prop
  | .parent => True
  | .name text => IsName text
  | _ => False

theorem Component.isInner_of_piece {path : Path} {component : Component}
    (member : component ∈ path.pieces.filterMap Component.ofPiece?) : component.IsInner := by
  obtain ⟨piece, found, eq⟩ := List.mem_filterMap.1 member
  unfold Component.ofPiece? at eq
  split at eq
  · contradiction
  rename_i notHere
  split at eq
  · cases eq; trivial
  rename_i notUp
  cases eq
  rw [not_or] at notHere
  exact ⟨notHere.1, notHere.2, notUp, unslashed_of_mem_pieces found⟩

/-- A root or a single dot can stand in front, and nowhere else. -/
theorem components_shape (path : Path) :
    ∃ opening inner, path.components = opening ++ inner ∧
      (opening = [] ∨ opening = [.root] ∨ opening = [.current]) ∧
      ∀ component ∈ inner, component.IsInner := by
  have inner : ∀ component ∈ path.pieces.filterMap Component.ofPiece?, component.IsInner :=
    fun _ member => Component.isInner_of_piece member
  unfold components
  dsimp only
  split
  · exact ⟨[.root], _, rfl, .inr (.inl rfl), inner⟩
  · split
    · exact ⟨[.current], _, rfl, .inr (.inr rfl), inner⟩
    · exact ⟨[], _, rfl, .inl rfl, inner⟩

theorem components_ne_nil {path : Path} (nonempty : path.isEmpty = false) :
    path.components ≠ [] := by
  obtain ⟨c, rest, chars⟩ : ∃ c rest, path.text.toList = c :: rest := by
    apply List.exists_cons_of_ne_nil
    simpa [isEmpty] using nonempty
  unfold components
  dsimp only
  split
  · simp
  rename_i relative
  have notSlash : c ≠ '/' := by simpa [isAbsolute, chars] using relative
  obtain ⟨first, more, fields⟩ := List.exists_cons_of_ne_nil (Text.fields_ne_nil '/' rest)
  have pieces : path.pieces = String.ofList (c :: first) :: more.map String.ofList := by
    simp [Path.pieces, chars, Text.fields, notSlash, fields]
  split
  · simp
  rename_i notHere
  have proper : ¬(String.ofList (c :: first) = "" ∨ String.ofList (c :: first) = ".") := by
    rintro (blank | dot)
    · simp at blank
    · exact notHere (by rw [pieces, dot]; rfl)
  have counts : Component.ofPiece? (String.ofList (c :: first)) ≠ none := by
    rw [Component.ofPiece?, if_neg proper]
    split <;> simp
  rw [pieces, List.filterMap_cons]
  split
  · exact absurd ‹_› counts
  · simp

/-- One path has the components of another and one more. -/
def Extends (longer shorter : Path) : Prop :=
  ∃ component, longer.components = shorter.components ++ [component]

theorem components_child_inner (base : Path) {component : Component}
    (inner : component.IsInner) :
    (base.child component.text).components = base.components ++ [component] := by
  cases component with
  | root | current => exact inner.elim
  | parent =>
    exact components_child_of_piece base (by simp [Component.text]) (by
      simp [Component.ofPiece?, Component.text])
  | name text => exact components_child base inner

/-- Each ancestor extends the next, and all of them are leading parts. The induction carries the
ancestors found so far, of which the first is the longest. -/
theorem isChain_ancestors_fold (inner : List Component)
    (allInner : ∀ component ∈ inner, component.IsInner) (found : List Path)
    (chain : found.IsChain Extends) :
    let found' := inner.foldl
      (fun found component => (found.headD ⟨""⟩).child component.text :: found) found
    found'.IsChain Extends ∧ ∀ ancestor ∈ found', ancestor ∈ found ∨
      (ancestor.components ≠ [] ∧
        ancestor.components <+: (found.headD ⟨""⟩).components ++ inner) := by
  induction inner generalizing found with
  | nil => exact ⟨chain, fun ancestor member => .inl member⟩
  | cons component rest ih =>
    have grown := components_child_inner (found.headD ⟨""⟩)
      (allInner component List.mem_cons_self)
    have next : ((found.headD ⟨""⟩).child component.text :: found).IsChain Extends := by
      cases found with
      | nil => simp
      | cons first more => exact .cons_cons ⟨component, grown⟩ chain
    obtain ⟨chain', members⟩ := ih
      (fun c member => allInner c (List.mem_cons_of_mem _ member)) _ next
    refine ⟨chain', fun ancestor member => ?_⟩
    rcases members ancestor member with old | ⟨nonempty, isPrefix⟩
    · rcases List.mem_cons.1 old with rfl | old
      · refine .inr ⟨by rw [grown]; exact List.append_ne_nil_of_right_ne_nil _ (by simp), ?_⟩
        rw [grown, List.append_cons _ component rest]
        exact List.prefix_append _ _
      · exact .inl old
    · rw [List.headD_cons, grown, List.append_assoc] at isPrefix
      exact .inr ⟨nonempty, isPrefix⟩

theorem ancestors_spec (path : Path) :
    path.ancestors.IsChain Extends ∧ ∀ ancestor ∈ path.ancestors,
      ancestor.components ≠ [] ∧ ancestor.components <+: path.components := by
  obtain ⟨opening, inner, shape, openings, allInner⟩ := components_shape path
  have dropped : ∀ component ∈ inner.dropLast, component.IsInner :=
    fun component member => allInner component (List.dropLast_subset _ member)
  unfold ancestors
  by_cases none : inner = []
  · rw [shape, none]
    rcases openings with rfl | rfl | rfl <;> simp
  rw [shape, List.dropLast_append_of_ne_nil none, List.foldl_append]
  have short : inner.dropLast <+: inner := List.dropLast_prefix inner
  rcases openings with rfl | rfl | rfl
  · obtain ⟨chain, members⟩ := isChain_ancestors_fold inner.dropLast dropped [] .nil
    refine ⟨chain, fun ancestor member => ?_⟩
    rcases members ancestor member with old | ⟨nonempty, isPrefix⟩
    · simp at old
    · exact ⟨nonempty, isPrefix.trans short⟩
  all_goals
    obtain ⟨chain, members⟩ := isChain_ancestors_fold inner.dropLast dropped [_] (.singleton _)
    refine ⟨chain, fun ancestor member => ?_⟩
    rcases members ancestor member with old | ⟨nonempty, isPrefix⟩
    · obtain rfl := List.mem_singleton.1 old
      exact ⟨by decide, (List.prefix_append _ _)⟩
    · exact ⟨nonempty, isPrefix.trans ((List.prefix_append_right_inj _).2 short)⟩

end Path

end ModelForge
