import ModelForge.Disk.Walk
import ModelForge.Proofs.Path.Ancestors

/-! Paths behind other paths. Joining is associative, and a relative path behind the path of a
location has the stretches of the relative path behind the names down to the location. -/
namespace ModelForge

namespace Path

theorem isEmpty_child_of_ne (base : Path) {name : String} (some : name ≠ "") :
    (base.child name).isEmpty = false := by
  unfold child join
  split
  · simpa [isEmpty] using some
  · split <;> simp [isEmpty, some]

/-- Whatever is joined to an absolute path, the result is absolute. -/
theorem isAbsolute_join_of_isAbsolute {base : Path} (absolute : base.isAbsolute = true)
    (extra : Path) : (base.join extra).isAbsolute = true := by
  by_cases own : extra.isAbsolute = true
  · simp [join, own]
  · rw [base.isAbsolute_join (by simpa using own), absolute]

theorem stem_of_nonempty {base : Path} (nonempty : base.isEmpty = false) :
    base.stem = if base.text.toList.getLast? = some '/' then base.text else base.text ++ "/" := by
  simp [stem, nonempty]

theorem stem_stem (base : Path) : (Path.mk base.stem).stem = base.stem := by
  by_cases empty : base.isEmpty = true
  · rw [stem.eq_1 base, if_pos empty]
    rfl
  replace empty : base.isEmpty = false := by simpa using empty
  have some : (Path.mk base.stem).isEmpty = false := by
    rw [stem_of_nonempty empty]
    unfold isEmpty at empty ⊢
    split <;> simp_all
  rw [stem_of_nonempty some, if_pos]
  rw [stem_of_nonempty empty]
  split
  · assumption
  · simp

/-- Joining is associative, for whatever paths. -/
theorem join_assoc (a b c : Path) : (a.join b).join c = a.join (b.join c) := by
  by_cases last : c.isAbsolute = true
  · simp [join, last]
  replace last : c.isAbsolute = false := by simpa using last
  by_cases middle : b.isAbsolute = true
  · have whole : (b.join c).isAbsolute = true := (b.isAbsolute_join last).trans middle
    simp [join.eq_1 a, middle, whole]
  replace middle : b.isAbsolute = false := by simpa using middle
  have whole : (b.join c).isAbsolute = false := (b.isAbsolute_join last).trans middle
  suffices stems : (Path.mk (a.stem ++ b.text)).stem = a.stem ++ b.stem by
    rw [join_eq_stem _ last, join_eq_stem a middle, join_eq_stem a whole, join_eq_stem b last,
      stems, String.append_assoc]
  by_cases blank : b.text = ""
  · -- Nothing but the slash behind the first path is added, and it is there already.
    have none : b.stem = "" := by simp [stem, isEmpty, blank]
    rw [none, blank, String.append_empty, stem_stem]
  · have ends : (a.stem ++ b.text).toList.getLast? = b.text.toList.getLast? := by
      rw [String.toList_append, List.getLast?_append_of_ne_nil _ (by simpa using blank)]
    have nonempty : (Path.mk (a.stem ++ b.text)).isEmpty = false := by simp [isEmpty, blank]
    rw [stem_of_nonempty nonempty, ends,
      stem_of_nonempty (show b.isEmpty = false by simp [isEmpty, blank])]
    split
    · rfl
    · rw [String.append_assoc]

/-- The stretches of a path with names joined to it, some at least. -/
theorem pieces_within (base : Path) {names : List String} (some : names ≠ [])
    (proper : ∀ name ∈ names, '/' ∉ name.toList ∧ name ≠ "") :
    ∃ first, (names.foldl child base).pieces = first ++ names ∧
      (base.pieces = first ∨ base.pieces = first ++ [""]) := by
  induction names using List.reverseRecOn with
  | nil => exact absurd rfl some
  | append_singleton init name ih =>
    obtain ⟨front, shape, before⟩ :=
      (init.foldl child base).pieces_child (proper name (by simp)).1
    rw [List.foldl_concat, shape]
    rcases List.eq_nil_or_concat init with rfl | ⟨_, last, rfl⟩
    · exact ⟨front, rfl, before⟩
    obtain ⟨first, shape', before'⟩ := ih (by simp) fun other member =>
      proper other (List.mem_append_left _ member)
    refine ⟨first, ?_, before'⟩
    have inner := (proper last (by simp)).2
    rcases before with same | blank
    · rw [← same, shape', List.append_assoc]
    · rw [shape', List.concat_eq_append, ← List.append_assoc] at blank
      exact absurd (List.append_inj_right' blank rfl) (by simpa using inner)

theorem isAbsolute_within (base : Path) {names : List String}
    (unslashed : ∀ name ∈ names, '/' ∉ name.toList) :
    (names.foldl child base).isAbsolute = base.isAbsolute := by
  induction names generalizing base with
  | nil => rfl
  | cons name rest ih =>
    rw [List.foldl_cons, ih _ fun other member => unslashed other (List.mem_cons_of_mem _ member),
      isAbsolute_child base (unslashed name List.mem_cons_self)]

theorem ofComponents_append (before after : List Component) :
    ofComponents (before ++ after) = (after.map Component.text).foldl child (ofComponents before) := by
  rw [ofComponents, List.foldl_append, List.foldl_map, ofComponents]

theorem ofComponents_concat (components : List Component) (component : Component) :
    ofComponents (components ++ [component]) = (ofComponents components).child component.text :=
  ofComponents_append components [component]

/-- The paths that are made of the leading components of a list, the longest first. -/
def leading (components : List Component) : List Path :=
  components.foldl (fun found component => (found.headD ⟨""⟩).child component.text :: found) []

theorem ancestors_eq (path : Path) : path.ancestors = leading path.components.dropLast := rfl

theorem headD_leading (components : List Component) :
    (leading components).headD ⟨""⟩ = ofComponents components := by
  induction components using List.reverseRecOn with
  | nil => rfl
  | append_singleton before component ih =>
    rw [leading, List.foldl_concat, List.headD_cons, ofComponents_concat, ← ih, leading]

theorem leading_eq_cons {components : List Component} (some : components ≠ []) :
    ∃ more, leading components = ofComponents components :: more := by
  rcases List.eq_nil_or_concat components with none | ⟨before, component, rfl⟩
  · exact absurd none some
  · rw [List.concat_eq_append, leading, List.foldl_concat, ofComponents_concat, ← headD_leading]
    exact ⟨_, rfl⟩

theorem leading_concat (components : List Component) (component : Component) :
    leading (components ++ [component]) =
      (ofComponents components).child component.text :: leading components := by
  rw [← headD_leading, leading, List.foldl_concat, leading]

end Path

namespace Location

/-- A location that a text can spell, as any has that a process can work in: it is reached by
names that are not too long. -/
def Spellable (here : Location) : Prop :=
  ∀ name ∈ here, Path.IsName name ∧ '\x00' ∉ name.toList ∧ name.utf8ByteSize ≤ Disk.nameLimit

instance (here : Location) : Decidable here.Spellable := List.decidableBAll _ _

/-- The components of a location's path. -/
def named (here : Location) : List Path.Component := .root :: here.reverse.map .name

theorem path_nil : path [] = ⟨"/"⟩ := by decide

theorem path_cons (name : String) (parent : Location) :
    path (name :: parent) = (path parent).child name := by
  simp only [path, List.reverse_cons, List.map_append, List.map_cons, List.map_nil,
    ← List.cons_append, Path.ofComponents_concat, Path.Component.text]

/-- Stretches in which nothing but the names down to a location stands. -/
def Spells (pieces : List String) (here : Location) : Prop :=
  pieces.filter (· ≠ "") = here.reverse

theorem Spells.of_blank {first pieces : List String} {here : Location}
    (spells : Spells pieces here) (before : pieces = first ∨ pieces = first ++ [""]) :
    Spells first here := by
  rcases before with rfl | rfl
  · exact spells
  · simpa [Spells] using spells

theorem spells_path {here : Location} (spellable : here.Spellable) :
    here.path.isAbsolute = true ∧ Spells here.path.pieces here := by
  induction here with
  | nil =>
    rw [path_nil]
    exact ⟨by decide, by rw [Spells]; decide⟩
  | cons name parent ih =>
    obtain ⟨isName, -⟩ := spellable name List.mem_cons_self
    obtain ⟨absolute, spells⟩ := ih fun other member => spellable other (List.mem_cons_of_mem _ member)
    obtain ⟨first, shape, before⟩ := (path parent).pieces_child isName.unslashed
    rw [path_cons, Path.isAbsolute_child _ isName.unslashed]
    refine ⟨absolute, ?_⟩
    have front : first.filter (· ≠ "") = parent.reverse := spells.of_blank before
    rw [Spells, shape, List.filter_append, front]
    simp [isName.nonempty]

/-- One relative and one absolute path: without what keeps a walk where it is, the absolute one has
the stretches of the relative one behind the names of the working directory. -/
structure Leads (here : Location) (near far : Path) : Prop where
  relative : near.isAbsolute = false
  absolute : far.isAbsolute = true
  way : ∃ dots first rest, near.pieces = dots ++ rest ∧ far.pieces = first ++ rest ∧
    (∀ piece ∈ dots, piece = "" ∨ piece = ".") ∧ Spells first here ∧ ∃ piece ∈ rest, piece ≠ ""

theorem exists_piece {path : Path} (relative : path.isAbsolute = false)
    (nonempty : path.isEmpty = false) : ∃ piece ∈ path.pieces, piece ≠ "" := by
  obtain ⟨c, rest, chars⟩ : ∃ c rest, path.text.toList = c :: rest := by
    apply List.exists_cons_of_ne_nil
    simpa [Path.isEmpty] using nonempty
  have other : c ≠ '/' := by simpa [Path.isAbsolute, chars] using relative
  obtain ⟨field, found, inside⟩ := Text.exists_field_of_mem
    (chars ▸ List.mem_cons_self : c ∈ path.text.toList) other
  refine ⟨String.ofList field, List.mem_map_of_mem found, ?_⟩
  intro blank
  simp [String.ofList_eq_empty_iff.1 blank] at inside

theorem leads_join {here : Location} (spellable : here.Spellable) {path : Path}
    (relative : path.isAbsolute = false) (nonempty : path.isEmpty = false) :
    Leads here path (here.path.join path) := by
  obtain ⟨absolute, spells⟩ := spells_path spellable
  obtain ⟨first, shape, before⟩ := here.path.pieces_join relative
  exact ⟨relative, (here.path.isAbsolute_join relative).trans absolute, [], first, path.pieces, rfl,
    shape, by simp, spells.of_blank before, exists_piece relative nonempty⟩

/-- The same components behind nothing, or a dot, and behind the working directory. -/
theorem leads_components {here : Location} (spellable : here.Spellable)
    {opening inner : List Path.Component} (dotted : opening = [] ∨ opening = [.current])
    (some : inner ≠ []) (allInner : ∀ component ∈ inner, component.IsInner) :
    Leads here (Path.ofComponents (opening ++ inner))
      (Path.ofComponents (here.named ++ inner)) := by
  have proper : ∀ name ∈ inner.map Path.Component.text, '/' ∉ name.toList ∧ name ≠ "" := by
    intro name member
    obtain ⟨component, found, rfl⟩ := List.mem_map.1 member
    exact ⟨(allInner component found).unslashed, (allInner component found).proper.1⟩
  have unslashed := fun name member => (proper name member).1
  have some' : inner.map Path.Component.text ≠ [] := by simpa using some
  obtain ⟨absolute, spells⟩ := spells_path spellable
  obtain ⟨first, shape, before⟩ := here.path.pieces_within some' proper
  obtain ⟨dots, shape', before'⟩ := (Path.ofComponents opening).pieces_within some' proper
  have start : (Path.ofComponents opening).isAbsolute = false ∧
      ∀ piece ∈ (Path.ofComponents opening).pieces, piece = "" ∨ piece = "." := by
    rcases dotted with rfl | rfl <;> exact ⟨by decide, by decide⟩
  rw [Path.ofComponents_append, Path.ofComponents_append]
  refine ⟨?_, ?_, dots, first, inner.map Path.Component.text, shape', shape, ?_,
    spells.of_blank before, ?_⟩
  · rw [Path.isAbsolute_within _ unslashed, start.1]
  · exact (Path.isAbsolute_within _ unslashed).trans absolute
  · intro piece member
    refine start.2 piece ?_
    rcases before' with same | blank
    · rwa [same]
    · rw [blank]
      exact List.mem_append_left _ member
  · obtain ⟨name, more, names⟩ := List.exists_cons_of_ne_nil some'
    have member : name ∈ inner.map Path.Component.text := names ▸ List.mem_cons_self
    exact ⟨name, member, (proper name member).2⟩

end Location

end ModelForge
