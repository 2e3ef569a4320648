import Mathlib.Data.List.TakeWhile
import ModelForge.Proofs.Disk.Lexical
import ModelForge.Proofs.Path.Ancestors

/-! When a directory can be made with what is missing above it, on a disk without links. An attempt
that fails does not make the next one succeed. -/
namespace ModelForge

namespace Path

/-- What has to be there before a directory can be made at a path. A `.` at the end adds nothing
that could be made. -/
def trunk (path : Path) : List Component :=
  if path.lastPiece? = some "." then path.components else path.components.dropLast

/-- The stretches of a path: nothing but slashes, or some of them before a last one. -/
theorem stretches {path : Path} (nonempty : path.isEmpty = false) :
    ((path.pieces.reverse.dropWhile (· = "")).reverse = [] ∧ path.components = [.root] ∧
      path.trunk = [] ∧ path.lastPiece? = none) ∨
    ∃ first last, (path.pieces.reverse.dropWhile (· = "")).reverse = first ++ [last] ∧
      last ≠ "" ∧ path.lastPiece? = some last ∧
      path.trunk = path.opening ++ first.filterMap Component.ofPiece? ∧
      path.components = path.trunk ++ (Component.ofPiece? last).toList := by
  obtain ⟨blanks, pieces, blank⟩ := Disk.stripped_pieces path.pieces
  have none : blanks.filterMap Component.ofPiece? = [] := by
    rw [List.filterMap_eq_nil_iff]
    intro piece member
    simp [blank piece member, Component.ofPiece?]
  have lastEq : path.lastPiece? = (path.pieces.reverse.dropWhile (· = "")).reverse.getLast? := by
    rw [lastPiece?, List.getLast?_reverse, List.find?_eq_head?_dropWhile_not]
    simp
  rcases List.eq_nil_or_concat (path.pieces.reverse.dropWhile (· = "")).reverse with
    empty | ⟨first, last, shape⟩
  · left
    rw [empty, List.nil_append] at pieces
    have only : path.components = path.opening := by
      rw [components_eq, pieces, none, List.append_nil]
    have undotted : path.pieces.head? ≠ some "." := by
      intro dotted
      rw [pieces] at dotted
      exact absurd (blank "." (List.mem_of_head? dotted)) (by decide)
    have some := components_ne_nil nonempty
    have root : path.components = [.root] := by
      rw [only, opening] at some ⊢
      split
      · rfl
      · simp_all
    have last : path.lastPiece? = Option.none := by rw [lastEq, empty]; rfl
    exact ⟨empty, root, by simp [trunk, last, root], last⟩
  · right
    rw [shape] at pieces
    have last? : path.lastPiece? = some last := by rw [lastEq, shape]; simp
    have nonblank : last ≠ "" := by
      rintro rfl
      simp [lastPiece?, List.find?_eq_some_iff_append] at last?
    have whole : path.components =
        (path.opening ++ first.filterMap Component.ofPiece?) ++
          (Component.ofPiece? last).toList := by
      rw [components_eq, pieces]
      simp only [List.concat_eq_append, List.filterMap_append, none, List.append_nil,
        List.append_assoc, List.append_cancel_left_eq]
      cases found : Component.ofPiece? last <;> simp [found]
    have trunkEq : path.trunk = path.opening ++ first.filterMap Component.ofPiece? := by
      unfold trunk
      rw [last?, whole]
      by_cases dot : last = "."
      · simp [dot, Component.ofPiece?]
      · obtain ⟨component, found⟩ : ∃ component, Component.ofPiece? last = some component := by
          unfold Component.ofPiece?
          split
          · simp_all
          · split <;> simp
        simp [dot, found]
    exact ⟨first, last, by simpa using shape, nonblank, last?, trunkEq, trunkEq ▸ whole⟩

end Path

namespace Disk

variable {disk new : Disk} {here : Location} {path : Path}

/-- Where one stands and whatever leading components lead to is a directory. -/
def Paved (disk : Disk) (here : Location) (components : List Path.Component) : Prop :=
  ∀ lead, lead <+: components → disk.entryAt (lead.foldl Location.step here) = some .directory

theorem Paved.inside {components : List Path.Component} (paved : Paved disk here components) :
    disk.entryAt here = some .directory := paved [] List.nil_prefix

theorem Paved.mono {shorter longer : List Path.Component} (paved : Paved disk here longer)
    (leading : shorter <+: longer) : Paved disk here shorter :=
  fun lead further => paved lead (further.trans leading)

theorem Paved.concat {components : List Path.Component} {component : Path.Component}
    (paved : Paved disk here components)
    (last : disk.entryAt ((components ++ [component]).foldl Location.step here) =
      some .directory) : Paved disk here (components ++ [component]) := by
  intro lead leading
  rcases List.prefix_concat_iff.1 leading with rfl | shorter
  · exact last
  · exact paved lead shorter

theorem spelled_stay {piece : String} (stays : piece = "" ∨ piece = ".") (here : Location)
    (rest : List String) : spelled here (piece :: rest) = spelled here rest := by
  rcases stays with rfl | rfl <;> simp [spelled, Path.Component.ofPiece?]

theorem spelled_up (here : Location) (rest : List String) :
    spelled here (".." :: rest) = spelled here.tail rest := by
  simp [spelled, Path.Component.ofPiece?, Location.step]

theorem entryAt_tail {location : Location} (standing : disk.entryAt location = some .directory) :
    disk.entryAt location.tail = some .directory := by
  cases location with
  | nil => rfl
  | cons name parent =>
    have found : disk.entryAt (name :: parent) ≠ none := by simp [standing]
    exact entryAt_parent_ne_none found

/-- Paved stretches. -/
theorem paved_iff {pieces : List String} :
    Paved disk here (path.opening ++ pieces.filterMap Path.Component.ofPiece?) ↔
      disk.entryAt here = some .directory ∧ ∀ lead, lead <+: pieces →
        disk.entryAt (spelled (path.start here) lead) = some .directory := by
  have spells : ∀ lead : List String, spelled (path.start here) lead =
      (path.opening ++ lead.filterMap Path.Component.ofPiece?).foldl Location.step here := by
    intro lead
    rw [List.foldl_append, path.foldl_opening, spelled]
  constructor
  · intro paved
    refine ⟨paved [] List.nil_prefix, fun lead leading => ?_⟩
    rw [spells]
    exact paved _ ((List.prefix_append_right_inj _).2 (leading.filterMap _))
  · rintro ⟨inside, way⟩ lead leading
    have behind : ∀ more, more <+: pieces.filterMap Path.Component.ofPiece? →
        disk.entryAt ((path.opening ++ more).foldl Location.step here) = some .directory := by
      intro more further
      obtain ⟨pieces', leading', rfl⟩ := List.prefix_filterMap_iff.1 further
      rw [← spells]
      exact way pieces' leading'
    rcases path.opening_cases with none | ⟨component, only⟩
    · rw [none] at leading behind
      exact behind lead leading
    · rw [only, List.singleton_append] at leading
      rw [only] at behind
      rcases List.prefix_cons_iff.1 leading with rfl | ⟨more, rfl, further⟩
      · exact inside
      · exact behind more further

section Walk

/-- A walk over directories comes to the place that is spelled. -/
theorem walkWith_paved {onLink : Location → List String → Except Fault Place}
    (start : Location) (pieces : List String)
    (short : ∀ piece ∈ pieces, ¬nameLimit < piece.utf8ByteSize)
    (paved : ∀ lead, lead <+: pieces → disk.entryAt (spelled start lead) = some .directory) :
    disk.walkWith false onLink start pieces = .ok (.taken (spelled start pieces)) := by
  induction pieces generalizing start with
  | nil => rfl
  | cons piece rest ih =>
    have standing : disk.entryAt start = some .directory := paved [] List.nil_prefix
    have onward : ∀ next, (∀ lead, spelled start (piece :: lead) = spelled next lead) →
        disk.walkWith false onLink next rest = .ok (.taken (spelled start (piece :: rest))) := by
      intro next spells
      rw [spells]
      refine ih next (fun other member => short other (List.mem_cons_of_mem _ member)) ?_
      intro lead leading
      rw [← spells]
      exact paved _ (List.cons_prefix_cons.2 ⟨rfl, leading⟩)
    by_cases stays : piece = "" ∨ piece = "."
    · rw [walkWith_stay (.inr standing) stays]
      exact onward start (spelled_stay stays start)
    by_cases up : piece = ".."
    · rw [up, walkWith_up (.inr standing)]
      rw [up] at onward
      exact onward start.tail (spelled_up start)
    rw [not_or] at stays
    have proper : piece ≠ "" ∧ piece ≠ "." ∧ piece ≠ ".." := ⟨stays.1, stays.2, up⟩
    have next := paved [piece] (List.cons_prefix_cons.2 ⟨rfl, List.nil_prefix⟩)
    rw [spelled_name proper] at next
    rw [walkWith_name proper standing (short piece List.mem_cons_self) next (by simp) (.inl rfl)]
    exact onward (piece :: start) (spelled_name proper start)

/-- A walk that finds nothing in its way but a directory that is missing finds that out. -/
theorem walkWith_missing (onLink : Location → List String → Except Fault Place)
    (start : Location) (pieces : List String)
    (short : ∀ piece ∈ pieces, ¬nameLimit < piece.utf8ByteSize)
    (standing : disk.entryAt start = some .directory)
    (way : ∀ lead, lead <+: pieces → disk.entryAt (spelled start lead) = none ∨
      disk.entryAt (spelled start lead) = some .directory)
    (missing : ∃ lead, lead <+: pieces ∧
      disk.entryAt (spelled start lead) ≠ some .directory) :
    (∃ name parent, disk.walkWith false onLink start pieces = .ok (.vacant name parent)) ∨
      disk.walkWith false onLink start pieces = .error .notFound := by
  induction pieces generalizing start with
  | nil =>
    obtain ⟨lead, leading, gone⟩ := missing
    rw [List.prefix_nil.1 leading] at gone
    exact absurd standing gone
  | cons piece rest ih =>
    have onward : ∀ next, (∀ lead, spelled start (piece :: lead) = spelled next lead) →
        disk.entryAt next = some .directory →
        (∃ name parent, disk.walkWith false onLink next rest = .ok (.vacant name parent)) ∨
          disk.walkWith false onLink next rest = .error .notFound := by
      intro next spells standing'
      refine ih next (fun other member => short other (List.mem_cons_of_mem _ member)) standing'
        (fun lead leading => ?_) ?_
      · rw [← spells]
        exact way _ (List.cons_prefix_cons.2 ⟨rfl, leading⟩)
      · obtain ⟨lead, leading, gone⟩ := missing
        cases lead with
        | nil => exact absurd standing gone
        | cons first more =>
          obtain ⟨rfl, further⟩ := List.cons_prefix_cons.1 leading
          exact ⟨more, further, by rwa [← spells]⟩
    by_cases stays : piece = "" ∨ piece = "."
    · rw [walkWith_stay (.inr standing) stays]
      exact onward start (spelled_stay stays start) standing
    by_cases up : piece = ".."
    · rw [up, walkWith_up (.inr standing)]
      rw [up] at onward
      exact onward start.tail (spelled_up start) (entryAt_tail standing)
    rw [not_or] at stays
    have proper : piece ≠ "" ∧ piece ≠ "." ∧ piece ≠ ".." := ⟨stays.1, stays.2, up⟩
    have shortName := short piece List.mem_cons_self
    have next := way [piece] (List.cons_prefix_cons.2 ⟨rfl, List.nil_prefix⟩)
    rw [spelled_name proper] at next
    rcases next with absent | directory
    · replace absent : disk.entryAt (piece :: start) = none := absent
      rw [walkWith]
      simp only [standing, proper, shortName, absent]
      by_cases last : rest.all (· = "") = true
      · exact .inl ⟨piece, start, by simp [last]⟩
      · exact .inr (by simp [last])
    · rw [walkWith_name proper standing shortName directory (by simp) (.inl rfl)]
      exact onward (piece :: start) (spelled_name proper start) directory

/-- A walk to a directory has come through directories with short names only. -/
theorem paved_of_walkWith (free : disk.LinkFree)
    {onLink : Location → List String → Except Fault Place} {location : Location}
    (start : Location) (pieces : List String) (standing : disk.entryAt start = some .directory)
    (directory : disk.entryAt location = some .directory)
    (walked : disk.walkWith false onLink start pieces = .ok (.taken location)) :
    (∀ lead, lead <+: pieces → disk.entryAt (spelled start lead) = some .directory) ∧
      ∀ piece ∈ pieces, ¬nameLimit < piece.utf8ByteSize := by
  induction pieces generalizing start with
  | nil =>
    refine ⟨fun lead leading => ?_, by simp⟩
    rw [List.prefix_nil.1 leading]
    exact standing
  | cons piece rest ih =>
    have onward : ∀ next, (∀ lead, spelled start (piece :: lead) = spelled next lead) →
        ¬nameLimit < piece.utf8ByteSize → disk.entryAt next = some .directory →
        disk.walkWith false onLink next rest = .ok (.taken location) →
        (∀ lead, lead <+: piece :: rest → disk.entryAt (spelled start lead) = some .directory) ∧
          ∀ other ∈ piece :: rest, ¬nameLimit < other.utf8ByteSize := by
      intro next spells short standing' walked'
      obtain ⟨way, shorts⟩ := ih next standing' walked'
      refine ⟨fun lead leading => ?_, List.forall_mem_cons.2 ⟨short, shorts⟩⟩
      rcases List.prefix_cons_iff.1 leading with rfl | ⟨more, rfl, further⟩
      · exact standing
      · rw [spells]
        exact way more further
    obtain ⟨-, ⟨stays, walked'⟩ | ⟨rfl, walked'⟩ | ⟨proper, -, short, found⟩⟩ :=
      walkWith_cons walked
    · exact onward start (spelled_stay stays start) (by rcases stays with rfl | rfl <;> decide)
        standing walked'
    · exact onward start.tail (spelled_up start) (by decide) (entryAt_tail standing) walked'
    rcases found with ⟨-, -, vacant⟩ | ⟨target, found, -⟩ | ⟨entry, found, -, walked'⟩
    · cases vacant
    · exact absurd found (free _ target)
    · refine onward (piece :: start) (spelled_name proper start) short ?_ walked'
      -- The walk goes on from here or ends here: either way this is a directory.
      cases rest with
      | nil =>
        rw [walkWith] at walked'
        obtain rfl : piece :: start = location := by simpa using walked'
        exact directory
      | cons next more => exact (walkWith_cons walked').1.resolve_left (by simp [found])

end Walk

/-- Nothing is in the way of a directory: names are short, and what leading components lead to is
missing or a directory. -/
structure Passable (disk : Disk) (here : Location) (components : List Path.Component) : Prop where
  short : ∀ component ∈ components, ¬nameLimit < component.text.utf8ByteSize
  way : ∀ lead, lead <+: components → disk.entryAt (lead.foldl Location.step here) = none ∨
    disk.entryAt (lead.foldl Location.step here) = some .directory

theorem Paved.adds {allowed : Location → Prop} {components : List Path.Component}
    (paved : Paved disk here components) (adds : Adds allowed disk new) :
    Paved new here components := by
  intro lead leading
  rcases adds (lead.foldl Location.step here) with same | ⟨absent, -⟩
  · rw [same]
    exact paved lead leading
  · simp [paved lead leading] at absent

namespace Passable

variable {components shorter : List Path.Component} {allowed : Location → Prop}

theorem mono (passable : Passable disk here components) (leading : shorter <+: components) :
    Passable disk here shorter where
  short component member := passable.short component (leading.subset member)
  way lead further := passable.way lead (further.trans leading)

theorem adds (passable : Passable disk here components) (adds : Adds allowed disk new) :
    Passable new here components where
  short := passable.short
  way lead leading := by
    rcases adds (lead.foldl Location.step here) with same | ⟨-, made, -⟩
    · rw [same]
      exact passable.way lead leading
    · exact .inr made

/-- What could be made before directories came could be made without them. -/
theorem of_adds (passable : Passable new here components) (adds : Adds allowed disk new) :
    Passable disk here components where
  short := passable.short
  way lead leading := by
    rcases adds (lead.foldl Location.step here) with same | ⟨absent, -⟩
    · rw [← same]
      exact passable.way lead leading
    · exact .inl absent

theorem short_piece (passable : Passable disk here path.components) {piece : String}
    (member : piece ∈ path.pieces) : ¬nameLimit < piece.utf8ByteSize := by
  by_cases stays : piece = "" ∨ piece = "."
  · rcases stays with rfl | rfl <;> decide
  have found : ∃ component, Path.Component.ofPiece? piece = some component := by
    unfold Path.Component.ofPiece?
    rw [if_neg stays]
    split <;> exact ⟨_, rfl⟩
  obtain ⟨component, found⟩ := found
  rw [← Path.text_of_ofPiece found]
  refine passable.short component ?_
  rw [path.components_eq]
  exact List.mem_append_right _ (List.mem_filterMap.2 ⟨piece, member, found⟩)

end Passable

/-- A directory is there exactly where all of its path is. -/
theorem isDirectory_of_paved (clean : textFault? path = none)
    (passable : Passable disk here path.components) (paved : Paved disk here path.components) :
    disk.isDirectory here path = true := by
  rw [path.components_eq] at paved
  obtain ⟨-, way⟩ := paved_iff.1 paved
  obtain ⟨onLink, eq⟩ := walk_eq_walkWith disk false linkLimit
  have whole := way path.pieces List.prefix_rfl
  refine isDirectory_iff.2 ⟨_, clean, ?_, found_eq_directory_iff.2 (.inr whole)⟩
  rw [Reaches, eq]
  exact walkWith_paved _ _ (fun piece member => passable.short_piece member) way

theorem paved_of_isDirectory (free : disk.LinkFree) (inside : disk.entryAt here = some .directory)
    (directory : disk.isDirectory here path = true) :
    textFault? path = none ∧ Passable disk here path.components ∧
      Paved disk here path.components := by
  have site := site_of_isDirectory free inside directory
  have reaches := site.reaches
  obtain ⟨onLink, eq⟩ := walk_eq_walkWith disk false linkLimit
  rw [Reaches, eq] at reaches
  have start : disk.entryAt (path.start here) = some .directory := by
    unfold Path.start
    split
    · rfl
    · exact inside
  obtain ⟨way, short⟩ := paved_of_walkWith free _ _ start site.standing reaches
  have paved : Paved disk here path.components := by
    rw [path.components_eq]
    exact paved_iff.2 ⟨inside, way⟩
  refine ⟨site.clean, ⟨fun component member => ?_, fun lead leading => .inr (paved lead leading)⟩,
    paved⟩
  rw [path.components_eq, List.mem_append] at member
  rcases member with first | named
  · unfold Path.opening at first
    split at first
    · obtain rfl := List.mem_singleton.1 first
      decide
    · split at first
      · obtain rfl := List.mem_singleton.1 first
        decide
      · cases first
  · obtain ⟨piece, found, eq⟩ := List.mem_filterMap.1 named
    rw [Path.text_of_ofPiece eq]
    exact short piece found

section Make

variable (free : disk.LinkFree) (inside : disk.entryAt here = some .directory)
  (clean : textFault? path = none) (passable : Passable disk here path.components)
include inside clean passable

/-- A directory can be made, or is there, when what comes before it is there. -/
theorem makeDirectory_paved (paved : Paved disk here path.trunk) :
    (∃ new, disk.makeDirectory here path = .ok new ∧ Paved new here path.components) ∨
      (∃ fault, fault ≠ .notFound ∧ disk.makeDirectory here path = .error fault ∧
        Paved disk here path.components) := by
  rcases Path.stretches (isEmpty_of_clean clean) with
    ⟨stripped, root, -, -⟩ | ⟨first, last, stripped, nonblank, -, trunk, whole⟩
  · refine .inr ⟨.alreadyExists, by simp, ?_, ?_⟩
    · simp [makeDirectory, create, reachName, clean, stripped]
    · rw [root]
      intro lead leading
      rcases List.prefix_cons_iff.1 leading with rfl | ⟨more, rfl, further⟩
      · exact inside
      · rw [List.prefix_nil.1 further]
        rfl
  obtain ⟨blanks, pieces, -⟩ := stripped_pieces path.pieces
  rw [stripped] at pieces
  rw [trunk] at paved
  obtain ⟨-, way⟩ := paved_iff.1 paved
  have parent := way first List.prefix_rfl
  have led : disk.walk false linkLimit (path.start here) first =
      .ok (.taken (spelled (path.start here) first)) := by
    obtain ⟨onLink, eq⟩ := walk_eq_walkWith disk false linkLimit
    rw [eq]
    refine walkWith_paved _ _ (fun piece member => passable.short_piece ?_) way
    rw [pieces]
    simp [member]
  have short : ¬nameLimit < last.utf8ByteSize := passable.short_piece (by rw [pieces]; simp)
  have place : (path.opening ++ first.filterMap Path.Component.ofPiece?).foldl Location.step here =
      spelled (path.start here) first := by
    rw [List.foldl_append, path.foldl_opening, spelled]
  have start : (if path.isAbsolute then [] else here) = path.start here := rfl
  by_cases dot : last = "."
  · refine .inr ⟨.alreadyExists, by simp, ?_, ?_⟩
    · simp [makeDirectory, create, reachName, clean, stripped, start, led, parent, dot]
    · rw [whole, dot, trunk]
      simpa [Path.Component.ofPiece?] using paved
  by_cases up : last = ".."
  · refine .inr ⟨.alreadyExists, by simp, ?_, ?_⟩
    · simp [makeDirectory, create, reachName, clean, stripped, start, led, parent, up]
    · rw [whole, up, trunk]
      simp only [Path.Component.ofPiece?]
      refine paved.concat ?_
      rw [List.foldl_concat, place]
      exact entryAt_tail parent
  have named : disk.reachName here path = .ok (.plain last (spelled (path.start here) first)) := by
    simp [reachName, clean, stripped, start, led, parent, dot, up, short]
  have component : Path.Component.ofPiece? last = some (.name last) := by
    simp [Path.Component.ofPiece?, nonblank, dot, up]
  have step : (path.trunk ++ [Path.Component.name last]).foldl Location.step here =
      last :: spelled (path.start here) first := by
    rw [trunk, List.foldl_concat, place]
    rfl
  rw [component, Option.toList_some] at whole
  have next := passable.way path.components List.prefix_rfl
  rw [whole, step] at next
  rcases next with absent | directory
  · refine .inl ⟨disk.put last (spelled (path.start here) first) .directory,
      by simp [makeDirectory, create, named, absent], ?_⟩
    obtain ⟨fresh, adds⟩ := put_directory parent absent
    rw [whole]
    refine Paved.concat (Paved.adds (trunk ▸ paved) adds) ?_
    rw [step]
    exact fresh.directory
  · refine .inr ⟨.alreadyExists, by simp, by simp [makeDirectory, create, named, directory], ?_⟩
    rw [whole]
    refine Paved.concat (trunk ▸ paved) ?_
    rw [step]
    exact directory

/-- What is missing before it is reported as missing. -/
theorem makeDirectory_unpaved (gap : ¬Paved disk here path.trunk) :
    disk.makeDirectory here path = .error .notFound := by
  rcases Path.stretches (isEmpty_of_clean clean) with
    ⟨-, -, trunk, -⟩ | ⟨first, last, stripped, nonblank, -, trunk, whole⟩
  · refine absurd (fun lead leading => ?_) gap
    rw [trunk, List.prefix_nil] at leading
    rw [leading]
    exact inside
  obtain ⟨blanks, pieces, -⟩ := stripped_pieces path.pieces
  rw [stripped] at pieces
  have start : disk.entryAt (path.start here) = some .directory := by
    unfold Path.start
    split
    · rfl
    · exact inside
  have way : ∀ lead, lead <+: first → disk.entryAt (spelled (path.start here) lead) = none ∨
      disk.entryAt (spelled (path.start here) lead) = some .directory := by
    intro lead leading
    have spells : spelled (path.start here) lead =
        (path.opening ++ lead.filterMap Path.Component.ofPiece?).foldl Location.step here := by
      rw [List.foldl_append, path.foldl_opening, spelled]
    rw [spells]
    refine passable.way _ (.trans ?_ (whole ▸ List.prefix_append _ _))
    rw [trunk]
    exact (List.prefix_append_right_inj _).2 (leading.filterMap _)
  have missing : ∃ lead, lead <+: first ∧
      disk.entryAt (spelled (path.start here) lead) ≠ some .directory := by
    by_contra all
    refine gap ?_
    rw [trunk]
    refine paved_iff.2 ⟨inside, fun lead leading => ?_⟩
    by_contra other
    exact all ⟨lead, leading, other⟩
  obtain ⟨onLink, eq⟩ := walk_eq_walkWith disk false linkLimit
  have led := walkWith_missing onLink (path.start here) first
    (fun piece member => passable.short_piece (by rw [pieces]; simp [member])) start way missing
  rw [← eq] at led
  unfold Path.start at led
  rcases led with ⟨name, parent, led⟩ | led
  · simp [makeDirectory, create, reachName, clean, stripped, led]
  · simp [makeDirectory, create, reachName, clean, stripped, led]

end Make

theorem paved_nil (inside : disk.entryAt here = some .directory) : Paved disk here [] := by
  intro lead leading
  rw [List.prefix_nil.1 leading]
  exact inside

/-- What a plain path needs before it is what the next shorter one is. -/
theorem Paved.trunk {shorter : Path} (inside : disk.entryAt here = some .directory)
    (last : path.lastPiece? ≠ some "." ∨ path.components = [.current])
    (extends' : path.Extends shorter) (paved : Paved disk here shorter.components) :
    Paved disk here path.trunk := by
  obtain ⟨component, components⟩ := extends'
  unfold Path.trunk
  split
  · rename_i dotted
    rw [last.resolve_left (fun undotted => undotted dotted)]
    exact (paved_nil inside).concat inside
  · rw [components, List.dropLast_concat]
    exact paved

/-- A list of directories, each inside the next, can be made where nothing is in the way. -/
theorem ensureChain_passable (free : disk.LinkFree)
    (inside : disk.entryAt here = some .directory) (paths : List Path)
    (chain : (paths ++ [Path.mk ""]).IsChain Path.Extends)
    (sound : ∀ path ∈ paths, textFault? path = none ∧
      (path.lastPiece? ≠ some "." ∨ path.components = [.current]))
    (passable : Passable disk here (paths.headD ⟨""⟩).components) :
    ∃ made new, disk.ensureChain here paths = (.ok made, new) ∧
      Paved new here (paths.headD ⟨""⟩).components := by
  induction paths with
  | nil => exact ⟨none, disk, rfl, paved_nil inside⟩
  | cons path ancestors ih =>
    obtain ⟨clean, last⟩ := sound path List.mem_cons_self
    obtain ⟨next, further⟩ : ∃ next, (ancestors ++ [Path.mk ""]).IsChain Path.Extends ∧
        next = ancestors.headD ⟨""⟩ ∧ path.Extends next := by
      refine ⟨_, chain.tail, rfl, ?_⟩
      cases ancestors with
      | nil => exact (List.isChain_cons_cons.1 chain).1
      | cons first more => exact (List.isChain_cons_cons.1 chain).1
    obtain ⟨chain', rfl, extends'⟩ := further
    have settles : ∀ disk : Disk, Passable disk here path.components →
        Paved disk here path.components → ∀ fault, disk.settle here path fault = .ok none := by
      intro disk passable paved fault
      rw [settle, if_pos (isDirectory_of_paved clean passable paved)]
    rw [List.headD_cons] at passable ⊢
    by_cases paved : Paved disk here path.trunk
    · unfold ensureChain
      rcases makeDirectory_paved inside clean passable paved with
        ⟨new, made, all⟩ | ⟨fault, other, failed, all⟩
      · rw [made]
        exact ⟨_, new, rfl, all⟩
      · rw [failed]
        split
        · rename_i same
          cases same
        · rename_i same
          exact absurd (Except.error.inj same) other
        · exact ⟨none, disk, by rw [settles disk passable all], all⟩
    have leading : (ancestors.headD ⟨""⟩).components <+: path.components := by
      obtain ⟨component, shape⟩ := extends'
      rw [shape]
      exact List.prefix_append _ _
    obtain ⟨made, middle, ensured, upper⟩ := ih chain'
      (fun other member => sound other (List.mem_cons_of_mem _ member)) (passable.mono leading)
    obtain ⟨adds, reported⟩ := ensureChain_spec ancestors chain'.left_of_append disk ensured
    have passable' : Passable middle here path.components := passable.adds adds
    have inside' := upper.inside
    unfold ensureChain
    rw [makeDirectory_unpaved inside clean passable paved, ensured]
    dsimp only
    split
    · rename_i parent name fileName
      obtain ⟨fresh, head⟩ := reported parent rfl
      obtain ⟨ancestor, first, rfl⟩ := head free
      obtain ⟨more, rfl⟩ := List.head?_eq_some_iff.1 (Option.mem_def.1 first)
      have location : here.follow _ = name :: here.follow _ := follow_of_extends extends' fileName
      obtain ⟨component, shape⟩ := extends'
      have named : component = .name name := by
        rw [Path.fileName?, shape, List.getLast?_concat] at fileName
        cases component <;> simp_all
      have short : ¬nameLimit < name.utf8ByteSize := by
        have short' := passable.short component (by rw [shape]; simp)
        rwa [named] at short'
      rw [if_neg short]
      refine ⟨_, _, rfl, ?_⟩
      obtain ⟨fresh', put⟩ := put_directory fresh.directory (fresh.bare name)
      rw [shape]
      refine (upper.adds put).concat ?_
      rw [← shape]
      change (middle.put name (here.follow ancestor) .directory).entryAt (here.follow path) = _
      rw [location]
      exact fresh'.directory
    · rcases makeDirectory_paved inside' clean passable' (upper.trunk inside' last extends') with
        ⟨new, made, all⟩ | ⟨fault, -, failed, all⟩
      · rw [made]
        exact ⟨_, new, rfl, all⟩
      · rw [failed]
        exact ⟨none, middle, by dsimp only; rw [settles middle passable' all], all⟩

theorem clean_ancestor {ancestor : Path} (clean : textFault? path = none)
    (member : ancestor ∈ path.ancestors) : textFault? ancestor = none := by
  have size := Path.size_ancestor member
  have some := (path.ancestors_chain.2.2 ancestor member).2.1
  have nonempty : ancestor.isEmpty = false := by
    by_contra empty
    refine some ?_
    have blank : ancestor = ⟨""⟩ := by
      cases ancestor
      simpa [Path.isEmpty] using empty
    rw [blank]
    rfl
  have noNul : '\x00' ∉ ancestor.text.toList := by
    intro nul
    rcases Path.mem_ancestor member nul with inside | slash | dot
    · simp [textFault?, inside] at clean
    · cases slash
    · cases dot
  have short : ¬pathLimit < path.text.utf8ByteSize := by
    intro long
    unfold textFault? at clean
    repeat' split at clean
    all_goals simp_all
  rw [textFault?, if_neg noNul, nonempty, if_neg (by simp), if_neg (by omega)]

/-- Where leading parts of a path lead. -/
def Before (here : Location) (path : Path) (place : Location) : Prop :=
  ∃ lead, lead ≠ [] ∧ lead <+: path.components.dropLast ∧ place = lead.foldl Location.step here

/-- A directory can be made where nothing is in the way, unless its path ends in a `.`: it has to
be there then, at the latest when the ones above it have been made. -/
theorem ensureDirectory_passable (free : disk.LinkFree)
    (inside : disk.entryAt here = some .directory) (clean : textFault? path = none)
    (passable : Passable disk here path.components)
    (dotted : path.lastPiece? = some "." → disk.entryAt (here.follow path) = some .directory ∨
      Before here path (here.follow path)) :
    (disk.ensureDirectory here path).1 = .ok () := by
  have nonempty := isEmpty_of_clean clean
  have again : ∀ disk : Disk, Passable disk here path.components → Paved disk here path.trunk →
      (disk.lastAttempt here path).1 = .ok () := by
    intro disk passable paved
    unfold lastAttempt
    rcases makeDirectory_paved paved.inside clean passable paved with
      ⟨new, made, -⟩ | ⟨fault, -, failed, all⟩
    · rw [made]
    · rw [failed]
      simp [settle, isDirectory_of_paved clean passable all, Except.map]
  by_cases paved : Paved disk here path.trunk
  · unfold ensureDirectory
    rw [nonempty]
    dsimp only
    rw [if_neg (by simp)]
    rcases makeDirectory_paved inside clean passable paved with
      ⟨new, made, -⟩ | ⟨fault, other, failed, -⟩
    · rw [made]
    · have result := again disk passable paved
      unfold lastAttempt at result
      rw [failed] at result ⊢
      split
      · rename_i same
        exact absurd (Except.error.inj same) other
      · exact result
  obtain ⟨head, chain, members⟩ := path.ancestors_chain
  obtain ⟨made, middle, ensured, upper⟩ := ensureChain_passable free inside path.ancestors chain
    (fun ancestor member => ⟨clean_ancestor clean member, (members ancestor member).1.last⟩)
    (by rw [head]; exact passable.mono (List.dropLast_prefix _))
  obtain ⟨adds, -⟩ := ensureChain_spec _ path.ancestors_spec.1 disk ensured
  rw [head] at upper
  have paved' : Paved middle here path.trunk := by
    unfold Path.trunk
    split
    · rename_i dot
      have shape := List.dropLast_append_getLast (Path.components_ne_nil nonempty)
      rw [← shape]
      refine upper.concat ?_
      rw [shape]
      rcases dotted dot with there | ⟨lead, -, leading, same⟩
      · exact (adds.keeps here).directory _ there
      · change middle.entryAt (here.follow path) = _
        rw [same]
        exact upper lead leading
    · exact upper
  have result := again middle (passable.adds adds) paved'
  unfold ensureDirectory
  rw [nonempty]
  dsimp only
  rw [if_neg (by simp), makeDirectory_unpaved inside clean passable paved, ensured]
  exact result

/-- At a path that ends in a `.` nothing is made but what is above it. -/
theorem ensureDirectory_dotted (dot : path.lastPiece? = some ".") {result : Except Fault Unit}
    (ensured : disk.ensureDirectory here path = (result, new)) :
    Adds (fun place => disk.LinkFree → Before here path place) disk new := by
  have unmade : ∀ disk made : Disk, disk.makeDirectory here path ≠ .ok made := by
    intro disk made eq
    obtain ⟨location, made⟩ := makeDirectory_eq_ok eq
    obtain ⟨name, parent, rfl, named⟩ := made.named
    obtain ⟨-, -, -, proper, first, blanks, shape, blank, -⟩ := reachName_eq_plain named
    have last : path.lastPiece? = some name := by
      have none : blanks.reverse.find? (· ≠ "") = none := by simpa using blank
      rw [Path.lastPiece?, shape, List.reverse_append, List.reverse_cons, List.append_assoc,
        List.find?_append, none]
      simp [proper.1]
    rw [last] at dot
    exact proper.2.1 (Option.some.inj dot)
  have again : ∀ {disk new : Disk} {result : Except Fault Unit},
      disk.lastAttempt here path = (result, new) → new = disk := by
    intro disk new result eq
    unfold lastAttempt at eq
    split at eq
    · exact absurd ‹_› (unmade _ _)
    · cases eq
      rfl
  have before : Adds (disk.Spelled here path.ancestors) disk new := by
    unfold ensureDirectory at ensured
    dsimp only at ensured
    split at ensured
    · cases ensured
      exact .refl _ _
    split at ensured
    · split at ensured
      · rename_i upper
        cases ensured
        exact (ensureChain_spec _ path.ancestors_spec.1 disk upper).1
      · rename_i upper
        rw [again ensured]
        exact (ensureChain_spec _ path.ancestors_spec.1 disk upper).1
    · rw [again ensured]
      exact .refl _ _
  refine before.mono fun place spelled free => ?_
  obtain ⟨ancestor, member, rfl⟩ := spelled free
  obtain ⟨-, some, leading⟩ := path.ancestors_chain.2.2 ancestor member
  exact ⟨ancestor.components, some, leading, rfl⟩

/-- When a directory cannot be made, trying once more is of no use. -/
theorem ensureDirectory_retry (free : disk.LinkFree)
    (inside : disk.entryAt here = some .directory) {fault : Fault}
    (failed : disk.ensureDirectory here path = (.error fault, new)) :
    (new.ensureDirectory here path).1 ≠ .ok () := by
  intro ok
  obtain ⟨result, newest, retried⟩ : ∃ result newest,
      new.ensureDirectory here path = (result, newest) := ⟨_, _, rfl⟩
  rw [retried] at ok
  have nonempty : path.isEmpty = false := by
    by_contra empty
    simp [ensureDirectory, eq_true_of_ne_false empty] at failed
  have first := (ensureDirectory_spec failed).1
  have second := (ensureDirectory_spec retried).1
  have free' := first.linkFree free
  have inside' := (first.keeps here).directory here inside
  have directory := (ensureDirectory_spec retried).2 ok nonempty
  obtain ⟨clean, passable, paved⟩ := paved_of_isDirectory (second.linkFree free')
    ((second.keeps here).directory here inside') directory
  have dotted : path.lastPiece? = some "." →
      disk.entryAt (here.follow path) = some .directory ∨
        Before here path (here.follow path) := by
    intro dot
    rcases ensureDirectory_dotted dot retried (here.follow path) with same | ⟨-, -, before⟩
    · rcases ensureDirectory_dotted dot failed (here.follow path) with same' | ⟨-, -, before⟩
      · rw [← same', ← same]
        exact .inl (paved path.components List.prefix_rfl)
      · exact .inr (before free)
    · exact .inr (before free')
  have made := ensureDirectory_passable free inside clean
    ((passable.of_adds second).of_adds first) dotted
  rw [failed] at made
  cases made

end Disk

end ModelForge
