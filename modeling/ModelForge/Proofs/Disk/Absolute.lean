import ModelForge.Proofs.Disk.Ensure
import ModelForge.Proofs.Path.Join

/-! The same place under a relative and under an absolute path. Behind the text of the directory
in which a process works, a relative path leads where it leads by itself: the walk comes to that
directory first, and goes on from there with as many links left. -/
namespace ModelForge

namespace Disk

variable {disk : Disk} {here : Location} {near far : Path}

theorem standing_above {above location : Location} (higher : above <:+ location)
    (standing : disk.entryAt location = some .directory) :
    disk.entryAt above = some .directory := by
  by_cases own : above = location
  · rw [own]
    exact standing
  · exact entryAt_suffix higher (by rw [standing]; simp) own

/-- A walk over the names down to a directory comes to that directory. -/
theorem walkWith_lead {creating : Bool} {onLink : Location → List String → Except Fault Place}
    {rest : List String} (named : creating = false ∨ ∃ piece ∈ rest, piece ≠ "")
    (start : Location) (first : List String)
    (proper : ∀ piece ∈ first, piece ≠ "" → Path.IsName piece ∧ piece.utf8ByteSize ≤ nameLimit)
    (standing : disk.entryAt ((first.filter (· ≠ "")).reverse ++ start) = some .directory) :
    disk.walkWith creating onLink start (first ++ rest) =
      disk.walkWith creating onLink ((first.filter (· ≠ "")).reverse ++ start) rest := by
  induction first generalizing start with
  | nil => rfl
  | cons piece more ih =>
    have proper' := fun other member => proper other (List.mem_cons_of_mem _ member)
    have above := fun (place : Location) higher =>
      (standing_above higher standing : disk.entryAt place = some .directory)
    have here' := above start (List.suffix_append _ _)
    rw [List.cons_append]
    by_cases blank : piece = ""
    · rw [walkWith_stay (.inr here') (.inl blank)]
      simp only [blank, List.filter_cons] at standing ⊢
      exact ih start proper' standing
    · obtain ⟨isName, short⟩ := proper piece List.mem_cons_self blank
      have shape : (List.filter (· ≠ "") (piece :: more)).reverse ++ start =
          (List.filter (· ≠ "") more).reverse ++ piece :: start := by simp [blank]
      have ordinary : Ordinary creating (more ++ rest) := by
        rcases named with reading | ⟨other, member, nonempty⟩
        · exact .inl reading
        · exact .inr (.inr ⟨other, List.mem_append_right _ member, nonempty⟩)
      have found := above (piece :: start) (shape ▸ List.suffix_append _ _)
      rw [walkWith_name ⟨isName.nonempty, isName.ne_current, isName.ne_parent⟩ here' (by omega)
        found (by simp) ordinary]
      rw [shape] at standing ⊢
      exact ih (piece :: start) proper' standing

theorem walk_lead (spellable : here.Spellable) (inside : disk.entryAt here = some .directory)
    {first rest : List String} (spells : Location.Spells first here) {creating : Bool}
    (named : creating = false ∨ ∃ piece ∈ rest, piece ≠ "") (links : Nat) :
    disk.walk creating links [] (first ++ rest) = disk.walk creating links here rest := by
  obtain ⟨onLink, eq⟩ := walk_eq_walkWith disk creating links
  have place : (first.filter (· ≠ "")).reverse ++ [] = here := by
    rw [spells, List.reverse_reverse, List.append_nil]
  rw [eq, walkWith_lead named [] first _ (place ▸ inside), place]
  intro piece member nonempty
  have listed : piece ∈ here.reverse := spells ▸ List.mem_filter.2 ⟨member, by simpa using nonempty⟩
  obtain ⟨isName, -, short⟩ := spellable piece (List.mem_reverse.1 listed)
  exact ⟨isName, short⟩

/-- Dots keep a walk where it is. -/
theorem walk_dots (inside : disk.entryAt here = some .directory) {dots : List String}
    (still : ∀ piece ∈ dots, piece = "" ∨ piece = ".") (rest : List String) (creating : Bool)
    (links : Nat) :
    disk.walk creating links here (dots ++ rest) = disk.walk creating links here rest := by
  obtain ⟨onLink, eq⟩ := walk_eq_walkWith disk creating links
  rw [eq]
  induction dots with
  | nil => rfl
  | cons piece more ih =>
    rw [List.cons_append, walkWith_stay (.inr inside) (still piece List.mem_cons_self)]
    exact ih fun other member => still other (List.mem_cons_of_mem _ member)

/-- Two paths that mean the same to every operation. -/
structure Same (disk : Disk) (here : Location) (near far : Path) : Prop where
  reach : ∀ creating, disk.reach creating here far = disk.reach creating here near
  reachName : disk.reachName here far = disk.reachName here near

theorem Same.refl (disk : Disk) (here : Location) (path : Path) : disk.Same here path path :=
  ⟨fun _ => rfl, rfl⟩

/-- The stretches up to the last one with a name in it, when one has. -/
theorem stripped_append (first : List String) {rest : List String}
    (named : ∃ piece ∈ rest, piece ≠ "") :
    ((first ++ rest).reverse.dropWhile (· = "")).reverse =
      first ++ (rest.reverse.dropWhile (· = "")).reverse ∧
    (rest.reverse.dropWhile (· = "")).reverse ≠ [] := by
  obtain ⟨piece, member, nonempty⟩ := named
  obtain ⟨blanks, whole, blank⟩ := stripped_pieces rest
  have left : rest.reverse.dropWhile (· = "") ≠ [] := by
    intro none
    rw [none, List.reverse_nil, List.nil_append] at whole
    exact nonempty (blank piece (whole ▸ member))
  refine ⟨?_, by simpa using left⟩
  rw [List.reverse_append, List.dropWhile_append, if_neg (by simpa using left),
    List.reverse_append, List.reverse_reverse]

theorem same_of_leads (spellable : here.Spellable) (inside : disk.entryAt here = some .directory)
    (leads : here.Leads near far) (fault : textFault? far = textFault? near) :
    disk.Same here near far := by
  obtain ⟨relative, absolute, dots, first, rest, near', far', still, spells, named⟩ := leads
  constructor
  · intro creating
    unfold reach
    rw [fault]
    cases textFault? near with
    | some fault => rfl
    | none =>
      simp only [relative, absolute, near', far']
      simp only [if_true]
      rw [walk_lead spellable inside spells (.inr named)]
      exact (walk_dots inside still rest creating _).symm
  · unfold reachName
    rw [fault]
    cases textFault? near with
    | some fault => rfl
    | none =>
      obtain ⟨front, some⟩ := stripped_append first named
      obtain ⟨front', -⟩ := stripped_append dots named
      obtain ⟨init, last, shape⟩ := (List.eq_nil_or_concat _).resolve_left some
      rw [shape, List.concat_eq_append, ← List.append_assoc] at front front'
      have led : disk.walk false linkLimit [] (first ++ init) =
          disk.walk false linkLimit here (dots ++ init) := by
        rw [walk_lead spellable inside spells (.inl rfl), walk_dots inside still]
      simp only [relative, absolute, near', far', front, front', List.getLast?_concat,
        List.dropLast_concat, if_true, led]
      simp only [Bool.false_eq_true, if_false]

namespace Same

variable (same : disk.Same here near far)
include same

theorem locate : disk.locate here far = disk.locate here near := by
  unfold Disk.locate
  rw [same.reach]

theorem status? : disk.status? here far = disk.status? here near := by
  unfold Disk.status?
  rw [same.locate]

theorem isDirectory : disk.isDirectory here far = disk.isDirectory here near := by
  unfold Disk.isDirectory
  rw [same.status?]

theorem pathExists : disk.pathExists here far = disk.pathExists here near := by
  unfold Disk.pathExists
  rw [same.status?]

theorem read : disk.read here far = disk.read here near := by
  unfold Disk.read
  rw [same.locate]

theorem write (content : ByteArray) :
    disk.write here far content = disk.write here near content := by
  unfold Disk.write
  rw [same.reach]

theorem makeDirectory : disk.makeDirectory here far = disk.makeDirectory here near := by
  unfold Disk.makeDirectory create
  rw [same.reachName]

theorem settle (fault : Fault) : disk.settle here far fault = disk.settle here near fault := by
  unfold Disk.settle
  rw [same.isDirectory]

theorem unlink : disk.unlink here far = disk.unlink here near := by
  unfold Disk.unlink
  rw [same.reachName]

theorem rename {near' far' : Path} (same' : disk.Same here near' far') :
    disk.rename here far far' = disk.rename here near near' := by
  unfold Disk.rename
  rw [same.reachName, same'.reachName]

end Same

/-- Two paths that mean the same on every disk on which the process works in a directory. -/
def SameFrom (here : Location) (near far : Path) : Prop :=
  ∀ disk : Disk, disk.entryAt here = some .directory → disk.Same here near far

theorem sameFrom_refl (here : Location) (path : Path) : SameFrom here path path :=
  fun disk _ => .refl disk here path

/-- The text of a working directory is fit for every system call, if it is short enough. -/
theorem nul_notMem_stem (spellable : here.Spellable) : '\x00' ∉ here.path.stem.toList := by
  have text : '\x00' ∉ here.path.text.toList := by
    induction here with
    | nil =>
      rw [Location.path_nil]
      decide
    | cons name parent ih =>
      obtain ⟨isName, clean, -⟩ := spellable name List.mem_cons_self
      rw [Location.path_cons, Path.child_eq_stem _ isName.unslashed, String.toList_append,
        List.mem_append, not_or]
      refine ⟨fun inside => ?_, clean⟩
      rcases Path.mem_stem inside with before | slash
      · exact ih (fun other member => spellable other (List.mem_cons_of_mem _ member)) before
      · exact absurd slash (by decide)
  intro inside
  rcases Path.mem_stem inside with before | slash
  · exact text before
  · exact absurd slash (by decide)

/-- What is wrong with a path is wrong with it behind the working directory, as long as that is not
too long. -/
theorem textFault?_join (spellable : here.Spellable) {path : Path}
    (relative : path.isAbsolute = false) (nonempty : path.isEmpty = false)
    (fits : (here.path.join path).text.utf8ByteSize ≤ pathLimit) :
    textFault? (here.path.join path) = textFault? path := by
  have whole := here.path.join_eq_stem relative
  have nul : '\x00' ∈ (here.path.join path).text.toList ↔ '\x00' ∈ path.text.toList := by
    rw [whole, String.toList_append, List.mem_append]
    exact ⟨fun inside => inside.resolve_left (nul_notMem_stem spellable), .inr⟩
  have size : path.text.utf8ByteSize ≤ (here.path.join path).text.utf8ByteSize := by
    rw [whole, String.utf8ByteSize_append]
    omega
  have some := here.path.isEmpty_join relative nonempty
  simp only [textFault?, nul, some, nonempty]
  rw [if_neg (by omega : ¬pathLimit < (here.path.join path).text.utf8ByteSize),
    if_neg (by omega : ¬pathLimit < path.text.utf8ByteSize)]

/-- A path means the same behind the working directory. -/
theorem sameFrom_join (spellable : here.Spellable) {path : Path} (nonempty : path.isEmpty = false)
    (fits : (here.path.join path).text.utf8ByteSize ≤ pathLimit) :
    SameFrom here path (here.path.join path) := by
  by_cases absolute : path.isAbsolute = true
  · have same : here.path.join path = path := by simp [Path.join, absolute]
    rw [same]
    exact sameFrom_refl here path
  · have relative : path.isAbsolute = false := by simpa using absolute
    intro disk inside
    exact same_of_leads spellable inside (Location.leads_join spellable relative nonempty)
      (textFault?_join spellable relative nonempty fits)

section Ensure

/-- A directory that is there and those above it need not be made. -/
theorem ensureChain_of_isDirectory {path : Path} {more : List Path}
    (directory : disk.isDirectory here path = true) :
    disk.ensureChain here (path :: more) = (.ok none, disk) := by
  obtain ⟨fault, other, failed⟩ := makeDirectory_of_isDirectory directory
  unfold ensureChain
  rw [failed]
  split
  · rename_i made
    cases made
  · rename_i missing
    exact absurd (Except.error.inj missing) other
  · rename_i fault' eq
    rw [settle, if_pos directory]

/-- Stretches that come to the working directory and stay there name a directory. -/
theorem isDirectory_of_walk {path : Path} (inside : disk.entryAt here = some .directory)
    (clean : textFault? path = none)
    (walked : ∀ links, disk.walk false links (path.start here) path.pieces =
      disk.walk false links here []) : disk.isDirectory here path = true := by
  refine isDirectory_iff.2 ⟨here, clean, ?_, found_eq_directory_iff.2 (.inr inside)⟩
  obtain ⟨onLink, eq⟩ := walk_eq_walkWith disk false linkLimit
  rw [Reaches, walked, eq, walkWith]

theorem isDirectory_dots {path : Path} (inside : disk.entryAt here = some .directory)
    (clean : textFault? path = none) (relative : path.isAbsolute = false)
    (still : ∀ piece ∈ path.pieces, piece = "" ∨ piece = ".") :
    disk.isDirectory here path = true := by
  refine isDirectory_of_walk inside clean fun links => ?_
  have stays := walk_dots inside still [] false links
  rw [List.append_nil] at stays
  simpa [Path.start, relative] using stays

theorem isDirectory_here (spellable : here.Spellable) (inside : disk.entryAt here = some .directory)
    {path : Path} (clean : textFault? path = none) (absolute : path.isAbsolute = true)
    (spells : Location.Spells path.pieces here) : disk.isDirectory here path = true := by
  refine isDirectory_of_walk inside clean fun links => ?_
  have led : disk.walk false links [] (path.pieces ++ []) = disk.walk false links here [] :=
    walk_lead spellable inside spells (.inl rfl) links
  rw [List.append_nil] at led
  simpa [Path.start, absolute] using led

/-- Two lists of directories, of which the first mean the same and the others lead to the same. -/
theorem ensureChain_congr {nears fars : List Path} (same : SameFrom here near far)
    (name : far.fileName? = near.fileName?)
    (upper : disk.ensureChain here fars = disk.ensureChain here nears)
    (chain : nears.IsChain Path.Extends) (inside : disk.entryAt here = some .directory) :
    disk.ensureChain here (far :: fars) = disk.ensureChain here (near :: nears) := by
  have stays : ∀ {old new : Disk}, old.entryAt here = some .directory →
      old.makeDirectory here near = .ok new → new.entryAt here = some .directory := by
    intro old new standing made
    obtain ⟨location, made⟩ := makeDirectory_eq_ok made
    exact (made.adds.keeps here).directory here standing
  unfold ensureChain
  rw [(same disk inside).makeDirectory, upper, name]
  split
  · rename_i new made
    rw [(same new (stays inside made)).locate]
  · split
    · rfl
    rename_i made middle ensured
    have inside' : middle.entryAt here = some .directory :=
      ((ensureChain_spec nears chain disk ensured).1.keeps here).directory here inside
    split
    · rfl
    rw [(same middle inside').makeDirectory]
    split
    · rename_i new made
      rw [(same new (stays inside' made)).locate]
    · rw [(same middle inside').settle]
  · rw [(same disk inside).settle]

theorem isChain_leading {components : List Path.Component}
    (formed : Path.Component.Formed components) :
    (Path.leading components).IsChain Path.Extends :=
  (Path.leading_paths components formed).2.1.left_of_append

theorem ensureChain_leading (spellable : here.Spellable) {opening : List Path.Component}
    (dotted : opening = [] ∨ opening = [.current]) (inner : List Path.Component)
    (allInner : ∀ component ∈ inner, component.IsInner)
    (near : ∀ path ∈ Path.leading (opening ++ inner), textFault? path = none)
    (far : ∀ path ∈ Path.leading (here.named ++ inner), textFault? path = none)
    (inside : disk.entryAt here = some .directory) :
    disk.ensureChain here (Path.leading (here.named ++ inner)) =
      disk.ensureChain here (Path.leading (opening ++ inner)) := by
  induction inner using List.reverseRecOn with
  | nil =>
    rw [List.append_nil] at near far ⊢
    rw [List.append_nil]
    obtain ⟨more, shape⟩ : ∃ more, Path.leading here.named = here.path :: more :=
      Path.leading_eq_cons (List.cons_ne_nil _ _)
    obtain ⟨absolute, spells⟩ := Location.spells_path spellable
    have first : disk.isDirectory here here.path = true :=
      isDirectory_here spellable inside (far _ (by rw [shape]; exact List.mem_cons_self)) absolute spells
    have upper : disk.ensureChain here (Path.leading here.named) = (.ok none, disk) := by
      rw [shape]
      exact ensureChain_of_isDirectory first
    rw [upper]
    rcases dotted with rfl | rfl
    · rfl
    · have dot : disk.isDirectory here ⟨"."⟩ = true :=
        isDirectory_dots inside (by decide) (by decide) (by decide)
      exact (ensureChain_of_isDirectory dot).symm
  | append_singleton before component ih =>
    have inner' := fun other member => allInner other (List.mem_append_left [component] member)
    have own := allInner component (by simp)
    rw [← List.append_assoc, Path.leading_concat] at near far
    rw [← List.append_assoc, ← List.append_assoc, Path.leading_concat, Path.leading_concat]
    refine ensureChain_congr ?_ ?_ (ih inner' (fun path member => near path (List.mem_cons_of_mem _ member))
      fun path member => far path (List.mem_cons_of_mem _ member)) ?_ inside
    · intro disk inside
      refine same_of_leads spellable inside ?_
        ((far _ List.mem_cons_self).trans (near _ List.mem_cons_self).symm)
      rw [← Path.ofComponents_concat, ← Path.ofComponents_concat, List.append_assoc, List.append_assoc]
      exact Location.leads_components spellable dotted (by simp) allInner
    · simp only [Path.fileName?, Path.components_child_inner _ own, List.getLast?_concat]
    · refine isChain_leading ?_
      rcases dotted with rfl | rfl
      · cases before with
        | nil => trivial
        | cons first rest =>
          exact ⟨.inr (.inr (inner' first List.mem_cons_self)),
            fun other member => inner' other (List.mem_cons_of_mem _ member)⟩
      · exact ⟨.inr (.inl rfl), inner'⟩

/-- What a directory's ancestors are made of: its own leading components. -/
theorem components_join (spellable : here.Spellable) {path : Path}
    (relative : path.isAbsolute = false) :
    ∃ opening inner, (opening = [] ∨ opening = [.current]) ∧
      inner = path.pieces.filterMap Path.Component.ofPiece? ∧ path.components = opening ++ inner ∧
      (here.path.join path).components = here.named ++ inner := by
  obtain ⟨absolute, spells⟩ := Location.spells_path spellable
  obtain ⟨first, shape, before⟩ := here.path.pieces_join relative
  refine ⟨path.opening, _, ?_, rfl, path.components_eq, ?_⟩
  · unfold Path.opening
    rw [relative]
    split
    · simp_all
    · split <;> simp
  have named : first.filterMap Path.Component.ofPiece? = here.reverse.map .name := by
    have front : first.filter (· ≠ "") = here.reverse := spells.of_blank before
    have all : ∀ name ∈ here.reverse, Path.IsName name := fun name member =>
      (spellable name (List.mem_reverse.1 member)).1
    rw [← front] at all ⊢
    clear front shape before
    induction first with
    | nil => rfl
    | cons piece rest ih =>
      by_cases blank : piece = ""
      · simpa [blank, Path.Component.ofPiece?] using ih (by simpa [blank] using all)
      · have own : Path.IsName piece := all piece (by simp [blank])
        have piece' : Path.Component.ofPiece? piece = some (.name piece) := by
          simp [Path.Component.ofPiece?, own.nonempty, own.ne_current, own.ne_parent]
        have more := ih fun name member => all name (by
          rw [List.filter_cons_of_pos (by simpa using blank)]
          exact List.mem_cons_of_mem _ member)
        simp [piece', more, blank]
  rw [Path.components_eq, Path.opening, (here.path.isAbsolute_join relative).trans absolute, if_pos rfl,
    shape, List.filterMap_append, named, ← List.append_assoc]
  rfl

theorem clean_of_missing {path : Path} (nonempty : path.isEmpty = false)
    (missing : disk.makeDirectory here path = .error .notFound) : textFault? path = none := by
  cases clean : textFault? path with
  | none => rfl
  | some fault =>
    rw [makeDirectory, create, reachName, clean] at missing
    obtain rfl : fault = .notFound := by simpa using missing
    unfold textFault? at clean
    split at clean <;> simp_all

theorem ensureDirectory_cases {path : Path} (nonempty : path.isEmpty = false) :
    disk.ensureDirectory here path =
      match disk.makeDirectory here path with
      | .error .notFound =>
        match disk.ensureChain here path.ancestors with
        | (.error fault, disk) => (.error fault, disk)
        | (.ok _, disk) => disk.lastAttempt here path
      | _ => disk.lastAttempt here path := by
  unfold ensureDirectory
  rw [nonempty]
  rfl

/-- A directory is made in the same way under its path and under that behind the working
directory, whatever is missing above it. -/
theorem ensureDirectory_join (spellable : here.Spellable)
    (inside : disk.entryAt here = some .directory) {path : Path}
    (fits : (here.path.join path).text.utf8ByteSize ≤ pathLimit) :
    disk.ensureDirectory here (here.path.join path) = disk.ensureDirectory here path := by
  by_cases absolute : path.isAbsolute = true
  · simp [Path.join, absolute]
  have relative : path.isAbsolute = false := by simpa using absolute
  by_cases blank : path.isEmpty = true
  · -- Nothing is to be made at the empty path, and the working directory is there.
    obtain rfl : path = ⟨""⟩ := by
      cases path
      simpa [Path.isEmpty] using blank
    obtain ⟨first, shape, before⟩ := here.path.pieces_join relative
    obtain ⟨root, spells⟩ := Location.spells_path spellable
    have whole := here.path.join_eq_stem relative
    have rooted := (here.path.isAbsolute_join relative).trans root
    have clean : textFault? (here.path.join ⟨""⟩) = none := by
      have some : (here.path.join ⟨""⟩).isEmpty = false := by
        by_contra empty
        have none : (here.path.join ⟨""⟩).text = "" := by simpa [Path.isEmpty] using empty
        simp [Path.isAbsolute, none] at rooted
      have noNul : '\x00' ∉ (here.path.join ⟨""⟩).text.toList := by
        rw [whole, String.append_empty]
        exact nul_notMem_stem spellable
      rw [textFault?, if_neg noNul, some, if_neg (by simp), if_neg (by omega)]
    have there := isDirectory_here spellable inside clean rooted (by
        have front : first.filter (· ≠ "") = here.reverse := spells.of_blank before
        have none : (Path.mk "").pieces = [""] := by decide
        rw [Location.Spells, shape, List.filter_append, front, none]
        simp)
    rw [ensureDirectory_of_isDirectory there]
    rfl
  have nonempty : path.isEmpty = false := by simpa using blank
  have some := here.path.isEmpty_join relative nonempty
  have same := sameFrom_join spellable nonempty fits
  have fault := textFault?_join spellable relative nonempty fits
  by_cases directory : disk.isDirectory here path = true
  · rw [ensureDirectory_of_isDirectory directory,
      ensureDirectory_of_isDirectory (((same disk inside).isDirectory).trans directory)]
  have again : ∀ disk : Disk, disk.entryAt here = Option.some .directory →
      disk.lastAttempt here (here.path.join path) = disk.lastAttempt here path := by
    intro disk inside
    unfold lastAttempt
    rw [(same disk inside).makeDirectory]
    split
    · rfl
    · rw [(same disk inside).settle]
  rw [ensureDirectory_cases some, ensureDirectory_cases nonempty, (same disk inside).makeDirectory]
  split
  · rename_i missing
    have clean := clean_of_missing nonempty missing
    obtain ⟨opening, inner, dotted, shape, near, far⟩ := components_join spellable relative
    have named : inner ≠ [] := by
      rintro rfl
      refine directory (isDirectory_dots inside clean relative fun piece member => ?_)
      have none := List.filterMap_eq_nil_iff.1 shape.symm piece member
      unfold Path.Component.ofPiece? at none
      split at none
      · assumption
      · split at none <;> cases none
    obtain ⟨before, last, split⟩ := (List.eq_nil_or_concat inner).resolve_left named
    have allInner : ∀ component ∈ before, component.IsInner := by
      intro component member
      have listed : component ∈ path.pieces.filterMap Path.Component.ofPiece? := by
        rw [← shape, split]
        simp [member]
      exact Path.Component.isInner_of_piece listed
    have nearAncestors : path.ancestors = Path.leading (opening ++ before) := by
      rw [Path.ancestors_eq, near, split, List.concat_eq_append, ← List.append_assoc,
        List.dropLast_concat]
    have farAncestors :
        (here.path.join path).ancestors = Path.leading (here.named ++ before) := by
      rw [Path.ancestors_eq, far, split, List.concat_eq_append, ← List.append_assoc,
        List.dropLast_concat]
    have upper := ensureChain_leading spellable dotted before allInner
      (fun ancestor member => clean_ancestor clean (nearAncestors ▸ member))
      (fun ancestor member => clean_ancestor (fault.trans clean) (farAncestors ▸ member)) inside
    rw [nearAncestors, farAncestors, upper]
    split
    · rfl
    · rename_i made middle ensured
      refine again middle (((ensureChain_spec _ ?_ disk ensured).1.keeps here).directory here inside)
      rw [← nearAncestors]
      exact path.ancestors_spec.1
  · exact again disk inside

end Ensure

section Standing

variable {new : Disk} {location : Location}

/-- No operation on files takes away a directory. -/
theorem put_standing (standing : disk.entryAt location = some .directory) (name : String)
    (parent : Location) (entry : Entry) :
    (disk.put name parent entry).entryAt location = some .directory := by
  by_cases canPut : disk.CanPut name parent
  · rw [entryAt_put canPut, if_neg, standing]
    rintro rfl
    exact canPut.2 standing
  · rw [put, dif_neg canPut, standing]

theorem remove_standing (standing : disk.entryAt location = some .directory) {other : Location}
    (below : other ≠ []) (leaf : disk.entryAt other ≠ some .directory) :
    (disk.remove other).entryAt location = some .directory := by
  rw [entryAt_remove_leaf below leaf, if_neg, standing]
  rintro rfl
  exact leaf standing

theorem store_standing (standing : disk.entryAt location = some .directory) {content : ByteArray}
    {executable : Option Bool} {place : Place}
    (stored : disk.store content executable place = .ok new) :
    new.entryAt location = some .directory := by
  unfold store at stored
  repeat' split at stored
  all_goals first
    | cases stored; exact put_standing standing _ _ _
    | cases stored; exact standing
    | cases stored

theorem write_standing (standing : disk.entryAt location = some .directory) {path : Path}
    {content : ByteArray} (written : disk.write here path content = .ok new) :
    new.entryAt location = some .directory := by
  unfold write at written
  split at written
  · cases written
  · exact store_standing standing written

theorem unlink_standing (standing : disk.entryAt location = some .directory) {path : Path}
    (unlinked : disk.unlink here path = .ok new) : new.entryAt location = some .directory := by
  obtain ⟨name, parent, -, leaf, rfl⟩ := unlink_eq_ok unlinked
  exact remove_standing standing (List.cons_ne_nil _ _) leaf

theorem rename_standing (standing : disk.entryAt location = some .directory) {source target : Path}
    (renamed : disk.rename here source target = .ok new) :
    new.entryAt location = some .directory := by
  obtain ⟨name, parent, name', parent', entry, -, -, found, notDirectory, -, rfl⟩ :=
    rename_eq_ok renamed
  split
  · exact standing
  · have leaf : disk.entryAt (name :: parent) ≠ some .directory := by simp [found, notDirectory]
    exact put_standing (remove_standing standing (List.cons_ne_nil _ _) leaf) _ _ _

/-- Nor does making a directory, even if it fails half-way. -/
theorem ensureDirectory_standing (standing : disk.entryAt location = some .directory) {path : Path}
    {result : Except Fault Unit} (ensured : disk.ensureDirectory here path = (result, new)) :
    new.entryAt location = some .directory :=
  ((ensureDirectory_spec ensured).1.keeps here).directory location standing

end Standing

end Disk

end ModelForge
