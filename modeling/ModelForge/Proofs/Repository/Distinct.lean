import ModelForge.Proofs.Model.Names
import ModelForge.Proofs.Path.Ancestors
import ModelForge.Repository.Lookup

/-! Which models share an artifact. The text of its name can be cut at any marker in it, so two
models may share a file name; they share the path below an output directory only if the name of
the directory does not tell them apart either. -/
namespace ModelForge

namespace Text

variable {separator : Char}

theorem length_fields (separator : Char) (s : List Char) :
    (fields separator s).length = s.count separator + 1 := by
  induction s with
  | nil => rfl
  | cons c rest ih =>
    by_cases h : c = separator
    · simp [fields, h, ih]
    · obtain ⟨first, more, shape⟩ := List.exists_cons_of_ne_nil (fields_ne_nil separator rest)
      rw [shape, List.length_cons] at ih
      simp [fields, h, shape, ih]

theorem fields_map {f : Char → Char} {s : List Char}
    (same : ∀ c ∈ s, f c = separator ↔ c = separator) :
    fields separator (s.map f) = (fields separator s).map (List.map f) := by
  induction s with
  | nil => rfl
  | cons c rest ih =>
    have tail := ih fun other member => same other (List.mem_cons_of_mem _ member)
    have head := same c List.mem_cons_self
    by_cases h : c = separator
    · rw [List.map_cons, fields, if_pos (head.2 h), tail, fields, if_pos h]
      rfl
    · obtain ⟨first, more, shape⟩ := List.exists_cons_of_ne_nil (fields_ne_nil separator rest)
      rw [List.map_cons, fields, if_neg (mt head.1 h), tail, fields, if_neg h, shape]
      rfl

end Text

namespace Path

/-- Every stretch of a text between slashes counts when the text is joined to a path: none is empty,
so it does not begin with a slash, and none is a single dot. -/
def Counted (text : String) : Prop := ∀ piece ∈ (Path.mk text).pieces, piece ≠ "" ∧ piece ≠ "."

instance (text : String) : Decidable (Counted text) := inferInstanceAs (Decidable (∀ _ ∈ _, _))

/-- The components of the stretches of a text. -/
def parts (text : String) : List Component := (Path.mk text).pieces.filterMap Component.ofPiece?

namespace Counted

variable {text : String} (counted : Counted text)

include counted

theorem relative : (Path.mk text).isAbsolute = false := by
  by_contra absolute
  obtain ⟨rest, shape⟩ : ∃ rest, text.toList = '/' :: rest := by
    simpa [isAbsolute, List.head?_eq_some_iff] using absolute
  exact (counted "" (by simp [pieces, shape, Text.fields])).1 rfl

/-- No stretch is lost, and none is changed. -/
theorem map_text : (parts text).map Component.text = (Path.mk text).pieces := by
  have kept : ∀ pieces : List String, (∀ piece ∈ pieces, piece ≠ "" ∧ piece ≠ ".") →
      (pieces.filterMap Component.ofPiece?).map Component.text = pieces := by
    intro pieces proper
    induction pieces with
    | nil => rfl
    | cons piece rest ih =>
      obtain ⟨component, found⟩ : ∃ component, Component.ofPiece? piece = some component := by
        have here := proper piece List.mem_cons_self
        by_cases up : piece = ".." <;> simp [Component.ofPiece?, here, up]
      rw [List.filterMap_cons, found, List.map_cons, text_of_ofPiece found,
        ih fun other member => proper other (List.mem_cons_of_mem _ member)]
  exact kept _ counted

theorem length_parts : (parts text).length = text.toList.count '/' + 1 := by
  rw [← List.length_map Component.text, counted.map_text, pieces, List.length_map,
    Text.length_fields]

/-- Joined to a path the text puts its parts behind the components that are there. -/
theorem components_child (base : Path) :
    (base.child text).components = base.components ++ parts text := by
  have relative := counted.relative
  have empty : Component.ofPiece? "" = none := by simp [Component.ofPiece?]
  obtain ⟨first, shape, before⟩ := base.pieces_join relative
  have named : (base.join ⟨text⟩).pieces.filterMap Component.ofPiece? =
      base.pieces.filterMap Component.ofPiece? ++ parts text := by
    rcases before with eq | eq <;> simp [shape, eq, empty, parts]
  have opening : (base.join ⟨text⟩).opening = base.opening := by
    have notDot : (Path.mk text).pieces.head? ≠ some "." := fun found =>
      (counted "." (List.mem_of_head? found)).2 rfl
    have head : (base.join ⟨text⟩).pieces.head? = some "." ↔ base.pieces.head? = some "." := by
      rcases before with eq | eq
      · obtain ⟨piece, more, pieces⟩ := List.exists_cons_of_ne_nil
          (show base.pieces ≠ [] by simp [pieces, Text.fields_ne_nil])
        simp [shape, ← eq, pieces]
      · cases first <;> simp [shape, eq, notDot]
    unfold Path.opening
    rw [base.isAbsolute_join relative]
    simp only [head]
  rw [child, components_eq, components_eq, named, opening, List.append_assoc]

end Counted

/-- The parts tell the text. -/
theorem parts_injective {a b : String} (countedA : Counted a) (countedB : Counted b)
    (same : parts a = parts b) : a = b := by
  have texts := congrArg (List.map Component.text) same
  rw [countedA.map_text, countedB.map_text, pieces, pieces] at texts
  have fields := List.map_injective_iff.2 (fun _ _ => String.ofList_inj.1) texts
  have chars := congrArg (Text.rejoin '/') fields
  rw [Text.rejoin_fields, Text.rejoin_fields] at chars
  exact String.toList_inj.1 chars

end Path

namespace Identity

/-- Two identities cut one text at different markers, and the name of the second is the longer one.
The markers share a dot, or there is more text between them. -/
def CutsBefore (a b : Identity) : Prop :=
  (b.name = a.name ++ ".so" ∧ a.version = "so." ++ b.version) ∨
    ∃ middle, b.name = a.name ++ ".so." ++ middle ∧ a.version = middle ++ ".so." ++ b.version

theorem CutsBefore.artifactName {a b : Identity} (cuts : a.CutsBefore b) :
    a.artifactName = b.artifactName := by
  apply String.toList_inj.1
  rw [Model.artifactName_toList, Model.artifactName_toList]
  rcases cuts with ⟨name, version⟩ | ⟨middle, name, version⟩ <;>
    simp [name, version, artifactMarker]

/-- The longer name ends within the marker behind the shorter one, or after it. -/
theorem cutsBefore_of_longer {a b : Identity} {between : List Char}
    (longer : b.name.toList = a.name.toList ++ between)
    (same : a.artifactName = b.artifactName) : a = b ∨ a.CutsBefore b := by
  have chars := congrArg String.toList same
  rw [Model.artifactName_toList, Model.artifactName_toList, longer, List.append_assoc,
    List.append_assoc, List.append_assoc, List.append_cancel_left_eq] at chars
  match between with
  | [] =>
    left
    have version : a.version = b.version := String.toList_inj.1 (List.append_cancel_left chars)
    have name : b.name = a.name := String.toList_inj.1 (by simpa using longer)
    obtain ⟨name', version'⟩ := a
    exact congrArg₂ Identity.mk name.symm version
  | [c] => simp [artifactMarker] at chars
  | [c, d] => simp [artifactMarker] at chars
  | [c, d, e] =>
    obtain ⟨rfl, rfl, rfl, version⟩ : '.' = c ∧ 's' = d ∧ 'o' = e ∧
        '.' :: a.version.toList = ".so.".toList ++ b.version.toList := by
      simpa [artifactMarker] using chars
    refine .inr (.inl ⟨String.toList_inj.1 (by simpa using longer), String.toList_inj.1 ?_⟩)
    simpa using version
  | c :: d :: e :: f :: middle =>
    obtain ⟨rfl, rfl, rfl, rfl, version⟩ : '.' = c ∧ 's' = d ∧ 'o' = e ∧ '.' = f ∧
        a.version.toList = middle ++ (".so.".toList ++ b.version.toList) := by
      simpa [artifactMarker] using chars
    refine .inr (.inr ⟨String.ofList middle, String.toList_inj.1 (by simpa using longer),
      String.toList_inj.1 ?_⟩)
    simpa using version

/-- The file names of two artifacts agree only if the identities do, or cut one text differently. -/
theorem artifactName_eq_iff {a b : Identity} :
    a.artifactName = b.artifactName ↔ a = b ∨ a.CutsBefore b ∨ b.CutsBefore a := by
  constructor
  · intro same
    have chars := congrArg String.toList same
    rw [Model.artifactName_toList, Model.artifactName_toList, List.append_assoc, List.append_assoc]
      at chars
    rcases List.append_eq_append_iff.1 chars with ⟨between, longer, -⟩ | ⟨between, longer, -⟩
    · exact (cutsBefore_of_longer longer same).imp id .inl
    · exact (cutsBefore_of_longer longer same.symm).imp Eq.symm .inr
  · rintro (rfl | cuts | cuts)
    · rfl
    · exact cuts.artifactName
    · exact cuts.artifactName.symm

/-- A marker begins in the longer name. -/
theorem CutsBefore.marked {a b : Identity} (cuts : a.CutsBefore b) :
    artifactMarker.toList <:+: (b.name ++ ".").toList := by
  rcases cuts with ⟨name, -⟩ | ⟨middle, name, -⟩
  · exact ⟨a.name.toList, [], by simp [name, artifactMarker]⟩
  · exact ⟨a.name.toList, middle.toList ++ ['.'], by simp [name, artifactMarker]⟩

/-- `so`, `so_so`, and so on. -/
def chain : Nat → String
  | 0 => "so"
  | count + 1 => "so_" ++ chain count

/-- The two cuts leave the name of the directory the same: between the markers, if they are apart,
stands `so` again and again with a dot or an underscore after each but the last. -/
def CutsAlike (a b : Identity) : Prop :=
  (b.name = a.name ++ ".so" ∧ a.version = "so." ++ b.version) ∨
    ∃ middle count, b.name = a.name ++ ".so." ++ middle ∧
      a.version = middle ++ ".so." ++ b.version ∧ Text.substitute '.' '_' middle = chain count

theorem CutsAlike.cutsBefore {a b : Identity} (cuts : a.CutsAlike b) : a.CutsBefore b :=
  cuts.imp id fun ⟨middle, _, name, version, _⟩ => ⟨middle, name, version⟩

/-- What can change places with the underscore of the marker. -/
theorem chain_of_swapped : ∀ middle : List Char,
    middle ++ ['_', 's', 'o'] = ['s', 'o', '_'] ++ middle →
      ∃ count, middle = (chain count).toList
  | [], swapped => by simp at swapped
  | [c], swapped => by simp at swapped
  | [c, d], swapped => by
    obtain ⟨rfl, rfl⟩ : c = 's' ∧ d = 'o' := by
      simp only [List.cons_append, List.nil_append, List.cons.injEq] at swapped
      exact ⟨swapped.1, swapped.2.1⟩
    exact ⟨0, rfl⟩
  | c :: d :: e :: rest, swapped => by
    obtain ⟨rfl, rfl, rfl, shorter⟩ : c = 's' ∧ d = 'o' ∧ e = '_' ∧
        rest ++ ['_', 's', 'o'] = c :: d :: e :: rest := by
      simpa only [List.cons_append, List.nil_append, List.cons.injEq] using swapped
    obtain ⟨count, eq⟩ := chain_of_swapped rest shorter
    exact ⟨count + 1, by simp [chain, eq]⟩

theorem swapped_chain (count : Nat) : (chain count).toList ++ ['_', 's', 'o'] =
    ['s', 'o', '_'] ++ (chain count).toList := by
  induction count with
  | zero => rfl
  | succ count ih => simpa [chain] using ih

end Identity

namespace Model

variable {a b : Model}

theorem safeName_eq_iff_swapped {middle : String} (name : b.name = a.name ++ ".so." ++ middle)
    (version : a.version = middle ++ ".so." ++ b.version) :
    a.safeName = b.safeName ↔ (Text.substitute '.' '_' middle).toList ++ ['_', 's', 'o'] =
      ['s', 'o', '_'] ++ (Text.substitute '.' '_' middle).toList := by
  rw [← String.toList_inj, safeName_toList, safeName_toList, name, version]
  -- Behind the two sides stands the version of the second with the underscore before it.
  refine Iff.trans ?_ (List.append_left_inj
    ('_' :: b.version.toList.map fun c => if c = '.' then '_' else c))
  simp [Text.substitute]

/-- Two identities that cut one text differently share the directory just when they cut alike. -/
theorem safeName_eq_iff_of_cutsBefore (cuts : a.identity.CutsBefore b.identity) :
    a.safeName = b.safeName ↔ a.identity.CutsAlike b.identity := by
  constructor
  · intro same
    refine cuts.imp id fun ⟨middle, name, version⟩ => ?_
    obtain ⟨count, eq⟩ :=
      Identity.chain_of_swapped _ ((safeName_eq_iff_swapped name version).1 same)
    exact ⟨middle, count, name, version, String.toList_inj.1 eq⟩
  · rintro (⟨name, version⟩ | ⟨middle, count, name, version, eq⟩)
    · have name : b.name = a.name ++ ".so" := name
      have version : a.version = "so." ++ b.version := version
      rw [← String.toList_inj, safeName_toList, safeName_toList, name, version]
      simp
    · rw [safeName_eq_iff_swapped name version, eq]
      exact Identity.swapped_chain count

/-- Folding dots takes no stretch away, and the marker and the underscore keep the same two
stretches together. -/
theorem counted_safeName {model : Model} (counted : Path.Counted model.identity.artifactName) :
    Path.Counted model.safeName := by
  obtain ⟨front, last, left⟩ : ∃ front last, Text.fields '/' model.name.toList = front ++ [last] :=
    ⟨_, _, (List.dropLast_append_getLast (Text.fields_ne_nil '/' _)).symm⟩
  obtain ⟨first, more, right⟩ :=
    List.exists_cons_of_ne_nil (Text.fields_ne_nil '/' model.version.toList)
  have joined : ∀ middle : List Char, '/' ∉ middle →
      Text.fields '/' (model.name.toList ++ middle ++ model.version.toList) =
        front ++ (last ++ middle ++ first) :: more := fun middle unslashed => by
    rw [Text.fields_append (Text.fields_append left (Text.fields_of_notMem unslashed)) right]
  have whole : Text.fields '/' model.safeName.toList =
      (front ++ (last ++ ['_'] ++ first) :: more).map
        (List.map fun c => if c = '.' then '_' else c) := by
    rw [← joined ['_'] (by decide), ← Text.fields_map]
    · simp [safeName_toList]
    · intro c _
      by_cases dot : c = '.' <;> simp [dot]
  have some : ∀ field ∈ front ++ (last ++ ['_'] ++ first) :: more, field ≠ [] := by
    rintro field member rfl
    have outside : [] ∈ front ++ (last ++ artifactMarker.toList ++ first) :: more := by
      simpa [artifactMarker] using member
    refine (counted "" (List.mem_map.2 ⟨[], ?_, rfl⟩)).1 rfl
    rw [artifactName_toList]
    exact joined artifactMarker.toList (by decide) ▸ outside
  intro piece member
  rw [Path.pieces, whole, List.map_map] at member
  obtain ⟨field, found, rfl⟩ := List.mem_map.1 member
  constructor
  · simpa using some field found
  · intro dot
    have chars := congrArg String.toList dot
    rw [Function.comp_apply, String.toList_ofList] at chars
    have folded : '.' ∈ field.map fun c => if c = '.' then '_' else c := by simp [chars]
    obtain ⟨c, -, eq⟩ := List.mem_map.1 folded
    by_cases own : c = '.' <;> simp [own] at eq

theorem count_safeName (model : Model) :
    model.safeName.toList.count '/' = model.identity.artifactName.toList.count '/' := by
  have fold : ∀ s : List Char,
      (s.map fun c => if c = '.' then '_' else c).count '/' = s.count '/' := by
    intro s
    induction s with
    | nil => rfl
    | cons c rest ih => by_cases dot : c = '.' <;> simp [dot, ih, List.count_cons]
  rw [safeName_toList, fold, artifactName_toList]
  simp [artifactMarker, identity]

theorem artifact_components_iff (countedA : Path.Counted a.identity.artifactName)
    (countedB : Path.Counted b.identity.artifactName) (output : Path) :
    (a.artifact output).components = (b.artifact output).components ↔
      a.safeName = b.safeName ∧ a.identity.artifactName = b.identity.artifactName := by
  have whole : ∀ {model : Model}, Path.Counted model.identity.artifactName →
      (model.artifact output).components = output.components ++
        (Path.parts model.safeName ++ Path.parts model.identity.artifactName) := by
    intro model counted
    rw [artifact, fileIn, counted.components_child, directory,
      (counted_safeName counted).components_child, List.append_assoc]
  have length : ∀ {model : Model}, Path.Counted model.identity.artifactName →
      (Path.parts model.safeName).length = (Path.parts model.identity.artifactName).length := by
    intro model counted
    rw [counted.length_parts, (counted_safeName counted).length_parts, count_safeName]
  rw [whole countedA, whole countedB, List.append_cancel_left_eq]
  constructor
  · intro same
    have lengths := congrArg List.length same
    rw [List.length_append, List.length_append, length countedA, length countedB] at lengths
    obtain ⟨directories, files⟩ := List.append_inj' same (by omega)
    exact ⟨Path.parts_injective (counted_safeName countedA) (counted_safeName countedB) directories,
      Path.parts_injective countedA countedB files⟩
  · rintro ⟨directories, files⟩
    rw [directories, files]

end Model

namespace Repository

/-- Which models are found as one. Their file names agree just when the identities do or cut one
text differently, so a file name tells the identity where no marker begins in a name. Unless
stretches of it go missing in a path, two lookups in a repository go for one path just when the file
names agree, and two artifacts below an output directory have one path just when the identities do
or cut one text alike. Paths are compared by their components. -/
theorem lookups_coincide_iff (loader : Loader) (repository output : Path) (a b : Model) :
    (a.identity.artifactName = b.identity.artifactName ↔
      a.identity = b.identity ∨ a.identity.CutsBefore b.identity ∨
        b.identity.CutsBefore a.identity) ∧
    (¬artifactMarker.toList <:+: (a.name ++ ".").toList →
      ¬artifactMarker.toList <:+: (b.name ++ ".").toList →
      a.identity.artifactName = b.identity.artifactName → a.identity = b.identity) ∧
    (Path.Counted a.identity.artifactName → Path.Counted b.identity.artifactName →
      ((getModel loader repository a.identity).tried.map Path.components =
          (getModel loader repository b.identity).tried.map Path.components ↔
        a.identity.artifactName = b.identity.artifactName) ∧
      ((a.artifact output).components = (b.artifact output).components ↔
        a.identity = b.identity ∨ a.identity.CutsAlike b.identity ∨
          b.identity.CutsAlike a.identity)) := by
  have files := @Identity.artifactName_eq_iff a.identity b.identity
  refine ⟨files, ?_, fun countedA countedB => ⟨?_, ?_⟩⟩
  · intro plainA plainB file
    rcases files.1 file with same | cuts | cuts
    · exact same
    · exact absurd cuts.marked plainB
    · exact absurd cuts.marked plainA
  · change [(artifactOf repository a.identity).components] =
      [(artifactOf repository b.identity).components] ↔ _
    rw [artifactOf, artifactOf, countedA.components_child, countedB.components_child,
      List.singleton_inj, List.append_cancel_left_eq]
    exact ⟨Path.parts_injective countedA countedB, congrArg Path.parts⟩
  · rw [Model.artifact_components_iff countedA countedB]
    constructor
    · rintro ⟨directory, file⟩
      rcases files.1 file with same | cuts | cuts
      · exact .inl same
      · exact .inr (.inl ((Model.safeName_eq_iff_of_cutsBefore cuts).1 directory))
      · exact .inr (.inr ((Model.safeName_eq_iff_of_cutsBefore cuts).1 directory.symm))
    · rintro (same | cuts | cuts)
      · obtain ⟨name, version⟩ : a.name = b.name ∧ a.version = b.version := Identity.mk.inj same
        exact ⟨by rw [Model.safeName, name, version, Model.safeName], congrArg _ same⟩
      · exact ⟨(Model.safeName_eq_iff_of_cutsBefore cuts.cutsBefore).2 cuts,
          cuts.cutsBefore.artifactName⟩
      · exact ⟨((Model.safeName_eq_iff_of_cutsBefore cuts.cutsBefore).2 cuts).symm,
          cuts.cutsBefore.artifactName.symm⟩

/-- A model without schema modules. -/
def bareModel (name version : String) : Model := ⟨name, version, []⟩

/-- Names with slashes in them, markers with more text between them, and one directory. -/
theorem lookups_coincide_apart :
    Path.Counted (bareModel "d/x" "so.so.1").identity.artifactName ∧
    Path.Counted (bareModel "d/x.so.so" "1").identity.artifactName ∧
    ((bareModel "d/x" "so.so.1").artifact ⟨"o"⟩).components =
      ((bareModel "d/x.so.so" "1").artifact ⟨"o"⟩).components := by
  have countedA : Path.Counted (bareModel "d/x" "so.so.1").identity.artifactName := by decide
  have countedB : Path.Counted (bareModel "d/x.so.so" "1").identity.artifactName := by decide
  have cuts : (bareModel "d/x" "so.so.1").identity.CutsAlike
      (bareModel "d/x.so.so" "1").identity :=
    .inr ⟨"so", 0, by decide, by decide, by decide⟩
  have paths := (lookups_coincide_iff (fun path => .error (.io path .notFound)) ⟨"r"⟩ ⟨"o"⟩
    (bareModel "d/x" "so.so.1") (bareModel "d/x.so.so" "1")).2.2 countedA countedB
  exact ⟨countedA, countedB, paths.2.2 (.inr (.inl cuts))⟩

/-- Two accepted models share lookup, file and directory. Of two others the names differ by a slash,
or one begins with the path of the repository. -/
theorem lookups_coincide_folded :
    (bareModel "x" "so.1").validate = .ok () ∧ (bareModel "x.so" "1").validate = .ok () ∧
    (bareModel "x" "so.1").identity ≠ (bareModel "x.so" "1").identity ∧
    (∀ loader, (getModel loader ⟨"r"⟩ (bareModel "x" "so.1").identity).tried =
      (getModel loader ⟨"r"⟩ (bareModel "x.so" "1").identity).tried) ∧
    (bareModel "x" "so.1").artifact ⟨"o"⟩ = (bareModel "x.so" "1").artifact ⟨"o"⟩ ∧
    (artifactOf ⟨"r"⟩ ⟨"a//b", "1"⟩).components = (artifactOf ⟨"r"⟩ ⟨"a/b", "1"⟩).components ∧
    artifactOf ⟨"/r"⟩ ⟨"/r/m", "1"⟩ = artifactOf ⟨"/r"⟩ ⟨"m", "1"⟩ := by
  have same : artifactOf ⟨"r"⟩ (bareModel "x" "so.1").identity =
      artifactOf ⟨"r"⟩ (bareModel "x.so" "1").identity := by decide
  exact ⟨by decide, by decide, by decide, fun loader => congrArg (fun path => [path]) same,
    by decide, by decide, by decide⟩

end Repository

end ModelForge
