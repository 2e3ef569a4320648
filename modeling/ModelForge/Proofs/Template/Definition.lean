import ModelForge.Proofs.Template.Stretch

/-! What a definition that is a tree of parts means. The dashes of the tags take blanks from the
texts beside them, and what is left are the nodes of the parts. -/
namespace ModelForge.Template

namespace Part

section Nodes

variable {parts : List Part} {done : List Piece}

/-- The nodes of pieces, the last of them first. -/
def nodesBack (done : List Piece) : List Node := Definition.nodesOf (Piece.untrimmed done.reverse)

theorem nodesBack_cons (piece : Piece) (done : List Piece) :
    nodesBack (piece :: done) = nodesBack done ++ nodesBack [piece] := by
  simp [nodesBack, Piece.untrimmed, Definition.nodesOf]

/-- What becomes of a text before a tag. -/
def cutLast (cut : Bool) (done : List Piece) : List Piece := if cut then Piece.trimLast done else done

theorem nodesBack_cutLast (cut : Bool) (s : List Char) (done : List Piece) :
    nodesBack (cutLast cut (.text s :: done)) = nodesBack done ++ textNodes cut s := by
  cases cut with
  | false => exact nodesBack_cons (.text s) done
  | true =>
    show nodesBack (if (Text.trimRight s).isEmpty then done else .text (Text.trimRight s) :: done) =
      nodesBack done ++
        (if (Text.trimRight s).isEmpty then [] else [.text (String.ofList (Text.trimRight s))])
    split
    · rw [List.append_nil]
    · exact nodesBack_cons (.text (Text.trimRight s)) done

theorem cutLast_other (cut : Bool) (other : ∀ s, done.head? ≠ some (.text s)) :
    cutLast cut done = done := by
  cases cut with
  | false => rfl
  | true =>
    cases done with
    | nil => rfl
    | cons piece before =>
      cases piece with
      | text s => exact absurd rfl (other s)
      | _ => rfl

/-- Whether the bodies in some parts mean what they should. -/
def BodiesMean (deep : Nat) : Prop :=
  ∀ body cutEnd, areRegular body = true → depthAll body < deep →
    Definition.nodesOf (Piece.trimmed false cutEnd (pieces body)) = nodesAll cutEnd body

/-- A part that is no text is one tag with one node. -/
theorem piece_eq_tag {part : Part} (noText : part.isText = false)
    (regular : part.isRegular = true) (bodies : BodiesMean part.depth) :
    ∃ node, part.piece = .tag part.cutsBefore false (.node node) ∧
      ∀ cut, part.nodes cut = [node] := by
  cases part with
  | text s => cases noText
  | print slot => exact ⟨_, rfl, fun _ => rfl⟩
  | choice cutElse cutEnd condition yes no =>
    rw [isRegular, Bool.and_eq_true] at regular
    refine ⟨_, rfl, fun cut => ?_⟩
    rw [bodies yes cutElse regular.1 (by rw [Part.depth]; omega),
      bodies no cutEnd regular.2 (by rw [Part.depth]; omega), nodes]
  | each cutBefore cutEnd item container body =>
    rw [isRegular, Bool.and_eq_true] at regular
    refine ⟨_, rfl, fun cut => ?_⟩
    rw [bodies body cutEnd regular.2 (by rw [Part.depth]; omega), nodes]

/-- A tag with what stands right before it. -/
theorem trimFrom_part {part : Part} {node : Node} (done : List Piece) (afterText : Bool)
    (rest : List Part) (piece : part.piece = .tag part.cutsBefore false (.node node)) :
    Piece.trimFrom done afterText false (pieces (part :: rest)) =
      Piece.trimFrom (.tag part.cutsBefore false (.node node) ::
        cutLast (afterText && part.cutsBefore) done) false false (pieces rest) := by
  rw [pieces, piece]
  rfl

theorem areRegular_cons {part : Part} (regular : areRegular (part :: parts) = true) :
    part.isRegular = true ∧ areRegular parts = true ∧
      (part.isText = true → ∀ next ∈ parts.head?, next.isText = false) := by
  rw [areRegular, Bool.and_eq_true, Bool.and_eq_true] at regular
  refine ⟨regular.1.1, regular.2, fun isText next first => ?_⟩
  have apart := regular.1.2
  rw [Option.mem_def] at first
  simpa [isText, first] using apart

theorem BodiesMean.le {more less : Nat} (bodies : BodiesMean more) (le : less ≤ more) :
    BodiesMean less :=
  fun body cutEnd regular deep => bodies body cutEnd regular (by omega)

/-- A dash cuts the text before its tag, and nothing else: what is done when a text has been read
is told apart from what is done otherwise. -/
theorem nodesBack_trimFrom (cutEnd : Bool) (regular : areRegular parts = true)
    (bodies : BodiesMean (depthAll parts)) :
    (∀ done, (∀ s, done.head? ≠ some (.text s)) →
      nodesBack (cutLast cutEnd (Piece.trimFrom done false false (pieces parts))) =
        nodesBack done ++ nodesAll cutEnd parts) ∧
    (∀ done s, (∀ part ∈ parts.head?, part.isText = false) →
      nodesBack (cutLast cutEnd (Piece.trimFrom (.text s :: done) true false (pieces parts))) =
        nodesBack done ++ (textNodes ((parts.head?.map cutsBefore).getD cutEnd) s ++
          nodesAll cutEnd parts)) := by
  induction parts with
  | nil =>
    constructor
    · intro done other
      rw [nodesAll, List.append_nil]
      exact congrArg nodesBack (cutLast_other cutEnd other)
    · intro done s _
      rw [nodesAll, List.append_nil]
      exact nodesBack_cutLast cutEnd s done
  | cons part rest ih =>
    obtain ⟨one, more, apart⟩ := areRegular_cons regular
    obtain ⟨otherwise, behindText⟩ := ih more (bodies.le (by rw [depthAll]; omega))
    have tagged (noText : part.isText = false) (done : List Piece) (afterText : Bool) :
        nodesBack (cutLast cutEnd (Piece.trimFrom done afterText false (pieces (part :: rest)))) =
          nodesBack (cutLast (afterText && part.cutsBefore) done) ++
            nodesAll cutEnd (part :: rest) := by
      obtain ⟨node, piece, alone⟩ := piece_eq_tag noText one (bodies.le (by rw [depthAll]; omega))
      rw [trimFrom_part done afterText rest piece, otherwise _ (by simp), nodesBack_cons, nodesAll,
        alone, List.append_assoc]
      rfl
    constructor
    · intro done other
      cases isText : part.isText with
      | false => exact tagged isText done false
      | true =>
        cases part with
        | text s =>
          rw [nodesAll, nodes]
          exact behindText done s (apart rfl)
        | _ => cases isText
    · intro done s noText
      rw [tagged (noText part rfl) _ true, Bool.true_and, nodesBack_cutLast, List.append_assoc]
      rfl

/-- Bodies mean their parts, however deep they nest. -/
theorem bodiesMean (deep : Nat) : BodiesMean deep := by
  induction deep with
  | zero =>
    intro body cutEnd regular less
    omega
  | succ deep ih =>
    intro body cutEnd regular less
    exact (nodesBack_trimFrom cutEnd regular (ih.le (by omega))).1 [] (by simp)

/-- Whether pieces are texts and nodes only. -/
def AllNodes (done : List Piece) : Prop :=
  ∀ piece ∈ done, (∃ s, piece = .text s) ∨ ∃ before after node, piece = .tag before after (.node node)

theorem AllNodes.cutLast (all : AllNodes done) (cut : Bool) : AllNodes (cutLast cut done) := by
  intro piece member
  cases cut with
  | false => exact all piece member
  | true =>
    cases done with
    | nil => cases member
    | cons first before =>
      have kept (piece : Piece) (member : piece ∈ before) := all piece (List.mem_cons_of_mem _ member)
      cases first with
      | text s =>
        simp only [Part.cutLast, Piece.trimLast, if_true] at member
        split at member
        · exact kept piece member
        · rcases List.mem_cons.1 member with rfl | member
          · exact .inl ⟨_, rfl⟩
          · exact kept piece member
      | _ => exact all piece member

theorem AllNodes.trimFrom (parts : List Part) (all : AllNodes done) (afterText : Bool) :
    AllNodes (Piece.trimFrom done afterText false (pieces parts)) := by
  have cons {piece : Piece} {done : List Piece} (all : AllNodes done) (first : AllNodes [piece]) :
      AllNodes (piece :: done) := by
    intro other member
    rcases List.mem_cons.1 member with rfl | member
    · exact first other List.mem_cons_self
    · exact all other member
  induction parts generalizing done afterText with
  | nil => exact all
  | cons part rest ih =>
    cases part with
    | text s => exact ih (cons all (by simp [AllNodes])) true
    | print slot => exact ih (cons (all.cutLast _) (by simp [AllNodes])) false
    | choice cutElse cutEnd condition yes no =>
      exact ih (cons (all.cutLast _) (by simp [AllNodes])) false
    | each cutBefore cutEnd item container body =>
      exact ih (cons (all.cutLast _) (by simp [AllNodes])) false

theorem AllNodes.untrimmed {pieces : List Piece} (all : AllNodes pieces) :
    ∃ nodes : List Node, Piece.untrimmed pieces = nodes.map Item.node := by
  induction pieces with
  | nil => exact ⟨[], rfl⟩
  | cons piece rest ih =>
    obtain ⟨nodes, eq⟩ := ih fun piece member => all piece (List.mem_cons_of_mem _ member)
    rcases all piece List.mem_cons_self with ⟨s, rfl⟩ | ⟨before, after, node, rfl⟩
    · exact ⟨.text (String.ofList s) :: nodes, congrArg _ eq⟩
    · exact ⟨node :: nodes, congrArg _ eq⟩

/-- Texts and nodes that define no block make a definition of nodes alone. -/
theorem ofItems_allNodes {pieces : List Piece} (all : AllNodes pieces)
    (noBlocks : Definition.blocksOfAll (Definition.nodesOf (Piece.untrimmed pieces)) = []) :
    Definition.ofItems (Piece.untrimmed pieces) =
      some ⟨none, [], [], [], Definition.nodesOf (Piece.untrimmed pieces)⟩ := by
  obtain ⟨nodes, eq⟩ := all.untrimmed
  have nodesOf : Definition.nodesOf (nodes.map Item.node) = nodes := by
    rw [Definition.nodesOf, List.filterMap_map]
    exact List.filterMap_some
  have noMacros : nodes.filterMap (fun _ => (none : Option MacroDefinition)) = [] :=
    List.filterMap_eq_nil_iff.2 fun _ _ => rfl
  rw [eq, nodesOf] at noBlocks
  rw [eq, nodesOf, Definition.ofItems]
  simp [nodesOf, noBlocks, noMacros, List.filterMap_map, List.findSome?_map, Function.comp_def,
    Definition.allDistinct]

/-- No part defines a block. -/
theorem blocksOfAll_nodesAll (cutEnd : Bool) (parts : List Part) :
    Definition.blocksOfAll (nodesAll cutEnd parts) = [] := by
  have append (before after : List Node) : Definition.blocksOfAll (before ++ after) =
      Definition.blocksOfAll before ++ Definition.blocksOfAll after := by
    induction before with
    | nil => rfl
    | cons node rest ih => simp [Definition.blocksOfAll, ih]
  have texts (cut : Bool) (s : List Char) : Definition.blocksOfAll (textNodes cut s) = [] := by
    unfold textNodes
    split
    · split <;> simp [Definition.blocksOfAll, Definition.blocksOf]
    · simp [Definition.blocksOfAll, Definition.blocksOf]
  induction parts with
  | nil => rfl
  | cons part rest ih =>
    rw [nodesAll, append, ih, List.append_nil]
    cases part with
    | text s => exact texts _ s
    | _ => simp [nodes, Definition.blocksOfAll, Definition.blocksOf]

end Nodes

/-- A regular definition that begins with a text means its parts. -/
theorem parse?_eq {source : String} {parts : List Part} {c : Char} {more : List Char}
    (spells : source.toList = spelledAll parts) (regular : areRegular parts = true)
    (front : spelledAll parts = c :: more) (notSpace : Phrase.isSpace c = false)
    (noBrace : c ≠ '\x7b') :
    Definition.parse? source = some ⟨none, [], [], [], nodesAll false parts⟩ := by
  have means : Definition.nodesOf (Piece.trimmed false false (pieces parts)) =
      nodesAll false parts :=
    bodiesMean (depthAll parts + 1) parts false regular (Nat.lt_succ_self _)
  have all : AllNodes (Piece.trimFrom [] false false (pieces parts)).reverse := by
    intro piece member
    have none : AllNodes [] := by simp [AllNodes]
    exact none.trimFrom parts false piece (List.mem_reverse.1 member)
  have noBlocks : Definition.blocksOfAll
      (Definition.nodesOf (Piece.trimmed false false (pieces parts))) = [] := by
    rw [means, blocksOfAll_nodesAll]
  rw [parse?_spelled spells regular front notSpace noBrace, ← means]
  exact ofItems_allNodes all noBlocks

end Part

end ModelForge.Template
