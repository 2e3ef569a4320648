import ModelForge.Proofs.Yaml.Written
import ModelForge.Yaml.Node

/-! The lines of a mapping are put together to a mapping. -/
namespace ModelForge.Yaml

open Scan (mappingText mappingKinds entryKinds IsKey)

variable {limit : Nat} {handles : List (String × String)} {anchors : List (String × Node)}
  {tokens : List Token} {after : List TokenKind} {entries : List (String × String)}

/-- A pair of scalars without tags for a key and a value, with the styles in which they are
written. -/
def Stands (pair : Node × Node) (entry : String × String) : Prop :=
  (∃ mark, pair.1 = .scalar mark none entry.1 .plain) ∧
    ∃ mark, pair.2 = .scalar mark none entry.2 (Written.style entry.2)

theorem length_mappingKinds (entries : List (String × String)) :
    (mappingKinds entries).length = 4 * entries.length := by
  induction entries with
  | nil => rfl
  | cons entry entries ih =>
    rw [mappingKinds, List.flatMap_cons, List.length_append, ih]
    simp only [entryKinds, List.length_cons, List.length_nil]
    omega

namespace Build

/-- One entry of a block mapping. -/
theorem run_blockEntries_cons (levels : Nat) {opened name colon text : Token} {key value : String}
    {style : Style} (first : opened.kind = .key) (second : name.kind = .scalar key .plain)
    (third : colon.kind = .value) (fourth : text.kind = .scalar value style) :
    (blockEntries (node (levels + 1)) (limit + 1)).run
        ⟨opened :: name :: colon :: text :: tokens, handles, anchors, none⟩ =
      let (pairs, s) := (blockEntries (node (levels + 1)) limit).run ⟨tokens, handles, anchors, none⟩
      ((.scalar name.start none key .plain, .scalar text.start none value style) :: pairs, s) := by
  obtain ⟨_, _, _⟩ := opened
  obtain ⟨_, _, _⟩ := name
  obtain ⟨_, _, _⟩ := colon
  obtain ⟨_, _, _⟩ := text
  subst first second third fourth
  rfl

theorem run_blockEntries (handles : List (String × String)) (anchors : List (String × Node))
    (levels : Nat) (enough : entries.length < limit)
    (own : tokens.map Token.kind = mappingKinds entries ++ .blockEnd :: after) :
    ∃ pairs rest, (blockEntries (node (levels + 1)) limit).run ⟨tokens, handles, anchors, none⟩ =
        (pairs, ⟨rest, handles, anchors, none⟩) ∧
      rest.map Token.kind = after ∧ List.Forall₂ Stands pairs entries := by
  induction entries generalizing tokens limit with
  | nil =>
    obtain ⟨limit, rfl⟩ := Nat.exists_eq_add_one_of_ne_zero (Nat.ne_zero_of_lt enough)
    obtain ⟨⟨_, _, _⟩, rest, rfl, last, behind⟩ := List.map_eq_cons_iff.1 own
    subst last
    exact ⟨[], rest, rfl, behind, .nil⟩
  | cons entry entries ih =>
    rw [List.length_cons] at enough
    obtain ⟨limit, rfl⟩ := Nat.exists_eq_add_one_of_ne_zero (Nat.ne_zero_of_lt enough)
    obtain ⟨opened, tokens, rfl, first, own⟩ := List.map_eq_cons_iff.1 own
    obtain ⟨name, tokens, rfl, second, own⟩ := List.map_eq_cons_iff.1 own
    obtain ⟨colon, tokens, rfl, third, own⟩ := List.map_eq_cons_iff.1 own
    obtain ⟨text, tokens, rfl, fourth, own⟩ := List.map_eq_cons_iff.1 own
    have fewer : entries.length < limit := by omega
    obtain ⟨pairs, rest, runs, behind, stand⟩ := ih fewer own
    refine ⟨(.scalar name.start none entry.1 .plain,
      .scalar text.start none entry.2 (Written.style entry.2)) :: pairs, rest, ?_, behind,
      .cons ⟨⟨name.start, rfl⟩, text.start, rfl⟩ stand⟩
    rw [run_blockEntries_cons levels first second third fourth, runs]

/-- A mapping of scalars is the only document. -/
theorem ofTokens_mapping
    (own : tokens.map Token.kind =
      .blockMappingStart :: (mappingKinds entries ++ [TokenKind.blockEnd, .streamEnd])) :
    ∃ mark pairs, Document.ofTokens tokens none = ⟨.mapping mark none pairs, none, true⟩ ∧
      List.Forall₂ Stands pairs entries := by
  obtain ⟨⟨_, mark, stop⟩, tokens, rfl, first, others⟩ := List.map_eq_cons_iff.1 own
  subst first
  have long : entries.length < 3 * (tokens.length + 1) + 2 := by
    have length := congrArg List.length others
    have kinds := length_mappingKinds entries
    simp only [List.length_map, List.length_append, List.length_cons, List.length_nil] at length
    omega
  obtain ⟨pairs, rest, runs, behind, stand⟩ := run_blockEntries [] []
    (3 * (tokens.length + 1) + 1) long others
  obtain ⟨⟨_, start, ends⟩, rest, rfl, last, behind⟩ := List.map_eq_cons_iff.1 behind
  obtain rfl := List.map_eq_nil_iff.1 behind
  subst last
  refine ⟨mark, pairs, ?_, stand⟩
  have root : (Build.root (3 * (tokens.length + 1) + 3)).run
      ⟨⟨.blockMappingStart, mark, stop⟩ :: tokens, [], [], none⟩ =
        (.mapping mark none pairs, ⟨[⟨.streamEnd, start, ends⟩], [], [], none⟩) := by
    have opens : (Build.root (3 * (tokens.length + 1) + 3)).run
        ⟨⟨.blockMappingStart, mark, stop⟩ :: tokens, [], [], none⟩ =
          let (pairs, s) := (blockEntries (node (3 * (tokens.length + 1) + 2))
            (3 * (tokens.length + 1) + 2)).run ⟨tokens, [], [], none⟩
          (.mapping mark none pairs, s) := rfl
    rw [opens, runs]
  rw [Document.ofTokens, List.length_cons, StateT.run_bind, root]
  rfl

end Build

open Build

/-- The lines of a mapping are a document of their own. -/
theorem ofText_mapping {entry : String × String} (own : ∀ e ∈ entry :: entries, IsKey e.1.toList) :
    ∃ mark pairs, Document.ofText (String.ofList (mappingText (entry :: entries))) =
        ⟨.mapping mark none pairs, none, true⟩ ∧ List.Forall₂ Stands pairs (entry :: entries) := by
  obtain ⟨tokens, scanned, kinds⟩ := Scan.scan_entries own
  obtain ⟨mark, pairs, built, stand⟩ := ofTokens_mapping kinds
  refine ⟨mark, pairs, ?_, stand⟩
  rw [Document.ofText, String.toList_ofList, scanned]
  exact built

end ModelForge.Yaml
