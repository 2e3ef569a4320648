import ModelForge.Proofs.Template.Part

/-! Reading a definition that is a tree of parts. Every part is read as one piece, whatever stands
behind it, and so a definition that is spelled out part by part gives the pieces of its parts. -/
namespace ModelForge.Template

open ModelForge.Text (Reader)
open ModelForge.Text.Reader
open Phrase (Condition Slot Closes isWord spaces)
open Definition (Surroundings)

namespace Part

section Stretches

variable {depth : Nat} {inner : Surroundings → Reader (List Piece)} {within : Surroundings}
  {s rest : List Char} {c : Char}

theorem stretch_text (nonempty : s ≠ []) (quiet : isQuiet s = true) (opens : Opens rest) :
    Definition.stretch depth inner within (s ++ rest) = some ([.text s], rest) := by
  rw [Definition.stretch, orElse_some (text_append nonempty quiet opens)]

theorem superBlock_none (outside : within.inBlock = false) (s : List Char) :
    Definition.onlyIf within.inBlock Definition.superBlock s = none := by
  rw [outside]
  rfl

theorem stretch_print (slot : Slot) (outside : within.inBlock = false) :
    Definition.stretch (depth + 1) inner within ((print slot).spelled ++ rest) =
      some ([(print slot).piece], rest) := by
  have shape : (print slot).spelled ++ rest =
      "\x7b\x7b".toList ++ ' ' :: (slot.text.toList ++ (" \x7d\x7d".toList ++ rest)) := by
    simp [spelled]
  obtain ⟨c, more, front, start, -⟩ := slot.head (" \x7d\x7d".toList ++ rest)
  have blank : spaces (' ' :: (slot.text.toList ++ (" \x7d\x7d".toList ++ rest))) =
      some ((), slot.text.toList ++ (" \x7d\x7d".toList ++ rest)) := by
    rw [front]
    exact Phrase.spaces_one _ (Phrase.isSpace_of_isWordStart start)
  have value : Definition.expression (depth + 1)
      (slot.text.toList ++ (" \x7d\x7d".toList ++ rest)) =
        some (slot.value, " \x7d\x7d".toList ++ rest) := by
    have condition : Phrase.phrase (depth + 1) .condition
        (slot.text.toList ++ (" \x7d\x7d".toList ++ rest)) =
          some (slot.value, " \x7d\x7d".toList ++ rest) :=
      Phrase.condition_append (.holds slot) (.print ('\x7d' :: rest))
    rw [Definition.expression, orElse_some condition]
  have blankBehind : spaces (" \x7d\x7d".toList ++ rest) = some ((), "\x7d\x7d".toList ++ rest) :=
    Phrase.spaces_one _ (by decide)
  have noDash : exactly "\x7b\x7b-" ("\x7b\x7b".toList ++ ' ' ::
      (slot.text.toList ++ (" \x7d\x7d".toList ++ rest))) = none := by simp [exactly]
  have noDashBehind : exactly "-\x7d\x7d" ("\x7d\x7d".toList ++ rest) = none := by simp [exactly]
  have noText : Definition.text ((print slot).spelled ++ rest) = none := by
    rw [shape]
    exact (Opens.print _).text_none
  have read : Definition.print (depth + 1) ((print slot).spelled ++ rest) =
      some ([(print slot).piece], rest) := by
    rw [shape, Definition.print, bind_some (dashed_without noDash), bind_some blank,
      bind_some value, bind_some blankBehind, bind_some (dashed_without noDashBehind)]
    rfl
  rw [Definition.stretch, orElse_none noText, orElse_none (superBlock_none outside _),
    orElse_some read]

theorem print_tag_none (cut : Bool) :
    Definition.print depth (opening cut ++ ' ' :: s) = none := by
  have first : exactly "\x7b\x7b-" (opening cut ++ ' ' :: s) = none := by
    cases cut <;> simp [exactly, opening]
  have second : exactly "\x7b\x7b" (opening cut ++ ' ' :: s) = none := by
    cases cut <;> simp [exactly, opening]
  rw [Definition.print, bind_none (dashed_none first second)]

theorem comment_tag_none (cut : Bool) : Definition.comment (opening cut ++ ' ' :: s) = none := by
  have first : exactly "\x7b#-" (opening cut ++ ' ' :: s) = none := by
    cases cut <;> simp [exactly, opening]
  have second : exactly "\x7b#" (opening cut ++ ' ' :: s) = none := by
    cases cut <;> simp [exactly, opening]
  rw [Definition.comment, bind_none (dashed_none first second)]

/-- The keywords that begin something. -/
def keywords : List String :=
  ["raw", "if", "for", "set", "set_global", "filter", "block", "include", "break", "continue",
    "macro"]

theorem tagged_ends {α : Type} {content : Reader α} {keyword : String} (ends : Ends rest)
    (member : keyword ∈ keywords) : Definition.tagged keyword content rest = none := by
  have first : keyword.toList ≠ [] ∧ keyword.toList.head? ≠ some 'e' := by
    revert member
    revert keyword
    decide
  cases ends with
  | nothing => rfl
  | tag cut more => exact tagged_none (exactly_none more first.2 first.1) (by decide)

/-- A tag that ends a body begins nothing. -/
theorem stretch_ends (outside : within.inBlock = false) (ends : Ends rest) :
    Definition.stretch depth inner within rest = none := by
  have noTag {α : Type} {content : Reader α} (keyword : String) (member : keyword ∈ keywords) :
      Definition.tagged keyword content rest = none := tagged_ends ends member
  have noBare (keyword : String) (member : keyword ∈ keywords) :
      Definition.bareTag keyword rest = none := by
    rw [Definition.bareTag, bind_none (noTag keyword member)]
  have only {allowed : Bool} {reader : Reader (List Piece)} (refuses : reader rest = none) :
      Definition.onlyIf allowed reader rest = none := by
    cases allowed with
    | true => exact refuses
    | false => rfl
  have noPrint : Definition.print depth rest = none := by
    cases ends with
    | nothing => rfl
    | tag cut more => exact print_tag_none cut
  have noComment : Definition.comment rest = none := by
    cases ends with
    | nothing => rfl
    | tag cut more => exact comment_tag_none cut
  have noRaw : Definition.rawText rest = none := by
    rw [Definition.rawText, bind_none (noBare "raw" (by decide))]
  have noBranch : Definition.branch depth inner within rest = none := by
    rw [Definition.branch, bind_none (noTag "if" (by decide))]
  have noLoop : Definition.loop depth inner within rest = none := by
    rw [Definition.loop, bind_none (noTag "for" (by decide))]
  have noAssign (keyword : String) (toTemplate : Bool) (member : keyword ∈ keywords) :
      Definition.assign depth keyword toTemplate rest = none := by
    rw [Definition.assign, bind_none (noTag keyword member)]
  have noFilter : Definition.filterSection depth inner within rest = none := by
    rw [Definition.filterSection, bind_none (noTag "filter" (by decide))]
  have noBlock : Definition.block inner within rest = none := by
    rw [Definition.block, bind_none (noTag "block" (by decide))]
  have noInsert : Definition.insert rest = none := by
    rw [Definition.insert, bind_none (noTag "include" (by decide))]
  have noExit : Definition.exitLoop rest = none := by
    rw [Definition.exitLoop, bind_none (noBare "break" (by decide))]
  have noRound : Definition.nextRound rest = none := by
    rw [Definition.nextRound, bind_none (noBare "continue" (by decide))]
  have noMacro : Definition.macroDefinition inner within rest = none := by
    rw [Definition.macroDefinition, bind_none (noTag "macro" (by decide))]
  rw [Definition.stretch, orElse_none ends.opens.text_none,
    orElse_none (superBlock_none outside rest), orElse_none noPrint, orElse_none noComment,
    orElse_none noRaw, orElse_none noBranch, orElse_none noLoop,
    orElse_none (noAssign "set" false (by decide)),
    orElse_none (noAssign "set_global" true (by decide)), orElse_none noFilter,
    orElse_none (only noBlock), orElse_none noInsert, orElse_none (only noExit),
    orElse_none (only noRound), only noMacro]

/-- A tag that is no copied text is a choice, a loop, or something else. -/
theorem stretch_tag (outside : within.inBlock = false) (cut : Bool) (other : c ≠ 'r')
    (notSpace : Phrase.isSpace c = false) :
    ∃ others : Reader (List Piece),
      Definition.stretch depth inner within (opening cut ++ ' ' :: c :: s) =
        (Definition.branch depth inner within <|> Definition.loop depth inner within <|> others)
          (opening cut ++ ' ' :: c :: s) := by
  have noRaw : Definition.rawText (opening cut ++ ' ' :: c :: s) = none := by
    have raw : exactly "raw" (c :: s) = none :=
      exactly_none s (by simpa using other.symm) (by decide)
    rw [Definition.rawText, bind_none (bareTag_none raw notSpace)]
  rw [Definition.stretch, orElse_none (Opens.tag cut (c :: s)).text_none,
    orElse_none (superBlock_none outside _), orElse_none (print_tag_none cut),
    orElse_none (comment_tag_none cut), orElse_none noRaw]
  exact ⟨_, rfl⟩

theorem blanks_one (more : List Char) (notSpace : Phrase.isSpace c = false) :
    Definition.blanks (' ' :: c :: more) = some ((), c :: more) := by
  have read : some' Phrase.isSpace ([' '] ++ c :: more) = some ([' '], c :: more) :=
    some'_append (by simp) (List.forall_mem_singleton.2 (by decide)) (by simpa using notSpace)
  rw [List.singleton_append] at read
  rw [Definition.blanks, bind_some read]
  rfl

theorem blanks_slot (slot : Slot) (tail : List Char) :
    Definition.blanks (' ' :: (slot.text.toList ++ tail)) = some ((), slot.text.toList ++ tail) := by
  obtain ⟨c, more, front, start, -⟩ := slot.head tail
  rw [front]
  exact blanks_one more (Phrase.isSpace_of_isWordStart start)

theorem blanks_condition (condition : Condition) (tail : List Char) :
    Definition.blanks (' ' :: (condition.text.toList ++ tail)) =
      some ((), condition.text.toList ++ tail) := by
  cases condition with
  | holds slot => exact blanks_slot slot tail
  | equals slot s quotable =>
    rw [Condition.equals_append]
    exact blanks_slot slot _

/-- What a body is read as. -/
def Reads (inner : Surroundings → Reader (List Piece)) (within : Surroundings)
    (parts : List Part) : Prop :=
  ∀ rest, Ends rest → inner within (spelledAll parts ++ rest) = some (pieces parts, rest)

theorem otherwise_append (limit : Nat) (trims : within.trims = true) (cutElse cutEnd : Bool)
    {no : List Part} (readsNo : Reads inner within.nested no) :
    Definition.otherwise depth inner within (limit + 1)
        (tag cutElse "else".toList ++ (spelledAll no ++ (tag cutEnd "endif".toList ++ rest))) =
      some ((cutElse, Definition.nodesOf (Piece.trimmed false cutEnd (pieces no)), false),
        rest) := by
  have noEnd : Definition.bareTag "endif"
      (tag cutElse "else".toList ++ (spelledAll no ++ (tag cutEnd "endif".toList ++ rest))) =
        none := by
    have other (more : List Char) : exactly "endif" ('e' :: 'l' :: more) = none := by simp [exactly]
    rw [tag_append]
    exact bareTag_none (other _) (by decide)
  have ends : Ends (tag cutEnd "endif".toList ++ rest) := ends_tag cutEnd (by decide) rest
  have body : Definition.body within false cutEnd (pieces no) =
      Definition.nodesOf (Piece.trimmed false cutEnd (pieces no)) := by
    rw [Definition.body, trims]
    rfl
  rw [Definition.otherwise, orElse_none (bind_none noEnd), orElse_some]
  rw [bind_some (bareTag_append (by decide))]
  dsimp only
  rw [bind_some (readsNo _ ends), bind_some (bareTag_append (by decide)), ← body]
  rfl

theorem stretch_choice (outside : within.inBlock = false) (trims : within.trims = true)
    {cutElse cutEnd : Bool} {condition : Condition} {yes no : List Part}
    (readsYes : Reads inner within.nested yes) (readsNo : Reads inner within.nested no) :
    Definition.stretch (depth + 1) inner within
        ((choice cutElse cutEnd condition yes no).spelled ++ rest) =
      some ([(choice cutElse cutEnd condition yes no).piece], rest) := by
  obtain ⟨behind, otherwise, ends⟩ : ∃ behind,
      tag cutElse "else".toList ++ (spelledAll no ++ (tag cutEnd "endif".toList ++ rest)) =
        behind ∧ Ends behind := ⟨_, rfl, ends_tag cutElse (by decide) _⟩
  have shape : (choice cutElse cutEnd condition yes no).spelled ++ rest =
      tag false ("if".toList ++ ' ' :: condition.text.toList) ++ (spelledAll yes ++ behind) := by
    rw [spelled, ← otherwise]
    simp only [List.append_assoc]
  have test : Definition.condition (depth + 1)
      (' ' :: condition.text.toList ++ (closing ++ (spelledAll yes ++ behind))) =
        some (condition.value, closing ++ (spelledAll yes ++ behind)) := by
    rw [Definition.condition, List.cons_append, bind_some (blanks_condition condition _)]
    exact Phrase.condition_append condition (.tag _)
  have read : Definition.branch (depth + 1) inner within
      ((choice cutElse cutEnd condition yes no).spelled ++ rest) =
        some ([(choice cutElse cutEnd condition yes no).piece], rest) := by
    have nonempty : behind.length ≠ 0 := by
      rw [← otherwise]
      simp [tag]
    obtain ⟨limit, length⟩ := Nat.exists_eq_succ_of_ne_zero nonempty
    have noRead : Definition.otherwise (depth + 1) inner within behind.length behind =
        some ((cutElse, Definition.nodesOf (Piece.trimmed false cutEnd (pieces no)), false),
          rest) := by
      rw [length, ← otherwise, otherwise_append limit trims cutElse cutEnd readsNo]
    rw [shape, Definition.branch, bind_some (tagged_append (by decide) test)]
    dsimp only
    rw [bind_some (readsYes behind ends)]
    refine (bind_some (by exact noRead)).trans ?_
    rw [Definition.body, trims]
    rfl
  rw [shape, tag_append] at read ⊢
  have other : 'i' ≠ 'r' := by decide
  obtain ⟨others, eq⟩ := stretch_tag outside false other rfl
  exact eq.trans (orElse_some read)

/-- The head of a loop. -/
theorem head_append (cut : Bool) {item : String} (isName : isWord item.toList = true)
    (container : Slot) (rest : List Char) :
    Definition.tagged "for" (do
        Definition.blanks
        let first ← Phrase.word
        let second ← optional (do exactly ","; spaces; Phrase.word)
        Definition.blanks
        exactly "in"
        Definition.blanks
        let container ← Phrase.filteredSum (Phrase.phrase depth) <|> Phrase.phrase depth .list
        pure (first, second, container))
      (tag cut ("for".toList ++ ' ' :: (item.toList ++ ' ' :: ("in".toList ++ ' ' ::
        container.text.toList))) ++ rest) =
      some ((cut, (item, none, container.value), false), rest) := by
  obtain ⟨c, more, front, start⟩ := Phrase.head_isWord isName
  have blank (tail : List Char) :
      Definition.blanks (' ' :: (item.toList ++ tail)) = some ((), item.toList ++ tail) := by
    rw [front]
    exact blanks_one (more ++ tail) (Phrase.isSpace_of_isWordStart start)
  have name (tail : List Char) :
      Phrase.word (item.toList ++ ' ' :: tail) = some (item, ' ' :: tail) := by
    have read : Phrase.word (item.toList ++ ' ' :: tail) =
        some (String.ofList item.toList, ' ' :: tail) :=
      Phrase.word_append isName (by simp [Phrase.isWordPart])
    rwa [String.ofList_toList] at read
  have noComma (tail : List Char) :
      (do exactly ","; spaces; Phrase.word) (' ' :: tail) = none := by
    rw [bind_none (exactly_none tail (by decide) (by decide))]
  have value : (Phrase.filteredSum (Phrase.phrase depth) <|> Phrase.phrase depth .list)
      (container.text.toList ++ (closing ++ rest)) = some (container.value, closing ++ rest) :=
    orElse_some (Phrase.filteredSum_append container (.closing (.tag rest)))
  have blankIn (tail : List Char) :
      Definition.blanks (' ' :: ("in".toList ++ tail)) = some ((), "in".toList ++ tail) :=
    blanks_one ('n' :: tail) (by decide)
  refine tagged_append (by decide) ?_
  have shape : ' ' :: (item.toList ++ ' ' :: ("in".toList ++ ' ' :: container.text.toList)) ++
      (closing ++ rest) = ' ' :: (item.toList ++ ' ' :: ("in".toList ++ ' ' ::
        (container.text.toList ++ (closing ++ rest)))) := by
    simp
  rw [shape, bind_some (blank _), bind_some (name _), bind_some (optional_none (noComma _)),
    bind_some (blankIn _), bind_some (exactly_append "in" _), bind_some (blanks_slot container _),
    bind_some value]
  rfl

theorem stretch_each (outside : within.inBlock = false) (trims : within.trims = true)
    {cutBefore cutEnd : Bool} {item : String} {container : Slot} {body : List Part}
    (isName : isWord item.toList = true) (readsBody : Reads inner (within.inside .loop) body) :
    Definition.stretch (depth + 1) inner within
        ((each cutBefore cutEnd item container body).spelled ++ rest) =
      some ([(each cutBefore cutEnd item container body).piece], rest) := by
  have ends : Ends (tag cutEnd "endfor".toList ++ rest) := ends_tag cutEnd (by decide) rest
  have shape : (each cutBefore cutEnd item container body).spelled ++ rest =
      tag cutBefore ("for".toList ++ ' ' :: (item.toList ++ ' ' :: ("in".toList ++ ' ' ::
        container.text.toList))) ++ (spelledAll body ++ (tag cutEnd "endfor".toList ++ rest)) := by
    simp [spelled]
  have noElse : (do
      let _ ← Definition.bareTag "else"
      inner { within.inside .loop with trims := false })
        (tag cutEnd "endfor".toList ++ rest) = none := by
    have other (more : List Char) : exactly "else" ('e' :: 'n' :: more) = none := by simp [exactly]
    rw [tag_append]
    exact bind_none (bareTag_none (other _) (by decide))
  have noBranch : Definition.branch (depth + 1) inner within
      ((each cutBefore cutEnd item container body).spelled ++ rest) = none := by
    rw [shape, tag_append, Definition.branch]
    exact bind_none (tagged_none (exactly_none _ (by decide) (by decide)) (by decide))
  have read : Definition.loop (depth + 1) inner within
      ((each cutBefore cutEnd item container body).spelled ++ rest) =
        some ([(each cutBefore cutEnd item container body).piece], rest) := by
    rw [shape, Definition.loop, bind_some (head_append cutBefore isName container _)]
    dsimp only
    rw [bind_some (readsBody _ ends), bind_some (many_nil noElse),
      bind_some (bareTag_append (by decide)), Definition.body, trims]
    rfl
  rw [shape, tag_append] at read noBranch ⊢
  have other : 'f' ≠ 'r' := by decide
  obtain ⟨others, eq⟩ := stretch_tag outside cutBefore other rfl
  exact eq.trans ((orElse_none noBranch).trans (orElse_some read))

end Stretches

section Bodies

variable {depth nesting : Nat} {inner : Surroundings → Reader (List Piece)}
  {within : Surroundings} {part : Part} {parts : List Part} {rest : List Char}

theorem opening_ne_nil (cut : Bool) : opening cut ≠ [] := by
  cases cut <;> simp [opening]

theorem spelled_ne_nil (regular : part.isRegular = true) : part.spelled ≠ [] := by
  cases part with
  | text s =>
    rw [isRegular, Bool.and_eq_true] at regular
    rw [spelled]
    simpa using regular.1
  | print slot => simp [spelled]
  | choice cutElse cutEnd condition yes no => simp [spelled, tag, opening_ne_nil]
  | each cutBefore cutEnd item container body => simp [spelled, tag, opening_ne_nil]

/-- A part that is no text opens a tag. -/
theorem opens_spelled (noText : part.isText = false) (rest : List Char) :
    Opens (part.spelled ++ rest) := by
  cases part with
  | text s => cases noText
  | print slot => exact .print _
  | choice cutElse cutEnd condition yes no =>
    simp only [spelled, List.append_assoc, tag_append]
    exact .tag false _
  | each cutBefore cutEnd item container body =>
    simp only [spelled, List.append_assoc, tag_append]
    exact .tag cutBefore _

theorem opens_spelledAll (noText : (parts.head?.map isText).getD false = false)
    (ends : Ends rest) : Opens (spelledAll parts ++ rest) := by
  cases parts with
  | nil => exact ends.opens
  | cons part others =>
    rw [spelledAll, List.append_assoc]
    exact opens_spelled (by simpa using noText) _

/-- One part, given how the bodies in it are read. -/
theorem stretch_part (outside : within.inBlock = false) (trims : within.trims = true)
    (regular : part.isRegular = true) (opens : part.isText = true → Opens rest)
    (bodies : ∀ body within, within.inBlock = false → within.trims = true →
      areRegular body = true → depthAll body < part.depth →
        Reads inner within body) :
    Definition.stretch (depth + 1) inner within (part.spelled ++ rest) =
      some ([part.piece], rest) := by
  cases part with
  | text s =>
    rw [isRegular, Bool.and_eq_true] at regular
    have nonempty : s ≠ [] := by simpa using regular.1
    exact stretch_text nonempty regular.2 (opens rfl)
  | print slot => exact stretch_print slot outside
  | choice cutElse cutEnd condition yes no =>
    rw [isRegular, Bool.and_eq_true] at regular
    refine stretch_choice outside trims ?_ ?_
    · exact bodies yes within.nested outside trims regular.1 (by rw [Part.depth]; omega)
    · exact bodies no within.nested outside trims regular.2 (by rw [Part.depth]; omega)
  | each cutBefore cutEnd item container body =>
    rw [isRegular, Bool.and_eq_true] at regular
    refine stretch_each outside trims regular.1 ?_
    exact bodies body (within.inside .loop) rfl trims regular.2 (by rw [Part.depth]; omega)

/-- Parts that follow each other, as deep as they nest. -/
theorem stretches_append (deep : depthAll parts < nesting) (outside : within.inBlock = false)
    (trims : within.trims = true) (regular : areRegular parts = true) :
    Reads (Definition.stretches (depth + 1) nesting) within parts := by
  induction nesting generalizing parts within with
  | zero => omega
  | succ nesting ih =>
    intro rest ends
    have stops : Definition.stretch (depth + 1) (Definition.stretches (depth + 1) nesting) within
        rest = none := stretch_ends outside ends
    have all : many (Definition.stretch (depth + 1) (Definition.stretches (depth + 1) nesting)
        within) (spelledAll parts ++ rest) = some (parts.map fun part => [part.piece], rest) := by
      induction parts with
      | nil => exact many_nil stops
      | cons part others further =>
        rw [areRegular, Bool.and_eq_true, Bool.and_eq_true] at regular
        rw [depthAll] at deep
        obtain ⟨⟨one, apart⟩, more⟩ := regular
        have opens (isText : part.isText = true) : Opens (spelledAll others ++ rest) :=
          opens_spelledAll (by simpa [isText] using apart) ends
        have read : Definition.stretch (depth + 1) (Definition.stretches (depth + 1) nesting) within
            (part.spelled ++ (spelledAll others ++ rest)) =
              some ([part.piece], spelledAll others ++ rest) :=
          stretch_part outside trims one opens fun body within outside trims regular less =>
            ih (by omega) outside trims regular
        have shorter : (spelledAll others ++ rest).length <
            (part.spelled ++ (spelledAll others ++ rest)).length := by
          have positive := List.length_pos_iff.2 (spelled_ne_nil one)
          simp only [List.length_append]
          omega
        rw [spelledAll, List.append_assoc]
        exact many_cons read shorter (further (by omega) more) stops
    have flat : (parts.map fun part => [part.piece]).flatten = pieces parts := by
      clear all deep regular
      induction parts with
      | nil => rfl
      | cons part others further => simp [pieces, further]
    show Option.map _ (many _ (spelledAll parts ++ rest)) = _
    rw [all, Option.map_some, ← flat]

mutual

theorem depth_le_count : (part : Part) → part.depth ≤ part.spelled.countP (· = '%')
  | text s => by simp [Part.depth]
  | print slot => by simp [Part.depth]
  | choice cutElse cutEnd condition yes no => by
    have left := depthAll_le_count yes
    have right := depthAll_le_count no
    simp [Part.depth, spelled, tag, closing]
    omega
  | each cutBefore cutEnd item container body => by
    have inside := depthAll_le_count body
    simp [Part.depth, spelled, tag, closing]
    omega

theorem depthAll_le_count : (parts : List Part) →
    depthAll parts ≤ (spelledAll parts).countP (· = '%')
  | [] => by simp [depthAll]
  | part :: rest => by
    have first := depth_le_count part
    have others := depthAll_le_count rest
    simp only [depthAll, spelledAll, List.countP_append]
    omega

end

/-- A definition that begins with a text is read as its parts. -/
theorem parse?_spelled {source : String} {c : Char} {more : List Char}
    (spells : source.toList = spelledAll parts) (regular : areRegular parts = true)
    (front : spelledAll parts = c :: more) (notSpace : Phrase.isSpace c = false)
    (noBrace : c ≠ '\x7b') :
    Definition.parse? source = Definition.ofItems (Piece.trimmed false false (pieces parts)) := by
  have noOpening {withDash without : String} (first : withDash.toList.head? = some '\x7b')
      (second : without.toList.head? = some '\x7b') :
      Definition.dashed withDash without (c :: more) = none := by
    have refuses {expected : String} (brace : expected.toList.head? = some '\x7b') :
        exactly expected (c :: more) = none := by
      refine exactly_none more ?_ ?_
      · rw [brace]
        simpa using noBrace.symm
      · intro empty
        rw [empty] at brace
        cases brace
    exact dashed_none (refuses first) (refuses second)
  have noComment : Definition.comment (c :: more) = none := by
    rw [Definition.comment, bind_none (noOpening (by decide) (by decide))]
  have noTag {α : Type} (keyword : String) (content : Reader α) :
      Definition.tagged keyword content (c :: more) = none := by
    rw [Definition.tagged, Definition.tagOpening, bind_none (noOpening (by decide) (by decide))]
  have noHeading (content : Reader (Bool × Item × Bool)) (refuses : content (c :: more) = none) :
      Definition.heading content (c :: more) = none := by
    rw [Definition.heading, bind_some (Phrase.spaces_stay more notSpace), bind_none refuses]
  have noLibrary : Definition.library (c :: more) = none := noHeading _ (noTag _ _)
  have noParent : Definition.parentTag (c :: more) = none := noHeading _ (noTag _ _)
  have body (brackets : Nat) : Definition.stretches (2 * brackets + 2)
      ((spelledAll parts).countP (· = '%') + 1) .top (c :: more) = some (pieces parts, []) := by
    have deep : depthAll parts < (spelledAll parts).countP (· = '%') + 1 :=
      Nat.lt_succ_of_le (depthAll_le_count parts)
    have outside : Surroundings.top.inBlock = false := rfl
    have read : Definition.stretches (2 * brackets + 2) _ .top (spelledAll parts ++ []) = _ :=
      stretches_append deep outside rfl regular [] .nothing
    rw [← front]
    rwa [List.append_nil] at read
  have whole (brackets : Nat) : Definition.whole (2 * brackets + 2)
      ((spelledAll parts).countP (· = '%') + 1) (c :: more) = some (pieces parts, []) := by
    rw [Definition.whole, bind_some (many_nil noComment), bind_some (many_nil noLibrary),
      bind_some (optional_none noParent), bind_some (many_nil noLibrary),
      bind_some (body brackets)]
    rfl
  rw [Definition.parse?, spells]
  simp only [front] at whole ⊢
  rw [whole]

end Bodies

end Part

end ModelForge.Template
