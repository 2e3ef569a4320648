import ModelForge.Proofs.Template.Phrase
import ModelForge.Template.Definition

/-! Definitions that are made of texts, variables, choices and loops. A definition of this form is a
tree of parts; here is how the parts are written, what they mean, and how the tags and the texts
that they are written with are read. -/
namespace ModelForge.Template

open ModelForge.Text (Reader)
open ModelForge.Text.Reader
open Phrase (Condition Slot Closes isWord spaces)
open Definition (Surroundings)

/-- A part of a definition. The two flags of a loop are the dashes of its two tags, those of a choice
the dashes of its last two. -/
inductive Part where
  | text (s : List Char)
  | print (slot : Slot)
  | choice (cutElse cutEnd : Bool) (condition : Condition) (yes no : List Part)
  | each (cutBefore cutEnd : Bool) (item : String) (container : Slot) (body : List Part)

namespace Part

/-- The front of a tag. -/
def opening (cut : Bool) : List Char := if cut then ['\x7b', '%', '-'] else ['\x7b', '%']

/-- The end of a tag, with the blank before it. -/
def closing : List Char := [' ', '%', '\x7d']

/-- A tag. -/
def tag (cut : Bool) (inside : List Char) : List Char := opening cut ++ ' ' :: (inside ++ closing)

mutual

/-- How a part is written. -/
def spelled : Part → List Char
  | text s => s
  | print slot => ['\x7b', '\x7b', ' '] ++ slot.text.toList ++ [' ', '\x7d', '\x7d']
  | choice cutElse cutEnd condition yes no =>
    tag false ("if".toList ++ ' ' :: condition.text.toList) ++ spelledAll yes ++
      (tag cutElse "else".toList ++ spelledAll no ++ tag cutEnd "endif".toList)
  | each cutBefore cutEnd item container body =>
    tag cutBefore ("for".toList ++ ' ' :: item.toList ++ ' ' :: ("in".toList ++
      ' ' :: container.text.toList)) ++ spelledAll body ++ tag cutEnd "endfor".toList

def spelledAll : List Part → List Char
  | [] => []
  | part :: rest => part.spelled ++ spelledAll rest

end

/-- A text, which may have lost the blanks at its end. -/
def textNodes (cut : Bool) (s : List Char) : List Node :=
  if cut then
    if (Text.trimRight s).isEmpty then [] else [.text (String.ofList (Text.trimRight s))]
  else [.text (String.ofList s)]

/-- Whether a part cuts the blanks off the text before it. -/
def cutsBefore : Part → Bool
  | each cutBefore _ _ _ _ => cutBefore
  | _ => false

mutual

/-- What a part means. -/
def nodes (cut : Bool) : Part → List Node
  | text s => textNodes cut s
  | print slot => [.print slot.value]
  | choice cutElse cutEnd condition yes no =>
    [.branch condition.value (nodesAll cutElse yes) (nodesAll cutEnd no)]
  | each _ cutEnd item container body =>
    [.loop none item container.value (nodesAll cutEnd body) []]

/-- What parts mean that follow each other. The flag is the dash of the tag behind them. -/
def nodesAll (cutEnd : Bool) : List Part → List Node
  | [] => []
  | part :: rest =>
    part.nodes ((rest.head?.map cutsBefore).getD cutEnd) ++ nodesAll cutEnd rest

end

mutual

/-- What a part is read as. -/
def piece : Part → Piece
  | text s => .text s
  | print slot => .tag false false (.node (.print slot.value))
  | choice cutElse cutEnd condition yes no =>
    .tag false false (.node (.branch condition.value
      (Definition.nodesOf (Piece.trimmed false cutElse (pieces yes)))
      (Definition.nodesOf (Piece.trimmed false cutEnd (pieces no)))))
  | each cutBefore cutEnd item container body =>
    .tag cutBefore false (.node (.loop none item container.value
      (Definition.nodesOf (Piece.trimmed false cutEnd (pieces body))) []))

def pieces : List Part → List Piece
  | [] => []
  | part :: rest => part.piece :: pieces rest

end

/-- Whether no tag opens in a text, and none could open at its end. -/
def isQuiet : List Char → Bool
  | [] => true
  | c :: rest =>
    (c != '\x7b' || rest.head?.any fun next => next ∉ ['\x7b', '%', '#']) && isQuiet rest

def isText : Part → Bool
  | text _ => true
  | _ => false

mutual

/-- Texts are not empty and open no tags, and names are words. -/
def isRegular : Part → Bool
  | text s => !s.isEmpty && isQuiet s
  | print _ => true
  | choice _ _ _ yes no => areRegular yes && areRegular no
  | each _ _ item _ body => isWord item.toList && areRegular body

/-- No two texts stand beside each other. -/
def areRegular : List Part → Bool
  | [] => true
  | part :: rest =>
    part.isRegular && !(part.isText && (rest.head?.map isText).getD false) && areRegular rest

end

mutual

/-- How deep bodies nest. -/
def depth : Part → Nat
  | text _ => 0
  | print _ => 0
  | choice _ _ _ yes no => max (depthAll yes) (depthAll no) + 1
  | each _ _ _ _ body => depthAll body + 1

def depthAll : List Part → Nat
  | [] => 0
  | part :: rest => max part.depth (depthAll rest)

end

/-- What can stand behind the parts of a body: nothing, or a tag that ends it. -/
inductive Ends : List Char → Prop where
  | nothing : Ends []
  | tag (cut : Bool) (more : List Char) : Ends (opening cut ++ ' ' :: 'e' :: more)

section Tags

variable {α : Type} {cut : Bool} {keyword : String} {content : Reader α} {found : α}
  {inside s rest : List Char} {c : Char}

theorem dashed_none {withDash without : String} (first : exactly withDash s = none)
    (second : exactly without s = none) : Definition.dashed withDash without s = none := by
  rw [Definition.dashed, orElse_none (bind_none first), bind_none second]

theorem dashed_without {withDash without : String}
    (noDash : exactly withDash (without.toList ++ rest) = none) :
    Definition.dashed withDash without (without.toList ++ rest) = some (false, rest) := by
  rw [Definition.dashed, orElse_none (bind_none noDash), bind_some (exactly_append without rest)]
  rfl

theorem tagOpening_append (cut : Bool) (s : List Char) :
    Definition.tagOpening (opening cut ++ ' ' :: s) = some (cut, ' ' :: s) := by
  cases cut with
  | true =>
    have read : Definition.tagOpening ("\x7b%-".toList ++ ' ' :: s) = some (true, ' ' :: s) := by
      rw [Definition.tagOpening, Definition.dashed, orElse_some (bind_some (exactly_append _ _))]
    exact read
  | false =>
    have noDash : exactly "\x7b%-" ("\x7b%".toList ++ ' ' :: s) = none := by simp [exactly]
    exact dashed_without noDash

theorem tagClosing_append (rest : List Char) :
    Definition.tagClosing (closing ++ rest) = some (false, rest) := by
  have blank : spaces (closing ++ rest) = some ((), "%\x7d".toList ++ rest) :=
    Phrase.spaces_one _ (by decide)
  have noDash : exactly "-%\x7d" ("%\x7d".toList ++ rest) = none := by simp [exactly]
  rw [Definition.tagClosing, bind_some blank, dashed_without noDash]

theorem tag_append (cut : Bool) (inside rest : List Char) :
    tag cut inside ++ rest = opening cut ++ ' ' :: (inside ++ (closing ++ rest)) := by
  simp [tag]

theorem ends_tag (cut : Bool) (front : inside.head? = some 'e') (rest : List Char) :
    Ends (tag cut inside ++ rest) := by
  cases inside with
  | nil => cases front
  | cons c more =>
    obtain rfl : c = 'e' := by simpa using front
    rw [tag_append]
    exact .tag cut (more ++ (closing ++ rest))

/-- A tag with another keyword. -/
theorem tagged_none (other : exactly keyword (c :: s) = none)
    (notSpace : Phrase.isSpace c = false) :
    Definition.tagged keyword content (opening cut ++ ' ' :: c :: s) = none := by
  rw [Definition.tagged, bind_some (tagOpening_append cut _),
    bind_some (Phrase.spaces_one _ notSpace), bind_none other]

theorem tagged_append (front : keyword.toList.head?.map Phrase.isSpace = some false)
    (read : content (inside ++ (closing ++ rest)) = some (found, closing ++ rest)) :
    Definition.tagged keyword content (tag cut (keyword.toList ++ inside) ++ rest) =
      some ((cut, found, false), rest) := by
  obtain ⟨c, more, chars, notSpace⟩ : ∃ c more, keyword.toList = c :: more ∧
      Phrase.isSpace c = false := by
    cases chars : keyword.toList with
    | nil => simp [chars] at front
    | cons c more => exact ⟨c, more, rfl, by simpa [chars] using front⟩
  have blank : spaces (' ' :: (keyword.toList ++ (inside ++ (closing ++ rest)))) =
      some ((), keyword.toList ++ (inside ++ (closing ++ rest))) := by
    rw [chars]
    exact Phrase.spaces_one _ notSpace
  rw [tag_append, List.append_assoc, Definition.tagged, bind_some (tagOpening_append cut _), bind_some blank,
    bind_some (exactly_append keyword _), bind_some read, bind_some (tagClosing_append rest)]
  rfl

theorem bareTag_none (other : exactly keyword (c :: s) = none)
    (notSpace : Phrase.isSpace c = false) :
    Definition.bareTag keyword (opening cut ++ ' ' :: c :: s) = none := by
  rw [Definition.bareTag, bind_none (tagged_none other notSpace)]

theorem bareTag_append (front : keyword.toList.head?.map Phrase.isSpace = some false) :
    Definition.bareTag keyword (tag cut keyword.toList ++ rest) = some ((cut, false), rest) := by
  have read : Definition.tagged keyword (pure ()) (tag cut (keyword.toList ++ []) ++ rest) =
      some ((cut, (), false), rest) := tagged_append front rfl
  rw [List.append_nil] at read
  rw [Definition.bareTag, bind_some read]
  rfl

end Tags

section Texts

/-- What ends a text. -/
inductive Opens : List Char → Prop where
  | nothing : Opens []
  | print (more : List Char) : Opens ('\x7b' :: '\x7b' :: more)
  | tag (cut : Bool) (more : List Char) : Opens (opening cut ++ ' ' :: more)

variable {front s rest : List Char} {c : Char}

theorem Ends.opens (ends : Ends rest) : Opens rest := by
  cases ends with
  | nothing => exact .nothing
  | tag cut more => exact .tag cut ('e' :: more)

theorem Opens.plainText (opens : Opens rest) : Definition.plainText rest = ([], rest) := by
  cases opens with
  | nothing => rfl
  | print more => simp [Definition.plainText]
  | tag cut more => cases cut <;> simp [opening, Definition.plainText]

theorem Opens.text_none (opens : Opens rest) : Definition.text rest = none := by
  rw [Definition.text, opens.plainText]

theorem plainText_cons
    (noStart : c = '\x7b' → ∃ d more, s = d :: more ∧ d ∉ ['\x7b', '%', '#'])
    (read : Definition.plainText s = (front, rest)) :
    Definition.plainText (c :: s) = (c :: front, rest) := by
  rw [Definition.plainText.eq_def]
  by_cases brace : c = '\x7b'
  · obtain ⟨d, more, rfl, other⟩ := noStart brace
    simp only [List.mem_cons, List.not_mem_nil, or_false, not_or] at other
    simp only [read]
    simp [other]
  · simp only [read]
    simp [brace]

/-- A quiet text goes on up to the next tag. -/
theorem plainText_append (quiet : isQuiet s = true) (opens : Opens rest) :
    Definition.plainText (s ++ rest) = (s, rest) := by
  induction s with
  | nil => exact opens.plainText
  | cons c more ih =>
    rw [isQuiet, Bool.and_eq_true, Bool.or_eq_true, bne_iff_ne] at quiet
    obtain ⟨next, quietMore⟩ := quiet
    refine plainText_cons ?_ (ih quietMore)
    intro brace
    cases more with
    | nil => simp [brace] at next
    | cons d others => exact ⟨d, others ++ rest, rfl, by simpa [brace] using next⟩

theorem text_append (nonempty : s ≠ []) (quiet : isQuiet s = true) (opens : Opens rest) :
    Definition.text (s ++ rest) = some ([.text s], rest) := by
  rw [Definition.text, plainText_append quiet opens]
  cases s with
  | nil => exact absurd rfl nonempty
  | cons c more => rfl

end Texts

end Part

end ModelForge.Template
