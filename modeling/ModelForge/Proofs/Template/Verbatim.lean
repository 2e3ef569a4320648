import ModelForge.Proofs.Path.Descent
import ModelForge.Proofs.Template.Running

/-! Definitions that are nothing but texts and variables are also printed directly: whatever stands
between double braces gives way to the text that it names, in quotes if it asks for them, and all
other characters stay. `render_substituted` says that rendering comes to the same for every such
definition over names that mean texts; whether a definition is one can be computed. -/
namespace ModelForge.Template.Verbatim

open Phrase (Dotted Slot)

section Printing

/-- A text without the blanks at its ends. -/
def bare (s : List Char) : List Char :=
  ((s.dropWhile Phrase.isSpace).reverse.dropWhile Phrase.isSpace).reverse

/-- What the inside of two braces asks for: a name, and whether its text is put in quotes. -/
def asked? (inside : List Char) : Option (List Char × Bool) :=
  match (Text.fields '|' inside).map bare with
  | [name] => some (name, false)
  | [name, filter] => if filter = "quote".toList then some (name, true) else none
  | _ => none

/-- The text that a name with one step means. -/
def textOf? (bindings : List (String × Value)) (name : List Char) : Option String :=
  (Text.cut? '.' name).bind fun (owner, part) =>
    match (bindings.lookup (String.ofList owner)).bind (·.part? (String.ofList part)) with
    | some (.text s) => some s
    | _ => none

def slotText? (bindings : List (String × Value)) (inside : List Char) : Option String :=
  (asked? inside).bind fun (name, quoted) =>
    (textOf? bindings name).map fun s => if quoted then Filter.quote s else s

/-- What becomes of a stretch that begins behind two opening braces. -/
def stretchText? (bindings : List (String × Value)) (stretch : List Char) : Option String :=
  match Text.splitOn "\x7d\x7d".toList stretch with
  | [inside, copied] => (slotText? bindings inside).map (· ++ String.ofList copied)
  | _ => none

/-- A definition with every variable replaced by its text. -/
def substituted (bindings : List (String × Value)) (source : List Char) : Option String :=
  match Text.splitOn "\x7b\x7b".toList source with
  | [] => none
  | first :: stretches =>
    (stretches.mapM (stretchText? bindings)).map (String.ofList first ++ String.join ·)

end Printing

section Variables

theorem bare_spaced {w : List Char} (nonempty : w ≠ [])
    (inside : ∀ c ∈ w, Phrase.isSpace c = false) : bare (' ' :: (w ++ [' '])) = w := by
  have keeps {s rest : List Char} (nonempty : s ≠ [])
      (inside : ∀ c ∈ s, Phrase.isSpace c = false) :
      (s ++ rest).dropWhile Phrase.isSpace = s ++ rest := by
    obtain ⟨c, more, rfl⟩ := List.exists_cons_of_ne_nil nonempty
    simp [inside c List.mem_cons_self]
  have space : Phrase.isSpace ' ' = true := by decide
  have back := @keeps w.reverse [] (by simpa using nonempty) fun c member =>
    inside c (List.mem_reverse.1 member)
  rw [List.append_nil] at back
  simp [bare, space, keeps nonempty inside, back]

variable {name : Dotted}

theorem mem_text {c : Char} (member : c ∈ name.text.toList) (other : c ≠ '.') :
    Phrase.isWordPart c = true := by
  have split : c ∈ name.owner.toList ∨ c = '.' ∨ c ∈ name.part.toList := by
    simpa [Dotted.text] using member
  rcases split with owner | dot | part
  · exact (Phrase.all_isWord name.isOwner).2 c owner
  · exact absurd dot other
  · exact (Phrase.all_isWord name.isPart).2 c part

theorem not_mem_text {c : Char} (sign : Phrase.isWordPart c = false) (other : c ≠ '.') :
    c ∉ name.text.toList := by
  intro member
  rw [mem_text member other] at sign
  cases sign

theorem bare_name (name : Dotted) : bare (' ' :: (name.text.toList ++ [' '])) = name.text.toList := by
  refine bare_spaced (by simp [Dotted.text]) fun c member => ?_
  by_cases dot : c = '.'
  · rw [dot]
    decide
  · exact Phrase.isSpace_of_isWordPart (mem_text member dot)

/-- How a variable stands between the braces. -/
def between (slot : Slot) : List Char := ' ' :: (slot.text.toList ++ [' '])

theorem asked?_shown (name : Dotted) :
    asked? (between (shownSlot name)) = some (name.text.toList, false) := by
  have noBar : '|' ∉ between (shownSlot name) := by
    have inside : '|' ∉ name.text.toList := not_mem_text (by decide) (by decide)
    simpa [between, shownSlot, Slot.text] using inside
  rw [asked?, Text.fields_of_notMem noBar, List.map_singleton]
  simp only [between, shownSlot, Slot.text, bare_name]

theorem asked?_quoted (name : Dotted) :
    asked? (between (quotedSlot name)) = some (name.text.toList, true) := by
  have chars : between (quotedSlot name) =
      (' ' :: (name.text.toList ++ [' '])) ++ '|' :: " quote ".toList := by
    simp [between, quotedSlot, Slot.text]
  have noBar : '|' ∉ ' ' :: (name.text.toList ++ [' ']) := by
    have inside : '|' ∉ name.text.toList := not_mem_text (by decide) (by decide)
    simpa using inside
  have filter : bare " quote ".toList = "quote".toList := by decide
  have alone : Text.fields '|' " quote ".toList = [" quote ".toList] := by decide
  rw [asked?, chars, Text.fields_append_separator, Text.fields_of_notMem noBar, alone]
  simp only [List.singleton_append, List.map_cons, List.map_nil, bare_name, filter, if_true]

theorem textOf?_name (bindings : List (String × Value)) (name : Dotted) :
    textOf? bindings name.text.toList =
      match name.among bindings with
      | some (.text s) => some s
      | _ => none := by
  rw [textOf?, cut?_dotted, Option.bind_some]
  simp only [String.ofList_toList, Dotted.among]

end Variables

section Splitting

open Template.Part (filledAll)

/-- A text, or a variable with one of some names. -/
inductive Flat (names : List Dotted) : Part → Prop where
  | text (s : List Char) : Flat names (.text s)
  | shown {name : Dotted} (member : name ∈ names) : Flat names (.print (shownSlot name))
  | quoted {name : Dotted} (member : name ∈ names) : Flat names (.print (quotedSlot name))

variable {names : List Dotted} {look : Look} {parts : List Part}

theorem Flat.cutsBefore {part : Part} (flat : Flat names part) : part.cutsBefore = false := by
  cases flat with
  | text s => rfl
  | shown member => rfl
  | quoted member => rfl

theorem filledAll_flat (part : Part) (flat : ∀ part ∈ parts, Flat names part) :
    filledAll look false (part :: parts) =
      (part.filled look false).bind fun first => (filledAll look false parts).map (first ++ ·) := by
  cases parts with
  | nil => rw [filledAll]; rfl
  | cons next rest =>
    rw [filledAll, List.head?_cons, Option.map_some, Option.getD_some,
      (flat next List.mem_cons_self).cutsBefore]

theorem filledAll_append {more : List Part} (flat : ∀ part ∈ parts, Flat names part)
    (flat' : ∀ part ∈ more, Flat names part) :
    filledAll look false (parts ++ more) = (filledAll look false parts).bind fun first =>
      (filledAll look false more).map (first ++ ·) := by
  induction parts with
  | nil => simp [filledAll]
  | cons part rest ih =>
    have flatRest : ∀ part ∈ rest, Flat names part := fun part member =>
      flat part (List.mem_cons_of_mem _ member)
    have flatBoth : ∀ part ∈ rest ++ more, Flat names part := fun part member =>
      (List.mem_append.1 member).elim (flatRest part) (flat' part)
    rw [List.cons_append, filledAll_flat part flatBoth, filledAll_flat part flatRest, ih flatRest]
    cases part.filled look false <;> cases filledAll look false rest <;>
      cases filledAll look false more <;> simp [String.append_assoc]

/-- What is filled in depends on what the names mean. -/
theorem filledAll_congr {other : Look} (flat : ∀ part ∈ parts, Flat names part)
    (same : ∀ name ∈ names, look name = other name) :
    filledAll look false parts = filledAll other false parts := by
  induction parts with
  | nil => rw [filledAll, filledAll]
  | cons part rest ih =>
    have flatRest : ∀ part ∈ rest, Flat names part := fun part member =>
      flat part (List.mem_cons_of_mem _ member)
    have first : part.filled look false = part.filled other false := by
      cases flat part List.mem_cons_self with
      | text s => rw [Part.filled, Part.filled]
      | shown member =>
        rw [Part.filled, Part.filled, Slot.filled, Slot.filled]
        simp only [shownSlot, same _ member]
      | quoted member =>
        rw [Part.filled, Part.filled, Slot.filled, Slot.filled]
        simp only [quotedSlot, same _ member]
    rw [filledAll_flat part flatRest, filledAll_flat part flatRest, first, ih flatRest]

/-- Names that mean texts leave no gap. -/
theorem filledAll_isSome (flat : ∀ part ∈ parts, Flat names part)
    (texts : ∀ name ∈ names, ∃ s, look name = some (.text s)) :
    ∃ text, filledAll look false parts = some text := by
  induction parts with
  | nil => exact ⟨"", by rw [filledAll]⟩
  | cons part rest ih =>
    have flatRest : ∀ part ∈ rest, Flat names part := fun part member =>
      flat part (List.mem_cons_of_mem _ member)
    obtain ⟨more, others⟩ := ih flatRest
    have one : ∃ first, part.filled look false = some first := by
      cases flat part List.mem_cons_self with
      | text s => exact ⟨_, by rw [Part.filled]⟩
      | shown member =>
        obtain ⟨s, means⟩ := texts _ member
        exact ⟨s, by simp [Part.filled, Slot.filled, shownSlot, means]⟩
      | quoted member =>
        obtain ⟨s, means⟩ := texts _ member
        exact ⟨Filter.quote s, by simp [Part.filled, Slot.filled, quotedSlot, means]⟩
    obtain ⟨first, one⟩ := one
    exact ⟨first ++ more, by rw [filledAll_flat part flatRest, one, others]; rfl⟩

def textParts (s : List Char) : List Part := if s.isEmpty then [] else [.text s]

theorem flat_textParts (s : List Char) : ∀ part ∈ textParts s, Flat names part := by
  intro part member
  unfold textParts at member
  split at member
  · cases member
  · rw [List.mem_singleton.1 member]
    exact .text s

theorem filledAll_textParts (s : List Char) :
    filledAll look false (textParts s) = some (String.ofList s) := by
  unfold textParts
  split
  · rename_i empty
    rw [List.isEmpty_iff.1 empty, filledAll]
  · simp [filledAll, Part.filled]

/-- The variables with some names. -/
def slots (names : List Dotted) : List Slot :=
  names.flatMap fun name => [shownSlot name, quotedSlot name]

/-- The parts of a stretch that begins behind two opening braces. -/
def stretchParts? (names : List Dotted) (stretch : List Char) : Option (List Part) :=
  match Text.splitOn "\x7d\x7d".toList stretch with
  | [inside, copied] =>
    ((slots names).find? (between · = inside)).map (.print · :: textParts copied)
  | _ => none

/-- The parts of a definition that is nothing but texts and variables with some names. -/
def parts? (names : List Dotted) (source : List Char) : Option (List Part) :=
  match Text.splitOn "\x7b\x7b".toList source with
  | [] => none
  | first :: stretches =>
    (stretches.mapM (stretchParts? names)).map fun parts => textParts first ++ parts.flatten

variable (bindings : List (String × Value))

/-- A variable is printed as it is filled in. -/
theorem slotText?_slot {slot : Slot} (member : slot ∈ slots names) :
    Flat names (.print slot) ∧ slotText? bindings (between slot) = slot.filled (·.among bindings) := by
  obtain ⟨name, named, form⟩ := List.mem_flatMap.1 member
  rcases List.mem_pair.1 form with rfl | rfl
  · refine ⟨.shown named, ?_⟩
    rw [slotText?, asked?_shown, Option.bind_some, Slot.filled]
    simp only [shownSlot, textOf?_name]
    rcases name.among bindings with - | value
    · rfl
    · cases value <;> simp
  · refine ⟨.quoted named, ?_⟩
    rw [slotText?, asked?_quoted, Option.bind_some, Slot.filled]
    simp only [quotedSlot, textOf?_name]
    rcases name.among bindings with - | value
    · rfl
    · cases value <;> simp

theorem stretchText?_eq {stretch : List Char} (split : stretchParts? names stretch = some parts) :
    (∀ part ∈ parts, Flat names part) ∧
      stretchText? bindings stretch = filledAll (·.among bindings) false parts := by
  unfold stretchParts? at split
  unfold stretchText?
  split at split
  · rename_i inside copied shape
    obtain ⟨slot, found, rfl⟩ := Option.map_eq_some_iff.1 split
    obtain rfl : between slot = inside := by simpa using List.find?_some found
    obtain ⟨flat, printed⟩ := slotText?_slot bindings (List.mem_of_find?_eq_some found)
    have flatText : ∀ part ∈ textParts copied, Flat names part := flat_textParts copied
    refine ⟨List.forall_mem_cons.2 ⟨flat, flatText⟩, ?_⟩
    rw [filledAll_flat _ flatText, filledAll_textParts, Part.filled]
    simp only [printed]
    cases slot.filled (·.among bindings) <;> rfl
  · cases split

theorem stretchTexts_eq {stretches : List (List Char)} {lists : List (List Part)}
    (split : stretches.mapM (stretchParts? names) = some lists) :
    (∀ part ∈ lists.flatten, Flat names part) ∧
      (stretches.mapM (stretchText? bindings)).map String.join =
        filledAll (·.among bindings) false lists.flatten := by
  induction stretches generalizing lists with
  | nil =>
    obtain rfl : [] = lists := Option.some.inj split
    exact ⟨by simp, by simp [filledAll]⟩
  | cons stretch rest ih =>
    obtain ⟨first, more, one, others, rfl⟩ := Part.mapM_cons split
    obtain ⟨flat, printed⟩ := stretchText?_eq bindings one
    obtain ⟨flatMore, printedMore⟩ := ih others
    refine ⟨fun part member => ?_, ?_⟩
    · rw [List.flatten_cons, List.mem_append] at member
      exact member.elim (flat part) (flatMore part)
    · rw [List.flatten_cons, filledAll_append flat flatMore, ← printedMore, ← printed,
        List.mapM_cons]
      cases stretchText? bindings stretch <;> cases rest.mapM (stretchText? bindings) <;> simp

/-- A definition in parts is printed as its parts are filled in. -/
theorem substituted_eq {source : List Char} (split : parts? names source = some parts) :
    (∀ part ∈ parts, Flat names part) ∧
      substituted bindings source = filledAll (·.among bindings) false parts := by
  unfold parts? at split
  unfold substituted
  split at split
  · cases split
  · rename_i first stretches shape
    obtain ⟨lists, each, rfl⟩ := Option.map_eq_some_iff.1 split
    obtain ⟨flat, printed⟩ := stretchTexts_eq bindings each
    have flatText : ∀ part ∈ textParts first, Flat names part := flat_textParts first
    refine ⟨fun part member => (List.mem_append.1 member).elim (flatText part) (flat part), ?_⟩
    rw [filledAll_append flatText flat, filledAll_textParts, ← printed, Option.bind_some,
      Option.map_map]
    rfl

end Splitting

/-- Whether a definition is nothing but texts and variables with some names, beginning with a
text. -/
def isVerbatim (names : List Dotted) (source : List Char) : Bool :=
  match parts? names source, source with
  | some parts, c :: _ =>
    Part.spelledAll parts = source && Part.areRegular parts && !Phrase.isSpace c && c ≠ '\x7b'
  | _, _ => false

variable {names : List Dotted} {bindings other : List (String × Value)}

theorem exists_parts {source : List Char} (verbatim : isVerbatim names source = true) :
    ∃ parts c more, parts? names source = some parts ∧ source = c :: more ∧
      Part.spelledAll parts = source ∧ Part.areRegular parts = true ∧
      Phrase.isSpace c = false ∧ c ≠ '\x7b' := by
  unfold isVerbatim at verbatim
  split at verbatim
  · rename_i parts c more split
    simp only [Bool.and_eq_true, decide_eq_true_eq, Bool.not_eq_true'] at verbatim
    obtain ⟨⟨⟨spelled, regular⟩, notSpace⟩, noBrace⟩ := verbatim
    exact ⟨parts, c, more, split, rfl, spelled, regular, notSpace, noBrace⟩
  · cases verbatim

/-- Rendering puts the text of each variable in its place, and alters nothing else. -/
theorem render_substituted {template source : String}
    (verbatim : isVerbatim names source.toList = true)
    (texts : ∀ name ∈ names, ∃ s, name.among bindings = some (.text s)) :
    ∃ text, substituted bindings source.toList = some text ∧
      render template source bindings = .ok text := by
  obtain ⟨parts, c, more, split, front, spelled, regular, notSpace, noBrace⟩ :=
    exists_parts verbatim
  obtain ⟨flat, printed⟩ := substituted_eq bindings split
  obtain ⟨text, filled⟩ := filledAll_isSome flat texts
  exact ⟨text, printed.trans filled, Part.render_filled spelled.symm regular
    (spelled.trans front) notSpace noBrace filled⟩

theorem substituted_congr {source : List Char} (verbatim : isVerbatim names source = true)
    (same : ∀ name ∈ names, name.among bindings = name.among other) :
    substituted bindings source = substituted other source := by
  obtain ⟨parts, -, -, split, -⟩ := exists_parts verbatim
  obtain ⟨flat, printed⟩ := substituted_eq bindings split
  rw [printed, (substituted_eq other split).2]
  exact filledAll_congr flat same

end ModelForge.Template.Verbatim
