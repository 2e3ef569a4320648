import ModelForge.Proofs.Text.Reader
import ModelForge.Template.Phrase

/-! How a variable with one step is read, alone and with a filter behind it. Every other reading is
tried before, and each is given up at the first character that does not fit. -/
namespace ModelForge.Template.Phrase

open ModelForge.Text (Reader)
open ModelForge.Text.Reader

/-- A text that a word can be. -/
def isWord : List Char → Bool
  | [] => false
  | c :: rest => isWordStart c && rest.all isWordPart

/-- A variable and one step into it. The variable does not begin like a word with a meaning of its
own. -/
structure Dotted where
  owner : String
  part : String
  isOwner : isWord owner.toList = true
  isPart : isWord part.toList = true
  plain : ∀ c ∈ owner.toList.head?, c ∉ ['t', 'f', 'T', 'F', 'n']

def Dotted.text (name : Dotted) : String := name.owner ++ "." ++ name.part

/-- A variable, alone or with a filter behind it. -/
structure Slot where
  name : Dotted
  filter : Option String
  isFilter : ∀ f ∈ filter, isWord f.toList = true

namespace Slot

def text (slot : Slot) : String :=
  match slot.filter with
  | none => slot.name.text
  | some filter => slot.name.text ++ " | " ++ filter

def value (slot : Slot) : Expr :=
  .of (.lookup slot.name.text) false (slot.filter.toList.map (.of · []))

end Slot

/-- What a choice is made by: whether a variable is truthy, or whether it is a given text. -/
inductive Condition where
  | holds (slot : Slot)
  | equals (slot : Slot) (s : String) (quotable : '"' ∉ s.toList)

namespace Condition

def text : Condition → String
  | holds slot => slot.text
  | equals slot s _ => slot.text ++ " == \"" ++ s ++ "\""

def value : Condition → Expr
  | holds slot => slot.value
  | equals slot s _ => .plain (.compare .equal slot.value (.plain (.text s)))

end Condition

/-- What comes behind an expression that fills a tag. -/
inductive Closes : List Char → Prop where
  | print (more : List Char) : Closes (' ' :: '\x7d' :: more)
  | tag (more : List Char) : Closes (' ' :: '%' :: '\x7d' :: more)

/-- What comes behind a variable with its filter. -/
inductive Stops : List Char → Prop where
  | closing {tail : List Char} (closes : Closes tail) : Stops tail
  | equals (more : List Char) : Stops (' ' :: '=' :: '=' :: more)

/-- What comes behind a variable. -/
inductive Follows : List Char → Prop where
  | filter (more : List Char) : Follows (' ' :: '|' :: more)
  | stops {tail : List Char} (stops : Stops tail) : Follows tail

variable {inner : Kind → Reader Expr} {name : Dotted} {slot : Slot} {tail : List Char}

section Words

theorem isWordPart_of_isWordStart {c : Char} (start : isWordStart c = true) :
    isWordPart c = true := by
  simp only [isWordStart, isWordPart, Bool.or_eq_true] at start ⊢
  rcases start with letter | line
  · exact .inl (by simp [Char.isAlphanum, letter])
  · exact .inr line

theorem word_append {w rest : List Char} (isWord : isWord w = true)
    (ends : ∀ c ∈ rest.head?, isWordPart c = false) :
    word (w ++ rest) = some (String.ofList w, rest) := by
  cases w with
  | nil => cases isWord
  | cons c more =>
    rw [Phrase.isWord, Bool.and_eq_true, List.all_eq_true] at isWord
    have first : one isWordStart (c :: (more ++ rest)) = some (c, more ++ rest) := by
      simp [one, isWord.1]
    rw [List.cons_append, word, bind_some first, bind_some (spanned_append isWord.2 ends)]
    rfl

theorem word_none {c : Char} (more : List Char) (other : isWordStart c = false) :
    word (c :: more) = none := by
  rw [word, bind_none (one_none more other)]

theorem head_isWord {w : List Char} (isWord : isWord w = true) :
    ∃ c rest, w = c :: rest ∧ isWordStart c = true := by
  cases w with
  | nil => cases isWord
  | cons c more =>
    rw [Phrase.isWord, Bool.and_eq_true] at isWord
    exact ⟨c, more, rfl, isWord.1⟩

theorem all_isWord {w : List Char} (isWord : isWord w = true) :
    w ≠ [] ∧ ∀ c ∈ w, isWordPart c = true := by
  obtain ⟨c, rest, rfl, start⟩ := head_isWord isWord
  rw [Phrase.isWord, Bool.and_eq_true, List.all_eq_true] at isWord
  refine ⟨List.cons_ne_nil c rest, ?_⟩
  intro d member
  rcases List.mem_cons.1 member with rfl | member
  · exact isWordPart_of_isWordStart start
  · exact isWord.2 d member

theorem ne_of_isWordStart {c d : Char} (start : isWordStart c = true)
    (other : isWordStart d = false) : (c == d) = false := by
  rw [beq_eq_false_iff_ne]
  rintro rfl
  rw [start] at other
  cases other

theorem isSpace_of_isWordPart {c : Char} (part : isWordPart c = true) : isSpace c = false := by
  have other {d : Char} (sign : isWordPart d = false) : (c == d) = false := by
    rw [beq_eq_false_iff_ne]
    rintro rfl
    rw [part] at sign
    cases sign
  rw [isSpace, @other ' ' (by decide), @other '\t' (by decide), @other '\r' (by decide),
    @other '\n' (by decide)]
  rfl

theorem isSpace_of_isWordStart {c : Char} (start : isWordStart c = true) : isSpace c = false :=
  isSpace_of_isWordPart (isWordPart_of_isWordStart start)

theorem spaces_stay {c : Char} (more : List Char) (other : isSpace c = false) :
    spaces (c :: more) = some ((), c :: more) := by
  have none : spanned isSpace ([] ++ c :: more) = some ([], c :: more) :=
    spanned_append (by simp) (by simpa using other)
  rw [List.nil_append] at none
  rw [spaces, bind_some none]
  rfl

theorem spaces_one {c : Char} (more : List Char) (other : isSpace c = false) :
    spaces (' ' :: c :: more) = some ((), c :: more) := by
  have one : spanned isSpace ([' '] ++ c :: more) = some ([' '], c :: more) :=
    spanned_append (List.forall_mem_singleton.2 (by decide)) (by simpa using other)
  rw [List.singleton_append] at one
  rw [spaces, bind_some one]
  rfl

theorem token_stay (expected : String) {c : Char} (more : List Char) (other : isSpace c = false) :
    token expected (c :: more) = exactly expected (c :: more) := by
  rw [token, bind_some (spaces_stay more other)]

theorem token_one (expected : String) {c : Char} (more : List Char) (other : isSpace c = false) :
    token expected (' ' :: c :: more) = exactly expected (c :: more) := by
  rw [token, bind_some (spaces_one more other)]

end Words

section Tails

theorem Closes.head (closes : Closes tail) :
    ∃ c more, tail = ' ' :: c :: more ∧ isSpace c = false ∧ c ∈ ['\x7d', '%'] := by
  cases closes with
  | print more => exact ⟨_, _, rfl, by decide, by decide⟩
  | tag more => exact ⟨_, _, rfl, by decide, by decide⟩

theorem Stops.head (stops : Stops tail) :
    ∃ c more, tail = ' ' :: c :: more ∧ isSpace c = false ∧ c ∈ ['=', '\x7d', '%'] := by
  cases stops with
  | equals more => exact ⟨_, _, rfl, by decide, by decide⟩
  | closing closes =>
    obtain ⟨c, more, rfl, notSpace, sign⟩ := closes.head
    exact ⟨c, more, rfl, notSpace, List.mem_cons_of_mem _ sign⟩

theorem Follows.head (follows : Follows tail) :
    ∃ c more, tail = ' ' :: c :: more ∧ isSpace c = false ∧ c ∈ ['|', '=', '\x7d', '%'] := by
  cases follows with
  | filter more => exact ⟨_, _, rfl, by decide, by decide⟩
  | stops stops =>
    obtain ⟨c, more, rfl, notSpace, sign⟩ := stops.head
    exact ⟨c, more, rfl, notSpace, List.mem_cons_of_mem _ sign⟩

/-- A text that begins with none of the signs that can come next. -/
theorem token_none {expected : String} {c : Char} {signs : List Char} (more : List Char)
    (notSpace : isSpace c = false) (sign : c ∈ signs) (nonempty : expected.toList ≠ [])
    (other : expected.toList.head? ∉ signs.map some) : token expected (' ' :: c :: more) = none := by
  rw [token_one expected more notSpace]
  refine exactly_none more ?_ nonempty
  intro same
  refine other ?_
  rw [same]
  exact List.mem_map_of_mem sign

theorem Follows.token_none (follows : Follows tail) {expected : String}
    (nonempty : expected.toList ≠ [])
    (other : expected.toList.head? ∉ [some '|', some '=', some '\x7d', some '%']) :
    token expected tail = none := by
  obtain ⟨c, more, rfl, notSpace, sign⟩ := follows.head
  exact Phrase.token_none more notSpace sign nonempty other

theorem Stops.token_none (stops : Stops tail) {expected : String}
    (nonempty : expected.toList ≠ [])
    (other : expected.toList.head? ∉ [some '=', some '\x7d', some '%']) :
    token expected tail = none := by
  obtain ⟨c, more, rfl, notSpace, sign⟩ := stops.head
  exact Phrase.token_none more notSpace sign nonempty other

theorem Closes.token_none (closes : Closes tail) {expected : String}
    (nonempty : expected.toList ≠ []) (other : expected.toList.head? ∉ [some '\x7d', some '%']) :
    token expected tail = none := by
  obtain ⟨c, more, rfl, notSpace, sign⟩ := closes.head
  exact Phrase.token_none more notSpace sign nonempty other

/-- A closing of a tag can begin like a remainder, but no operand comes behind it. -/
theorem Follows.arithmeticSign (follows : Follows tail) :
    arithmeticSign tail = none ∨ ∃ more, arithmeticSign tail = some (.modulo, '\x7d' :: more) := by
  have plus : token "+" tail = none := follows.token_none (by decide) (by decide)
  have minus : token "-" tail = none := follows.token_none (by decide) (by decide)
  have times : token "*" tail = none := follows.token_none (by decide) (by decide)
  have divide : token "/" tail = none := follows.token_none (by decide) (by decide)
  have only : Phrase.arithmeticSign tail = (do token "%"; pure Arithmetic.modulo) tail := by
    rw [Phrase.arithmeticSign, orElse_none (bind_none plus), orElse_none (bind_none minus),
      orElse_none (bind_none times), orElse_none (bind_none divide)]
  have percent {c : Char} {more : List Char} (other : c ≠ '%') (notSpace : isSpace c = false) :
      token "%" (' ' :: c :: more) = none := by
    rw [token_one "%" more notSpace]
    exact exactly_none more (by simpa using other.symm) (by decide)
  cases follows with
  | filter more => exact .inl (by rw [only, bind_none (percent (by decide) (by decide))])
  | stops stops =>
    rcases stops with closes | more
    case equals => exact .inl (by rw [only, bind_none (percent (by decide) (by decide))])
    cases closes with
    | print more => exact .inl (by rw [only, bind_none (percent (by decide) (by decide))])
    | tag more =>
      have found : token "%" (' ' :: '%' :: '\x7d' :: more) = some ((), '\x7d' :: more) := by
        rw [token_one "%" _ (by decide)]
        exact exactly_append "%" _
      exact .inr ⟨more, by rw [only, bind_some found]; rfl⟩

/-- Arithmetic goes no further than a closing. -/
theorem Follows.sumOf (follows : Follows tail) {operand : Reader Expr} {s : List Char} {e : Expr}
    (first : operand s = some (e, tail)) (brace : ∀ more, operand ('\x7d' :: more) = none) :
    sumOf operand s = some (e, tail) := by
  have stops : (do
      let sign ← Phrase.arithmeticSign
      spaces
      let next ← operand
      pure (sign, next)) tail = none := by
    rcases follows.arithmeticSign with none | ⟨more, found⟩
    · rw [bind_none none]
    · rw [bind_some found, bind_some (spaces_stay more (by decide)), bind_none (brace more)]
  rw [Phrase.sumOf, bind_some first, bind_some (many_nil stops)]
  rfl

end Tails

section Brace

variable (more : List Char)

theorem path_brace : path inner ('\x7d' :: more) = none := by
  have none : (do let _ ← word; many (dotStep <|> bracketStep inner)) ('\x7d' :: more) = none := by
    rw [bind_none (word_none more (by decide))]
  rw [path, bind_none (raw_none none)]

/-- Numbers begin with a digit or a minus. -/
structure NoNumber (c : Char) : Prop where
  minus : (c == '-') = false
  digit : c.isDigit = false

theorem NoNumber.decimal {c : Char} (noNumber : NoNumber c) : decimal (c :: more) = none := by
  have minus : one (· == '-') (c :: more) = none := one_none more noNumber.minus
  have whole : wholePart (c :: more) = none := by
    rw [wholePart, bind_none (one_none more noNumber.digit)]
  rw [Phrase.decimal, bind_some (optional_none minus), bind_none whole]

theorem NoNumber.integer {c : Char} (noNumber : NoNumber c) : integer (c :: more) = none := by
  have minus : one (· == '-') (c :: more) = none := one_none more noNumber.minus
  have whole : wholePart (c :: more) = none := by
    rw [wholePart, bind_none (one_none more noNumber.digit)]
  have text : integerText (c :: more) = none := by
    rw [integerText, bind_some (optional_none minus), bind_none whole]
  rw [Phrase.integer, bind_none text]

theorem NoNumber.of_isWordStart {c : Char} (start : isWordStart c = true) : NoNumber c where
  minus := ne_of_isWordStart start (by decide)
  digit := by
    cases digit : c.isDigit with
    | false => rfl
    | true =>
      unfold isWordStart Char.isAlpha Char.isUpper Char.isLower at start
      simp [UInt32.le_iff_toNat_le] at start
      simp [Char.isDigit, UInt32.le_iff_toNat_le] at digit
      rcases start with (upper | lower) | rfl
      · omega
      · omega
      · simp at digit

theorem truth_none {c : Char} (other : c ∉ ['t', 'f', 'T', 'F']) : truth (c :: more) = none := by
  simp only [List.mem_cons, List.not_mem_nil, or_false, not_or] at other
  obtain ⟨t, f, bigT, bigF⟩ := other
  rw [truth, orElse_none (bind_none (exactly_none more (by simpa using Ne.symm t) (by decide))),
    orElse_none (bind_none (exactly_none more (by simpa using Ne.symm f) (by decide))),
    orElse_none (bind_none (exactly_none more (by simpa using Ne.symm bigT) (by decide))),
    bind_none (exactly_none more (by simpa using Ne.symm bigF) (by decide))]

theorem operand_brace : operand inner ('\x7d' :: more) = none := by
  have brace : NoNumber '\x7d' := ⟨by decide, by decide⟩
  have noWord : word ('\x7d' :: more) = none := word_none more (by decide)
  have noCall : call inner ('\x7d' :: more) = none := by rw [call, bind_none noWord]
  have noMacro : macroCall inner ('\x7d' :: more) = none := by rw [macroCall, bind_none noWord]
  have noTest (negated : Bool) : tested inner negated ('\x7d' :: more) = none := by
    rw [tested, bind_none (path_brace more)]
  rw [operand, orElse_none (map_none (truth_none more (by decide))), orElse_none (noTest true),
    orElse_none (noTest false), orElse_none noMacro, orElse_none (map_none noCall),
    orElse_none (map_none (path_brace more)),
    orElse_none (brace.decimal more), brace.integer more]

theorem sum_brace : sum inner ('\x7d' :: more) = none := by
  have bracketed : bracketedSum inner ('\x7d' :: more) = none := by
    rw [bracketedSum, bind_none (exactly_none more (by decide) (by decide))]
  have first : (bracketedSum inner <|> operand inner) ('\x7d' :: more) = none := by
    rw [orElse_none bracketed, operand_brace more]
  rw [sum, sumOf, bind_none (map_none first)]

theorem filteredSum_brace : filteredSum inner ('\x7d' :: more) = none := by
  rw [filteredSum, withFilters, bind_none (map_none (sum_brace more))]

end Brace

section Variables

theorem Dotted.text_append (name : Dotted) (tail : List Char) :
    name.text.toList ++ tail = name.owner.toList ++ '.' :: (name.part.toList ++ tail) := by
  simp [Dotted.text]

/-- The first character of a variable. -/
theorem Dotted.head (name : Dotted) (tail : List Char) :
    ∃ c more, name.text.toList ++ tail = c :: more ∧ isWordStart c = true ∧
      c ∉ ['t', 'f', 'T', 'F', 'n'] := by
  obtain ⟨c, rest, chars, start⟩ := head_isWord name.isOwner
  refine ⟨c, rest ++ '.' :: (name.part.toList ++ tail), ?_, start, name.plain c (by rw [chars]; rfl)⟩
  rw [name.text_append, chars, List.cons_append]

/-- Nothing that begins with another sign is read there. -/
theorem Dotted.exactly_none (name : Dotted) (tail : List Char) {expected : String}
    (other : ∀ c ∈ expected.toList.head?, isWordStart c = false ∨ c = 'n')
    (nonempty : expected.toList ≠ []) : exactly expected (name.text.toList ++ tail) = none := by
  obtain ⟨c, more, chars, start, plain⟩ := name.head tail
  rw [chars]
  refine Reader.exactly_none more ?_ nonempty
  intro same
  rcases other c same with notWord | rfl
  · rw [start] at notWord
    cases notWord
  · exact plain (by simp)

theorem word_owner (name : Dotted) (tail : List Char) :
    word (name.text.toList ++ tail) = some (name.owner, '.' :: (name.part.toList ++ tail)) := by
  have read : word (name.owner.toList ++ '.' :: (name.part.toList ++ tail)) =
      some (String.ofList name.owner.toList, '.' :: (name.part.toList ++ tail)) :=
    word_append name.isOwner (by simp [isWordPart])
  rw [name.text_append]
  rwa [String.ofList_toList] at read

theorem path_append (name : Dotted) (follows : Follows tail) :
    path inner (name.text.toList ++ tail) = some (name.text, tail) := by
  obtain ⟨c, more, rfl, -, -⟩ := follows.head
  have step : dotStep ('.' :: (name.part.toList ++ ' ' :: c :: more)) =
      some ((), ' ' :: c :: more) := by
    have dot : one (· == '.') ('.' :: (name.part.toList ++ ' ' :: c :: more)) =
        some ('.', name.part.toList ++ ' ' :: c :: more) := by simp [one]
    obtain ⟨nonempty, inside⟩ := all_isWord name.isPart
    rw [dotStep, bind_some dot, bind_some (some'_append nonempty inside (by simp [isWordPart]))]
    rfl
  have stops : (dotStep <|> bracketStep inner) (' ' :: c :: more) = none := by
    have dot : dotStep (' ' :: c :: more) = none := by
      rw [dotStep, bind_none (one_none _ (by decide))]
    have bracket : bracketStep inner (' ' :: c :: more) = none := by
      rw [bracketStep, bind_none (one_none _ (by decide))]
    rw [orElse_none dot, bracket]
  have steps : many (dotStep <|> bracketStep inner) ('.' :: (name.part.toList ++ ' ' :: c :: more)) =
      some ([()], ' ' :: c :: more) :=
    many_cons (orElse_some step) (by simp only [List.length_cons, List.length_append]; omega)
      (many_nil stops) stops
  have whole : (do let _ ← word; many (dotStep <|> bracketStep inner))
      (name.text.toList ++ ' ' :: c :: more) = some ([()], ' ' :: c :: more) := by
    rw [bind_some (word_owner name _), steps]
  rw [path, bind_some (raw_append whole), String.ofList_toList]
  rfl

theorem call_dotted (name : Dotted) (tail : List Char) :
    call inner (name.text.toList ++ tail) = none := by
  have bracket : token "(" ('.' :: (name.part.toList ++ tail)) = none := by
    rw [token_stay _ _ (by decide), Reader.exactly_none _ (by decide) (by decide)]
  rw [call, bind_some (word_owner name tail), arguments, bind_none (bind_none bracket)]

theorem operand_append (name : Dotted) (follows : Follows tail) :
    operand inner (name.text.toList ++ tail) = some (.lookup name.text, tail) := by
  have noTruth : truth (name.text.toList ++ tail) = none := by
    obtain ⟨c, more, chars, -, plain⟩ := name.head tail
    rw [chars]
    refine truth_none more ?_
    intro member
    exact plain (List.mem_append_left ['n'] member)
  have noTest (negated : Bool) : tested inner negated (name.text.toList ++ tail) = none := by
    have is : token "is" tail = none := follows.token_none (by decide) (by decide)
    rw [tested, bind_some (path_append name follows), bind_none is]
  have noMacro : macroCall inner (name.text.toList ++ tail) = none := by
    have colons : token "::" ('.' :: (name.part.toList ++ tail)) = none := by
      rw [token_stay _ _ (by decide), Reader.exactly_none _ (by decide) (by decide)]
    rw [macroCall, bind_some (word_owner name tail), bind_none colons]
  rw [operand, orElse_none (map_none noTruth), orElse_none (noTest true),
    orElse_none (noTest false), orElse_none noMacro, orElse_none (map_none (call_dotted name tail)),
    orElse_some (map_some (path_append name follows))]

theorem sum_append (name : Dotted) (follows : Follows tail) :
    sum inner (name.text.toList ++ tail) = some (.plain (.lookup name.text), tail) := by
  have bracketed : bracketedSum inner (name.text.toList ++ tail) = none := by
    rw [bracketedSum, bind_none (name.exactly_none tail (by rintro c ⟨⟩; decide) (by decide))]
  have brace (more : List Char) : (bracketedSum inner <|> operand inner) ('\x7d' :: more) = none := by
    have bracketed : bracketedSum inner ('\x7d' :: more) = none := by
      rw [bracketedSum, bind_none (Reader.exactly_none more (by decide) (by decide))]
    rw [orElse_none bracketed, operand_brace more]
  have first : (bracketedSum inner <|> operand inner) (name.text.toList ++ tail) =
      some (.lookup name.text, tail) := by
    rw [orElse_none bracketed, operand_append name follows]
  exact follows.sumOf (map_some first) fun more => map_none (brace more)

end Variables

section Slots

/-- What stands behind the variable. -/
theorem Slot.text_append (inner : Kind → Reader Expr) (slot : Slot) (ends : Stops tail) :
    ∃ behind, slot.text.toList ++ tail = slot.name.text.toList ++ behind ∧ Follows behind ∧
      many (Phrase.filter inner) behind = some (slot.filter.toList.map (Call.of · []), tail) := by
  have stops : Phrase.filter inner tail = none := by
    have bar : token "|" tail = none := ends.token_none (by decide) (by decide)
    rw [Phrase.filter, bind_none bar]
  cases found : slot.filter with
  | none =>
    refine ⟨tail, ?_, .stops ends, many_nil stops⟩
    rw [Slot.text, found]
  | some f =>
    have isWord := slot.isFilter f found
    obtain ⟨c, more, chars, start⟩ := head_isWord isWord
    obtain ⟨d, rest, tailChars, -, -⟩ := ends.head
    have name : word (f.toList ++ tail) = some (f, tail) := by
      have read : word (f.toList ++ tail) = some (String.ofList f.toList, tail) :=
        word_append isWord (by rw [tailChars]; simp [isWordPart])
      rwa [String.ofList_toList] at read
    have noCall : call inner (f.toList ++ tail) = none := by
      have bracket : token "(" tail = none := ends.token_none (by decide) (by decide)
      rw [call, bind_some name, arguments, bind_none (bind_none bracket)]
    have bar : token "|" (' ' :: '|' :: ' ' :: (f.toList ++ tail)) =
        some ((), ' ' :: (f.toList ++ tail)) := by
      rw [token_one "|" _ (by decide)]
      exact exactly_append "|" _
    have blank : spaces (' ' :: (f.toList ++ tail)) = some ((), f.toList ++ tail) := by
      rw [chars, List.cons_append]
      exact spaces_one _ (isSpace_of_isWordStart start)
    have one : Phrase.filter inner (' ' :: '|' :: ' ' :: (f.toList ++ tail)) =
        some (.of f [], tail) := by
      rw [Phrase.filter, bind_some bar, bind_some blank, orElse_none noCall, bind_some name]
      rfl
    refine ⟨' ' :: '|' :: ' ' :: (f.toList ++ tail), ?_, .filter _, ?_⟩
    · rw [Slot.text, found]
      simp
    · exact many_cons one (by simp; omega) (many_nil stops) stops

theorem Slot.head (slot : Slot) (tail : List Char) :
    ∃ c more, slot.text.toList ++ tail = c :: more ∧ isWordStart c = true ∧
      c ∉ ['t', 'f', 'T', 'F', 'n'] := by
  cases found : slot.filter with
  | none =>
    rw [Slot.text, found]
    exact slot.name.head tail
  | some f =>
    rw [Slot.text, found]
    simp only [String.toList_append, List.append_assoc]
    exact slot.name.head _

theorem filteredSum_append (slot : Slot) (ends : Stops tail) :
    filteredSum inner (slot.text.toList ++ tail) = some (slot.value, tail) := by
  obtain ⟨behind, chars, follows, filters⟩ := slot.text_append inner ends
  rw [chars, filteredSum, withFilters, bind_some (map_some (sum_append slot.name follows)),
    bind_some filters]
  rfl

theorem filteredText_none (slot : Slot) (ends : Stops tail) :
    filteredText inner (slot.text.toList ++ tail) = none := by
  obtain ⟨behind, chars, follows, -⟩ := slot.text_append inner ends
  obtain ⟨c, more, first, start, -⟩ := slot.name.head behind
  have noQuotation : quotation (slot.name.text.toList ++ behind) = none := by
    have sign : one (fun c => c == '"' || c == '\'' || c == '\x60') (c :: more) = none :=
      one_none more (by
        rw [ne_of_isWordStart start (by decide), ne_of_isWordStart start (by decide),
          ne_of_isWordStart start (by decide)]
        rfl)
    rw [first, quotation, bind_none sign]
  have part : concatPart inner (slot.name.text.toList ++ behind) =
      some (.lookup slot.name.text, behind) := by
    have noNumber := NoNumber.of_isWordStart start
    have noDecimal : decimal (slot.name.text.toList ++ behind) = none := by
      rw [first, noNumber.decimal]
    have noInteger : integer (slot.name.text.toList ++ behind) = none := by
      rw [first, noNumber.integer]
    rw [concatPart, orElse_none (map_none (call_dotted slot.name behind)), orElse_none noDecimal,
      orElse_none noInteger, orElse_none (map_none noQuotation), map_some (path_append slot.name follows)]
  have noMore : (do token "~"; spaces; concatPart inner) behind = none := by
    have tilde : token "~" behind = none := follows.token_none (by decide) (by decide)
    rw [bind_none tilde]
  have noConcatenation : concatenation inner (slot.name.text.toList ++ behind) = none := by
    rw [concatenation, bind_some part, bind_some (many_nil noMore)]
    rfl
  rw [chars, filteredText, withFilters,
    bind_none (by rw [orElse_none noConcatenation, map_none noQuotation])]

theorem membership_none (slot : Slot) (ends : Stops tail) :
    membership inner (slot.text.toList ++ tail) = none := by
  have item : (filteredText inner <|> filteredSum inner) (slot.text.toList ++ tail) =
      some (slot.value, tail) := by
    rw [orElse_none (filteredText_none slot ends), filteredSum_append slot ends]
  have noNot : (do spaces; negation) tail = none := by
    obtain ⟨c, more, rfl, notSpace, sign⟩ := ends.head
    have other : "not".toList.head? ≠ some c := by
      intro same
      have found : "not".toList.head? ∈ [some '=', some '\x7d', some '%'] := by
        rw [same]
        simpa using sign
      exact absurd found (by decide)
    rw [bind_some (spaces_one more notSpace), negation,
      bind_none (Reader.exactly_none more other (by decide))]
  have noIn : token "in" tail = none := ends.token_none (by decide) (by decide)
  rw [membership, bind_some item, bind_some (optional_none noNot), bind_none noIn]

theorem comparisonSide_append (slot : Slot) (ends : Stops tail) :
    comparisonSide inner (slot.text.toList ++ tail) = some (slot.value, tail) := by
  rw [comparisonSide, orElse_none (filteredText_none slot ends)]
  exact (Follows.stops ends).sumOf (filteredSum_append slot ends) filteredSum_brace

/-- A variable that nothing is compared with. -/
theorem comparison_append (slot : Slot) (closes : Closes tail) :
    comparison inner (slot.text.toList ++ tail) = some (slot.value, tail) := by
  have noSign : comparisonSign tail = none := by
    have sign (s : String) (nonempty : s.toList ≠ [])
        (other : s.toList.head? ∉ [some '\x7d', some '%']) : token s tail = none :=
      closes.token_none nonempty other
    rw [comparisonSign, orElse_none (bind_none (sign "<=" (by decide) (by decide))),
      orElse_none (bind_none (sign ">=" (by decide) (by decide))),
      orElse_none (bind_none (sign ">" (by decide) (by decide))),
      orElse_none (bind_none (sign "<" (by decide) (by decide))),
      orElse_none (bind_none (sign "==" (by decide) (by decide))),
      bind_none (sign "!=" (by decide) (by decide))]
  rw [comparison, bind_some (comparisonSide_append slot (.closing closes)),
    bind_some (optional_none (bind_none noSign))]
  rfl

/-- A text in quotes on one side of a comparison. -/
theorem comparisonSide_quoted {s : String} (quotable : '"' ∉ s.toList) (closes : Closes tail) :
    comparisonSide inner ('"' :: (s.toList ++ '"' :: tail)) = some (.plain (.text s), tail) := by
  have noNumber : NoNumber '"' := ⟨by decide, by decide⟩
  have noCall : call inner ('"' :: (s.toList ++ '"' :: tail)) = none := by
    rw [call, bind_none (word_none _ (by decide))]
  have inside : spanned (· != '"') (s.toList ++ '"' :: tail) = some (s.toList, '"' :: tail) :=
    spanned_append (fun c member => bne_iff_ne.2 fun same => quotable (same ▸ member)) (by simp)
  have quotes : quotation ('"' :: (s.toList ++ '"' :: tail)) = some (s, tail) := by
    have opens : one (fun c => c == '"' || c == '\'' || c == '\x60')
        ('"' :: (s.toList ++ '"' :: tail)) = some ('"', s.toList ++ '"' :: tail) := rfl
    have ends : one (· == '"') ('"' :: tail) = some ('"', tail) := rfl
    rw [quotation, bind_some opens, bind_some inside, bind_some ends, String.ofList_toList]
    rfl
  have part : concatPart inner ('"' :: (s.toList ++ '"' :: tail)) = some (.text s, tail) := by
    rw [concatPart, orElse_none (map_none noCall), orElse_none (noNumber.decimal _),
      orElse_none (noNumber.integer _), orElse_some (map_some quotes)]
  have noMore : (do token "~"; spaces; concatPart inner) tail = none := by
    rw [bind_none (closes.token_none (by decide) (by decide))]
  have noConcatenation : concatenation inner ('"' :: (s.toList ++ '"' :: tail)) = none := by
    rw [concatenation, bind_some part, bind_some (many_nil noMore)]
    rfl
  have noFilter : Phrase.filter inner tail = none := by
    rw [Phrase.filter, bind_none (closes.token_none (by decide) (by decide))]
  rw [comparisonSide, orElse_some]
  rw [filteredText, withFilters,
    bind_some (by rw [orElse_none noConcatenation, map_some quotes]), bind_some (many_nil noFilter)]
  rfl

/-- A variable that is compared with a text. -/
theorem comparison_equals (slot : Slot) {s : String} (quotable : '"' ∉ s.toList)
    (closes : Closes tail) :
    comparison inner (slot.text.toList ++ ' ' :: '=' :: '=' :: ' ' :: '"' ::
        (s.toList ++ '"' :: tail)) =
      some (.plain (.compare .equal slot.value (.plain (.text s))), tail) := by
  obtain ⟨behind, eq⟩ : ∃ behind, ' ' :: '"' :: (s.toList ++ '"' :: tail) = behind := ⟨_, rfl⟩
  have ends : Stops (' ' :: '=' :: '=' :: behind) := .equals behind
  have sign : comparisonSign (' ' :: '=' :: '=' :: behind) = some (.equal, behind) := by
    have other (s : String) (nonempty : s.toList ≠ [])
        (other : s.toList.head? ∉ [some '=', some '\x7d', some '%']) :
        token s (' ' :: '=' :: '=' :: behind) = none := ends.token_none nonempty other
    have found : token "==" (' ' :: '=' :: '=' :: behind) = some ((), behind) := by
      rw [token_one "==" _ (by decide)]
      exact exactly_append "==" behind
    rw [comparisonSign, orElse_none (bind_none (other "<=" (by decide) (by decide))),
      orElse_none (bind_none (other ">=" (by decide) (by decide))),
      orElse_none (bind_none (other ">" (by decide) (by decide))),
      orElse_none (bind_none (other "<" (by decide) (by decide))), orElse_some (bind_some found)]
  have right : (do
      let sign ← comparisonSign
      spaces
      let right ← comparisonSide inner
      pure (sign, right)) (' ' :: '=' :: '=' :: behind) =
        some ((.equal, .plain (.text s)), tail) := by
    rw [bind_some sign, ← eq, bind_some (spaces_one _ (by decide)),
      bind_some (comparisonSide_quoted quotable closes)]
    rfl
  rw [eq, comparison, bind_some (comparisonSide_append slot ends), bind_some (optional_some right)]
  rfl

/-- A clause that begins with a variable is a comparison. -/
theorem clause_append (slot : Slot) {behind : List Char} {e : Expr} (ends : Stops behind)
    (read : comparison inner (slot.text.toList ++ behind) = some (e, tail)) :
    clause inner (slot.text.toList ++ behind) = some (e.withNegation false, tail) := by
  obtain ⟨further, chars, -, -⟩ := slot.text_append inner ends
  have noNot : negation (slot.text.toList ++ behind) = none := by
    rw [chars, negation, bind_none (slot.name.exactly_none further (by simp) (by decide))]
  have stay : spaces (slot.text.toList ++ behind) = some ((), slot.text.toList ++ behind) := by
    obtain ⟨c, more, front, start, -⟩ := slot.name.head further
    rw [chars, front, spaces_stay more (isSpace_of_isWordStart start)]
  rw [clause, orElse_some]
  rw [bind_some (optional_none noNot), bind_some stay,
    bind_some (by rw [orElse_none (membership_none slot ends), read])]
  rfl

theorem Condition.equals_append (slot : Slot) (s : String) (quotable : '"' ∉ s.toList)
    (tail : List Char) : (equals slot s quotable).text.toList ++ tail =
      slot.text.toList ++ ' ' :: '=' :: '=' :: ' ' :: '"' :: (s.toList ++ '"' :: tail) := by
  simp [Condition.text]

/-- A condition that fills a tag. -/
theorem condition_append (asked : Condition) (closes : Closes tail) :
    condition inner (asked.text.toList ++ tail) = some (asked.value, tail) := by
  have first : clause inner (asked.text.toList ++ tail) = some (asked.value, tail) := by
    cases asked with
    | holds slot => exact clause_append slot (.closing closes) (comparison_append slot closes)
    | equals slot s quotable =>
      rw [Condition.equals_append]
      exact clause_append slot (.equals _) (comparison_equals slot quotable closes)
  have noMore (name : String) (nonempty : name.toList ≠ [])
      (other : name.toList.head? ∉ [some '\x7d', some '%']) : connective name tail = none := by
    rw [connective, bind_none (closes.token_none nonempty other)]
  have stops : (do
      let isAnd ← (do connective "or"; pure false) <|> (do connective "and"; pure true)
      let e ← clause inner
      pure (isAnd, e)) tail = none := by
    rw [bind_none]
    rw [orElse_none (bind_none (noMore "or" (by decide) (by decide))),
      bind_none (noMore "and" (by decide) (by decide))]
  rw [condition, bind_some first, bind_some (many_nil stops)]
  rfl

end Slots

end ModelForge.Template.Phrase
