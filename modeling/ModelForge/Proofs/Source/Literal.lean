import ModelForge.Template.Filter

/-! How texts in quotes are read in the two languages that files are generated in. One machine
takes a file character by character; a language says what it finds between two quotes and what
opens a remark. Only what can occur in a generated file is covered: of the ways to write a text
the one with a quote at each end, and of the remarks those that go on to the end of the line. -/
namespace ModelForge.Source

/-- What a file consists of besides its remarks. -/
inductive Token where
  | sign (c : Char)
  | text (s : String)
deriving DecidableEq

/-- How texts and remarks are written in a language. -/
structure Language where
  /-- The character that opens a remark, and whether it takes two of them. -/
  remark : Char
  doubled : Bool
  /-- Whether a carriage return and a line feed count as the line feed alone. -/
  joinsLineEnds : Bool
  /-- The characters that cannot stand in a text as they are. -/
  refused : Char → Bool
  /-- What a letter behind a backslash stands for. -/
  letter : Char → Option Char
  /-- The number of hexadecimal digits behind a letter, with the greatest code they can give. -/
  digits : Char → Option (Nat × Nat)
  /-- The letter that takes hexadecimal digits in braces. -/
  braced : Option Char
  /-- Whether a backslash takes away the line end behind it, and the blanks after that. -/
  continues : Bool

/-- How far the reading of a file has come. In a text, `value` is what has been read of it, the
last character first. -/
inductive Place where
  | code
  /-- Behind the first of two characters that open a remark. -/
  | half
  | remark
  | text (value : List Char)
  /-- Behind a carriage return. -/
  | carriage (value : List Char)
  /-- Behind a backslash. -/
  | escape (value : List Char)
  | escapedCarriage (value : List Char)
  /-- Where blanks are passed over. -/
  | skipping (value : List Char)
  /-- With so many hexadecimal digits to come, which give no more than the limit. -/
  | digits (value : List Char) (left limit code : Nat)
  | brace (value : List Char)
  /-- With so many hexadecimal digits behind the brace. -/
  | braced (value : List Char) (count code : Nat)
  | broken
deriving DecidableEq

namespace Language

def hexDigit? (c : Char) : Option Nat :=
  if '0' ≤ c ∧ c ≤ '9' then some (c.toNat - '0'.toNat)
  else if 'a' ≤ c ∧ c ≤ 'f' then some (c.toNat - 'a'.toNat + 10)
  else if 'A' ≤ c ∧ c ≤ 'F' then some (c.toNat - 'A'.toNat + 10)
  else none

/-- A text with the character of a code behind it, if there is one. -/
def behind (value : List Char) (code limit : Nat) : Place :=
  if code ≤ limit ∧ code.isValidChar then .text (Char.ofNat code :: value) else .broken

section Steps

variable (language : Language)

def inCode (c : Char) : List Token × Place :=
  if c = '"' then ([], .text [])
  else if c = language.remark then ([], if language.doubled then .half else .remark)
  else ([.sign c], .code)

def inText (value : List Char) (c : Char) : List Token × Place :=
  if c = '"' then ([.text (String.ofList value.reverse)], .code)
  else if c = '\\' then ([], .escape value)
  else if language.joinsLineEnds && c = '\r' then ([], .carriage value)
  else if language.refused c then ([], .broken)
  else ([], .text (c :: value))

def escaped (value : List Char) (c : Char) : Place :=
  if language.continues && c = '\n' then .skipping value
  else if language.continues && c = '\r' then .escapedCarriage value
  else if language.braced = some c then .brace value
  else match language.letter c, language.digits c with
    | some d, _ => .text (d :: value)
    | none, some (left, limit) => .digits value left limit 0
    | none, none => .broken

def step (place : Place) (c : Char) : List Token × Place :=
  match place with
  | .code => inCode language c
  | .half =>
    if c = language.remark then ([], .remark)
    else ((inCode language c).map (.sign language.remark :: ·) id)
  | .remark => ([], if c = '\n' then .code else .remark)
  | .text value => inText language value c
  | .carriage value => ([], if c = '\n' then .text ('\n' :: value) else .broken)
  | .escape value => ([], escaped language value c)
  | .escapedCarriage value => ([], if c = '\n' then .skipping value else .broken)
  | .skipping value =>
    if c = ' ' ∨ c = '\t' ∨ c = '\r' ∨ c = '\n' then ([], .skipping value)
    else inText language value c
  | .digits value left limit code =>
    match hexDigit? c with
    | none => ([], .broken)
    | some d =>
      ([], if left ≤ 1 then behind value (16 * code + d) limit
        else .digits value (left - 1) limit (16 * code + d))
  | .brace value => ([], if c = '\x7b' then .braced value 0 0 else .broken)
  | .braced value count code =>
    if c = '\x7d' ∧ 0 < count then ([], behind value code 0x10ffff)
    else if c = '_' ∧ 0 < count then ([], .braced value count code)
    else match hexDigit? c with
      | none => ([], .broken)
      | some d => ([], if count < 6 then .braced value (count + 1) (16 * code + d) else .broken)
  | .broken => ([], .broken)

/-- Goes on reading from a place. -/
def run (place : Place) : List Char → List Token × Place
  | [] => ([], place)
  | c :: rest =>
    let (first, next) := step language place c
    let (more, last) := run next rest
    (first ++ more, last)

/-- The tokens of a file, if it does not end inside a text. -/
def tokens? (s : String) : Option (List Token) :=
  match language.run .code s.toList with
  | (tokens, .code) => some tokens
  | _ => none

/-- Whether a character can stand in a text as it is. -/
def isPlain (c : Char) : Bool :=
  c != '"' && c != '\\' && !(language.joinsLineEnds && c = '\r') && !language.refused c

end Steps

/-- The language of the generated code. -/
def program : Language where
  remark := '/'
  doubled := true
  joinsLineEnds := true
  refused := fun _ => false
  letter := fun
    | 'n' => some '\n'
    | 'r' => some '\r'
    | 't' => some '\t'
    | '0' => some '\x00'
    | '\\' => some '\\'
    | '\'' => some '\''
    | '"' => some '"'
    | _ => none
  digits := fun c => if c = 'x' then some (2, 0x7f) else none
  braced := some 'u'
  continues := true

/-- The language of the build manifest. -/
def manifest : Language where
  remark := '#'
  doubled := false
  joinsLineEnds := false
  refused := fun c => (c < ' ' && c != '\t') || c = '\x7f'
  letter := fun
    | 'b' => some '\x08'
    | 't' => some '\t'
    | 'n' => some '\n'
    | 'f' => some '\x0c'
    | 'r' => some '\r'
    | '"' => some '"'
    | '\\' => some '\\'
    | _ => none
  digits := fun
    | 'u' => some (4, 0x10ffff)
    | 'U' => some (8, 0x10ffff)
    | _ => none
  braced := none
  continues := false

section Runs

variable {language : Language} {place : Place} {s t : List Char}

theorem run_cons (place : Place) (c : Char) (rest : List Char) :
    language.run place (c :: rest) =
      ((language.step place c).1 ++ (language.run (language.step place c).2 rest).1,
        (language.run (language.step place c).2 rest).2) := rfl

theorem run_append (place : Place) (s t : List Char) :
    language.run place (s ++ t) =
      ((language.run place s).1 ++ (language.run (language.run place s).2 t).1,
        (language.run (language.run place s).2 t).2) := by
  induction s generalizing place with
  | nil => rfl
  | cons c rest ih => simp [run, ih]

theorem run_of_tokens? {s : String} {tokens : List Token}
    (reads : language.tokens? s = some tokens) : (language.run .code s.toList).1 = tokens := by
  unfold tokens? at reads
  split at reads
  · rename_i ran
    rw [ran]
    exact Option.some.inj reads
  · cases reads

theorem isPlain_iff {c : Char} : language.isPlain c = true ↔
    c ≠ '"' ∧ c ≠ '\\' ∧ (language.joinsLineEnds && c = '\r') = false ∧
      language.refused c = false := by
  cases joins : language.joinsLineEnds <;> simp [isPlain, joins, and_assoc]

theorem step_plain {value : List Char} {c : Char} (plain : language.isPlain c = true) :
    language.step (.text value) c = ([], .text (c :: value)) := by
  obtain ⟨noQuote, noBackslash, noReturn, allowed⟩ := isPlain_iff.1 plain
  simp [step, inText, noQuote, noBackslash, noReturn, allowed]

/-- Plain characters are read as they stand. -/
theorem run_plain (value : List Char) (plain : ∀ c ∈ s, language.isPlain c = true) :
    language.run (.text value) s = ([], .text (s.reverse ++ value)) := by
  induction s generalizing value with
  | nil => rfl
  | cons c rest ih =>
    rw [run_cons, step_plain (plain c List.mem_cons_self),
      ih (c :: value) fun d member => plain d (List.mem_cons_of_mem _ member)]
    simp

theorem run_broken (s : List Char) : language.run .broken s = ([], .broken) := by
  induction s with
  | nil => rfl
  | cons c rest ih =>
    rw [run_cons, step, ih]
    rfl

/-- How much of a text has been read at a place inside it. -/
def held : Place → Option Nat
  | .text value | .carriage value | .escape value | .escapedCarriage value | .skipping value
  | .brace value => some value.length
  | .digits value _ _ _ | .braced value _ _ => some value.length
  | _ => none

/-- What one character does inside a text: it ends it, or adds no more than itself. -/
inductive Inside (length : Nat) : List Token × Place → Prop where
  | ends (s : String) (exact : s.toList.length = length) : Inside length ([.text s], .code)
  | further (place : Place) (now : Nat) (holds : held place = some now) (most : now ≤ length + 1) :
      Inside length ([], place)
  | broken : Inside length ([], .broken)

theorem inText_inside (value : List Char) (c : Char) :
    Inside value.length (language.inText value c) := by
  unfold inText
  split
  · exact .ends _ (by simp)
  · split
    · exact .further _ _ rfl (by omega)
    · split
      · exact .further _ _ rfl (by omega)
      · split
        · exact .broken
        · exact .further _ _ rfl (by simp)

theorem behind_inside (value : List Char) (code limit : Nat) :
    Inside value.length ([], behind value code limit) := by
  unfold behind
  split
  · exact .further _ _ rfl (by simp)
  · exact .broken

theorem escaped_inside (value : List Char) (c : Char) :
    Inside value.length ([], language.escaped value c) := by
  unfold escaped
  split
  · exact .further _ _ rfl (by omega)
  · split
    · exact .further _ _ rfl (by omega)
    · split
      · exact .further _ _ rfl (by omega)
      · split
        · exact .further _ _ rfl (by simp)
        · exact .further _ _ rfl (by omega)
        · exact .broken

theorem step_inside {length : Nat} (holds : held place = some length) (c : Char) :
    Inside length (language.step place c) := by
  cases place with
  | code => cases holds
  | half => cases holds
  | remark => cases holds
  | broken => cases holds
  | text value =>
    obtain rfl : value.length = length := Option.some.inj holds
    exact inText_inside value c
  | carriage value =>
    obtain rfl : value.length = length := Option.some.inj holds
    rw [step]
    split
    · exact .further _ _ rfl (by simp)
    · exact .broken
  | escape value =>
    obtain rfl : value.length = length := Option.some.inj holds
    exact escaped_inside value c
  | escapedCarriage value =>
    obtain rfl : value.length = length := Option.some.inj holds
    rw [step]
    split
    · exact .further _ _ rfl (by omega)
    · exact .broken
  | skipping value =>
    obtain rfl : value.length = length := Option.some.inj holds
    rw [step]
    split
    · exact .further _ _ rfl (by omega)
    · exact inText_inside value c
  | digits value left limit code =>
    obtain rfl : value.length = length := Option.some.inj holds
    rw [step]
    split
    · exact .broken
    · split
      · exact behind_inside value _ limit
      · exact .further _ _ rfl (by omega)
  | brace value =>
    obtain rfl : value.length = length := Option.some.inj holds
    rw [step]
    split
    · exact .further _ _ rfl (by omega)
    · exact .broken
  | braced value count code =>
    obtain rfl : value.length = length := Option.some.inj holds
    rw [step]
    split
    · exact behind_inside value code _
    · split
      · exact .further _ _ rfl (by omega)
      · split
        · exact .broken
        · split
          · exact .further _ _ rfl (by omega)
          · exact .broken

/-- A text takes a character for each of its own, and one for the quote behind it. -/
theorem run_inside {length : Nat} (holds : held place = some length) (s : List Char) {t : String}
    {more : List Token} (reads : (language.run place s).1 = .text t :: more) :
    t.toList.length + 1 ≤ length + s.length := by
  induction s generalizing place length with
  | nil => cases reads
  | cons c rest ih =>
    rw [run_cons] at reads
    have inside : Inside length (language.step place c) := step_inside holds c
    revert reads
    generalize language.step place c = result at inside
    intro reads
    cases inside with
    | ends s exact =>
      obtain ⟨rfl, -⟩ : s = t ∧ _ := by simpa using reads
      rw [List.length_cons]
      omega
    | further next now holds most =>
      have further := ih holds reads
      rw [List.length_cons]
      omega
    | broken =>
      rw [run_broken] at reads
      cases reads

/-- A character that is not plain adds nothing to the text it stands in. -/
theorem step_other {c : Char} (value : List Char) (other : language.isPlain c = false) :
    (c = '"' ∧ language.step (.text value) c = ([.text (String.ofList value.reverse)], .code)) ∨
      ∃ next, language.step (.text value) c = ([], next) ∧
        (next = .broken ∨ held next = some value.length) := by
  rw [step, inText]
  by_cases quote : c = '"'
  · exact .inl ⟨quote, if_pos quote⟩
  · refine .inr ?_
    rw [if_neg quote]
    by_cases backslash : c = '\\'
    · exact ⟨_, if_pos backslash, .inr rfl⟩
    · rw [if_neg backslash]
      cases joined : language.joinsLineEnds && c = '\r' with
      | true => exact ⟨_, if_pos rfl, .inr rfl⟩
      | false =>
        have refused : language.refused c = true := by
          cases refused : language.refused c with
          | true => rfl
          | false =>
            rw [isPlain_iff.2 ⟨quote, backslash, joined, refused⟩] at other
            cases other
        rw [if_neg (by simp), if_pos refused]
        exact ⟨_, rfl, .inl rfl⟩

/-- A text that is read as it stands is plain. -/
theorem plain_of_run (value : List Char) {more : List Token}
    (reads : (language.run (.text value) (s ++ ['"'])).1 =
      .text (String.ofList (value.reverse ++ s)) :: more) : ∀ c ∈ s, language.isPlain c = true := by
  induction s generalizing value with
  | nil => simp
  | cons c rest ih =>
    cases plain : language.isPlain c with
    | true =>
      rw [List.cons_append, run_cons, step_plain plain, List.nil_append] at reads
      have others := ih (c :: value) (by simpa using reads)
      intro d member
      rcases List.mem_cons.1 member with rfl | member
      · exact plain
      · exact others d member
    | false =>
      rw [List.cons_append, run_cons] at reads
      rcases step_other value plain with ⟨-, ends⟩ | ⟨next, goesOn, broken | holds⟩
      · rw [ends] at reads
        have same := congrArg String.toList (Token.text.inj (List.cons.inj reads).1)
        have lengths := congrArg List.length same
        simp at lengths
      · rw [goesOn, broken, run_broken] at reads
        cases reads
      · rw [goesOn, List.nil_append] at reads
        have most := run_inside holds _ reads
        rw [String.toList_ofList, List.length_append, List.length_reverse, List.length_append,
          List.length_cons, List.length_singleton] at most
        omega

theorem run_quote (language : Language) (s : String) :
    language.run .code (Template.Filter.quote s).toList =
      language.run (.text []) (s.toList ++ ['"']) := by
  have chars : (Template.Filter.quote s).toList = '"' :: (s.toList ++ ['"']) := by
    simp [Template.Filter.quote]
  have opens : language.step .code '"' = ([], .text []) := rfl
  rw [chars, run_cons, opens]
  rfl

/-- A plain text between two quotes is one token. -/
theorem run_quote_plain {s : String} (plain : ∀ c ∈ s.toList, language.isPlain c = true) :
    language.run .code (Template.Filter.quote s).toList = ([.text s], .code) := by
  rw [run_quote, run_append, run_plain [] plain]
  simp [run, step, inText]

/-- Exactly the plain texts are read as they stand. -/
theorem tokens?_quote_iff {s : String} :
    language.tokens? (Template.Filter.quote s) = some [.text s] ↔
      ∀ c ∈ s.toList, language.isPlain c = true := by
  constructor
  · intro reads
    have ran := run_of_tokens? reads
    rw [run_quote] at ran
    have alone : (language.run (.text []) (s.toList ++ ['"'])).1 =
        .text (String.ofList ([].reverse ++ s.toList)) :: [] := by simpa using ran
    exact plain_of_run [] alone
  · intro plain
    rw [tokens?, run_quote_plain plain]

/-- A remark goes on to the end of the line. -/
theorem run_remark (inside : '\n' ∉ s) :
    language.run .remark (s ++ ['\n']) = ([], .code) := by
  induction s with
  | nil => rfl
  | cons c rest ih =>
    rw [List.mem_cons, not_or] at inside
    have one : language.step .remark c = ([], .remark) := by
      rw [step, if_neg (Ne.symm inside.1)]
    rw [List.cons_append, run_cons, one, ih inside.2]
    rfl

end Runs

end Language

end ModelForge.Source
