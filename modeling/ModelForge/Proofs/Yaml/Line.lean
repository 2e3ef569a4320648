import Mathlib.Data.Bool.AllAny
import ModelForge.Proofs.Yaml.Literal
import ModelForge.Proofs.Yaml.Plain
import ModelForge.Proofs.Yaml.Quoted
import ModelForge.Proofs.Yaml.Step

/-! The lines of a mapping are read back. A line is three steps: the key, its colon, and the value
in the style that was chosen for it. -/
namespace ModelForge.Yaml.Scan

variable {s t : ScanState} {c : Char} {column : Nat} {rest text : List Char} {scan : Scan Unit}

section Values

open Written (style canBePlain canBeSingleQuoted)

/-- What a text that is written in a style is like. -/
theorem style_cases (value : String) :
    (style value = .plain ∧ canBePlain value.toList = true ∧ value.toList ≠ []) ∨
    (style value = .singleQuoted ∧ canBeSingleQuoted value.toList = true ∧ '\n' ∉ value.toList) ∨
    style value = .doubleQuoted ∨
    (style value = .literal ∧ value.toList ≠ [] ∧ ∀ c ∈ value.toList, Written.isPrintable c = true) := by
  have quotes (unfed : '\n' ∉ value.toList) :
      let quoted := if canBeSingleQuoted value.toList then Style.singleQuoted else .doubleQuoted
      (quoted = .singleQuoted ∧ canBeSingleQuoted value.toList = true ∧ '\n' ∉ value.toList) ∨
        quoted = .doubleQuoted := by
    by_cases can : canBeSingleQuoted value.toList = true <;> simp [can, unfed]
  by_cases fed : value.toList.contains '\n' = true
  · by_cases can : Written.canBeLiteral value.toList = true
    · have own := can
      simp only [Written.canBeLiteral, Written.isOrdinary, Bool.and_eq_true, List.all_eq_true,
        Bool.not_eq_true', List.isEmpty_eq_false_iff] at own
      exact .inr (.inr (.inr ⟨by simp only [style, fed, can, if_true], own.1.2, own.1.1.1⟩))
    · exact .inr (.inr (.inl (by simp only [style, fed, can, if_true]; rfl)))
  · have unfed : '\n' ∉ value.toList := by simpa using fed
    unfold style
    simp only [fed, Bool.false_eq_true, if_false]
    split
    case h_1 text found =>
      split
      case isTrue plain =>
        refine .inl ⟨rfl, plain.2, fun empty => ?_⟩
        have blank : value = "" := String.toList_eq_nil_iff.1 empty
        subst blank
        cases found
      case isFalse => exact .inr ((quotes unfed).imp_right .inl)
    case h_2 => exact .inr ((quotes unfed).imp_right .inl)

theorem lastEnd_concat (s : List Char) (solid : Written.isBreak c = false) :
    lastEnd (s ++ [c]) = ['\n'] := by
  simp [lastEnd, solid]

/-- A text with its last line end goes up to the start of a line. -/
theorem columnPast_lastEnd (s : List Char) : columnPast column (s ++ lastEnd s) = 0 := by
  obtain rfl | ⟨init, last, rfl⟩ := List.eq_nil_or_concat' s
  · rfl
  cases ends : Written.isBreak last with
  | false =>
    rw [lastEnd_concat init ends, columnPast_append]
    rfl
  | true => simp [lastEnd, ends, columnPast, isBreak_written ends]

theorem getLast?_lines (broken : Bool) (s : List Char) : (lines broken s).getLast? = s.getLast? := by
  induction s generalizing broken with
  | nil => rfl
  | cons c s ih =>
    rw [lines, Written.indented]
    split
    · rw [List.getLast?_cons, List.getLast?_cons, ← lines, ih]
    · rw [← lines, List.getLast?_append, ih, List.getLast?_append, List.getLast?_cons]
      cases final : s.getLast? <;> simp [List.getLast?_cons, final]

theorem lastEnd_literal {s : List Char} (some : s ≠ []) : lastEnd (Written.literal s) = lastEnd s := by
  have last := List.getLast?_eq_some_getLast some
  have behind := getLast?_lines true s
  simp [lastEnd, Written.literal, List.getLast?_append, List.getLast?_cons, behind, last]

/-- A plain text ends where its line does. -/
theorem lastEnd_of_isPlain {s : List Char} (plain : IsPlain s) : lastEnd s = ['\n'] := by
  obtain rfl | ⟨init, last, rfl⟩ := List.eq_nil_or_concat' s
  · rfl
  have solid := (plain.inside last (by simp)).resolve_left (plain.ends last (by simp))
  refine lastEnd_concat init ?_
  by_contra bad
  exact absurd (isBreak_written (by simpa using bad)) (by simp [solid.2])

/-- What is written for a value, with the end of its line. -/
def line (value : String) : List Char := Written.scalar value ++ lastEnd (Written.scalar value)

/-- A line is read as a value up to the next line, or up to its own end. -/
inductive ReadsLine (value : String) (column : Nat) (rest : List Char) (scan : Scan Unit) : Prop where
  | whole (reads : Yields scan column (line value) rest (.scalar value (style value)) true)
  | unended {front : List Char} (written : line value = front ++ ['\n'])
      (reads : Yields scan column front ('\n' :: rest) (.scalar value (style value)) false)

/-- A line is read as the value that it was written for. -/
theorem readsLine (value : String) (column : Nat) (inside : column ≠ 0)
    (outside : ∀ c ∈ rest.head?, IsSolid c) :
    ∃ c more scan, line value = c :: more ∧ (IsSolid c ∧ c ≠ '#' ∧ c ≠ '\ufeff') ∧
      Opens c (more ++ rest).head? scan ∧ ReadsLine value column rest scan := by
  rcases style_cases value with ⟨own, can, some⟩ | ⟨own, can, unfed⟩ | own | ⟨own, some, printable⟩
  · have plain := isPlain_of_canBePlain can
    have reads := yields_plain plain some inside outside
    have written : line value = value.toList ++ ['\n'] := by
      simp [line, Written.scalar, own, lastEnd_of_isPlain plain]
    rw [String.ofList_toList, ← own, ← written] at reads
    obtain ⟨c, more, shape⟩ := List.exists_cons_of_ne_nil some
    rw [shape] at can plain written
    simp only [canBePlain, Written.isOrdinary, Written.isMarked, Bool.and_eq_true, Bool.or_eq_false_iff,
      Bool.not_eq_true', List.all_eq_true] at can
    obtain ⟨⟨⟨⟨⟨printable, -⟩, ⟨⟨starts, -⟩, -⟩, -⟩, -⟩, -⟩, -⟩ := can
    obtain ⟨unmarked, free⟩ := starts_of_startsMarked starts
    obtain ⟨blank, sign⟩ := plain.starts c rfl
    have solid := (plain.inside c (by simp)).resolve_left blank
    have mark : c ≠ '\ufeff' := by
      rintro rfl
      exact absurd (printable _ List.mem_cons_self) (by decide)
    refine ⟨c, more ++ ['\n'], _, written, ⟨solid, sign, mark⟩, .plain solid unmarked ?_, .whole reads⟩
    intro special
    have behind := free special
    cases more with
    | nil => exact absurd behind (by decide)
    | cons d more =>
      by_contra gap
      have written : Written.isGap (.some d) = true := isGap_written (by simpa using gap)
      simp [written] at behind
  · have reads : Yields (quotedScalar true) column _ ('\n' :: rest) _ false :=
      yields_single value.toList can unfed (by simp)
    rw [String.ofList_toList, ← own] at reads
    have written : line value = Written.singleQuoted value.toList ++ ['\n'] := by
      simp only [line, Written.scalar, own, Written.singleQuoted]
      rw [lastEnd_concat _ (by decide)]
    exact ⟨_, _, _, written, by decide, .single _, .unended written reads⟩
  · have reads : Yields (quotedScalar false) column _ ('\n' :: rest) _ false :=
      yields_double value.toList (by simp)
    rw [String.ofList_toList, ← own] at reads
    have written : line value = Written.doubleQuoted value.toList ++ ['\n'] := by
      simp only [line, Written.scalar, own, Written.doubleQuoted]
      rw [lastEnd_concat _ (by decide)]
    exact ⟨_, _, _, written, by decide, .double _, .unended written reads⟩
  · have reads : Yields (blockScalar true) column _ rest _ true :=
      yields_literal some printable outside
    have written : line value = Written.literal value.toList ++ lastEnd value.toList := by
      simp only [line, Written.scalar, own, lastEnd_literal some]
    rw [String.ofList_toList, ← own, ← written] at reads
    exact ⟨_, _, _, written, by decide, .literal _, .whole reads⟩

end Values

section Entries

/-- The next line is the next thing, up to the end of the line before. -/
structure Between (s : ScanState) (started : Bool) (text : List Char) (kinds : List TokenKind) : Prop
    extends Outermost s started kinds where
  place : (At s 0 text ∧ s.keyAllowed = true) ∨ ∃ column, At s column ('\n' :: text)

variable {started : Bool} {kinds : List TokenKind} {word : List Char}

theorem Between.arrives (between : Between s started text kinds)
    (outside : ∀ c ∈ text.head?, IsSolid c ∧ c ≠ '#' ∧ c ≠ '\ufeff') :
    ∃ t, (toNextToken (s.rest.length + 1)).run.run s = (.ok (), t) ∧ At t 0 text ∧
      t.keyAllowed = true ∧ Outermost t started kinds := by
  rcases between.place with ⟨at_, allowed⟩ | ⟨column, at_⟩
  · exact ⟨s, takes_toNextToken [] (by simp) outside s at_, at_, allowed,
      between.toOutermost⟩
  · have longer : s.rest.length + 1 = text.length + 2 := by simp [at_.rest]
    have past : At (s.past ['\n']) 0 text := At.past at_
    refine ⟨{ s.past ['\n'] with keyAllowed := true }, ?_, ⟨past.1, past.2, past.3, past.4⟩, rfl,
      between.keys, between.level, between.tokens, between.count⟩
    rw [longer, leads_toNextToken_line outside s at_]

/-- A letter that keys are made of. -/
def IsLetter (c : Char) : Prop := c.isLower = true ∨ c = '_'

instance (c : Char) : Decidable (IsLetter c) := inferInstanceAs (Decidable (_ ∨ _))

theorem IsLetter.ne {d : Char} (letter : IsLetter c) (other : ¬IsLetter d) : c ≠ d := by
  rintro rfl
  exact other letter

theorem IsLetter.solid (letter : IsLetter c) : IsSolid c := by
  have ne {d : Char} (other : ¬IsLetter d) : (c == d) = false := by simpa using letter.ne other
  constructor
  · rw [isBlank, ne (by decide), ne (by decide)]
    rfl
  · rw [isBreak, ne (by decide), ne (by decide), ne (by decide), ne (by decide), ne (by decide)]
    rfl

/-- A key that the scan keeps until its colon. -/
structure IsKey (word : List Char) : Prop where
  some : word ≠ []
  letters : ∀ c ∈ word, IsLetter c
  short : (String.ofList word).utf8ByteSize ≤ keyLengthLimit

/-- The tokens of a line. -/
def entryKinds (key value : String) : List TokenKind :=
  [.key, .scalar key .plain, .value, .scalar value (Written.style value)]

/-- The lines of a mapping. -/
abbrev mappingText (entries : List (String × String)) : List Char :=
  entries.flatMap fun entry => Written.entry entry.1 entry.2

/-- The tokens of the lines of a mapping. -/
abbrev mappingKinds (entries : List (String × String)) : List TokenKind :=
  entries.flatMap fun entry => entryKinds entry.1 entry.2

theorem entry_eq (key value : String) :
    Written.entry key value = key.toList ++ ':' :: ' ' :: line value := by
  cases last : (Written.scalar value).getLast? with
  | none =>
    rw [List.getLast?_eq_none_iff] at last
    simp [Written.entry, line, lastEnd, last, List.getLast?_append, List.getLast?_cons, Written.isBreak]
  | some c =>
    cases ends : Written.isBreak c <;>
      simp [Written.entry, line, lastEnd, last, ends, List.getLast?_append, List.getLast?_cons]

/-- A key with its colon is two steps. -/
theorem run_steps_key (own : IsKey word) (between : Between s started (word ++ ':' :: ' ' :: text) kinds) :
    ∃ t, (∀ limit, (steps (limit + 2)).run.run s = (steps limit).run.run t) ∧
      (∃ column, At t (column + 1) (' ' :: text)) ∧ t.keyAllowed = false ∧
      Outermost t true
        (kinds ++ opening started ++ [.key, .scalar (String.ofList word) .plain, .value]) := by
  obtain ⟨some, letters, short⟩ := own
  obtain ⟨c, more, rfl⟩ := List.exists_cons_of_ne_nil some
  have letter := letters c List.mem_cons_self
  have solid : ∀ d ∈ c :: more, IsSolid d := fun d member => (letters d member).solid
  obtain ⟨t, arrives, at_, allowed, keys, level, tokens, count⟩ := between.arrives fun d found => by
    obtain rfl := Option.some.inj found
    exact ⟨letter.solid, letter.ne (by decide), letter.ne (by decide)⟩
  obtain ⟨u, possible, token, reads, keyed, position, mark, kind⟩ :=
    run_plainScalar_key at_ some solid (fun d member =>
      have letter := letters d member
      ⟨letter.ne (by decide), letter.ne (by decide), letter.ne (by decide), letter.ne (by decide)⟩)
      rfl allowed keys
  have unmarked : ∀ d ∈ "#,[]\x7b\x7d&*!|>'\"%@\x60".toList, ¬IsLetter d :=
    List.all_iff_forall_prop.1 (by decide)
  have outer : t.indent ≤ (0 : Nat) := at_.outermost
  have first := run_step arrives (near_of_none keys) at_ outer
    (.inr ⟨letter.ne (by decide), letter.ne (by decide)⟩)
    (.plain letter.solid (fun member => unmarked c member letter) fun special => by
      rcases special with rfl | rfl | rfl <;> exact absurd letter (by decide)) reads
  have inside : columnPast 0 (c :: more) = more.length + 1 := by
    rw [columnPast_of_solid fun d member => (solid d member).2]
    simp
  have past := At.past at_
  rw [inside] at past
  have there : At u (more.length + 1) (':' :: ' ' :: text) := by
    subst keyed
    exact ⟨past.1, past.2, past.3, past.4⟩
  have near : Near u := by
    intro key member other found
    subst keyed
    obtain rfl := List.mem_singleton.1 member
    obtain rfl := Option.some.inj found
    simp only [ScanState.past, foldl_past_of_solid t.mark fun d member => (solid d member).2, mark]
    exact ⟨Nat.le_refl _, Nat.add_le_add_left short _⟩
  have outer : u.indent ≤ (more.length + 1 : Nat) := by
    have outermost := there.outermost
    omega
  obtain ⟨v, valued, after, unallowed, outermost⟩ := run_value there (by rw [keyed])
    (by rw [mark, at_.column]) (by rw [keyed]; exact level) (by rw [keyed])
    (by rw [keyed]; exact congrArg (· + 1) count) (position.trans count)
  have second := run_step (takes_toNextToken [] (by simp) (by simp; decide) _ there) near
    there outer (.inl (Nat.succ_ne_zero _)) (.colon rfl) valued
  refine ⟨v, fun limit => ?_, ⟨more.length + 1, after⟩, unallowed, ?_⟩
  · rw [run_steps (limit + 1) first, run_steps limit second]
  · rwa [tokens, List.reverse_reverse, kind] at outermost

/-- A line is three steps. -/
theorem run_steps_entry {key value : String} (own : IsKey key.toList)
    (between : Between s started (Written.entry key value ++ text) kinds)
    (outside : ∀ c ∈ text.head?, IsSolid c) :
    ∃ t, (∀ limit, (steps (limit + 3)).run.run s = (steps limit).run.run t) ∧
      Between t true text (kinds ++ opening started ++ entryKinds key value) := by
  rw [entry_eq, List.append_assoc, List.cons_append, List.cons_append] at between
  obtain ⟨t, firsts, ⟨column, at_⟩, unallowed, keys, level, tokens, count⟩ := run_steps_key own between
  obtain ⟨c, more, scan, shape, ⟨solid, sign, mark⟩, opens, reads⟩ :=
    readsLine value (column + 2) (by omega) outside
  have arrives : (toNextToken (t.rest.length + 1)).run.run t = (.ok (), t.past [' ']) :=
    takes_toNextToken [' '] (by simp) (by simp [shape, solid, sign, mark]) t at_
  have there : At (t.past [' ']) (column + 2) (line value ++ text) := At.past at_
  obtain ⟨indent, indents⟩ := Prod.mk.inj level
  have run {u : ScanState} (done : scan.run.run (t.past [' ']) = (.ok (), u)) (limit : Nat) :
      (steps (limit + 3)).run.run s = (steps limit).run.run u := by
    have outer : t.indent ≤ (column + 2 : Nat) := by
      have outermost := at_.outermost
      omega
    have third := run_step arrives (near_of_none keys) (by rwa [shape] at there) outer
      (.inl (Nat.succ_ne_zero _)) opens done
    rw [firsts (limit + 1), run_steps limit third]
  have kinds_eq : kinds ++ opening started ++ entryKinds key value =
      kinds ++ opening started ++ [.key, .scalar (String.ofList key.toList) .plain, .value] ++
        [.scalar value (Written.style value)] := by simp [entryKinds]
  rw [kinds_eq]
  cases reads with
  | whole reads =>
    obtain ⟨start, stop, done⟩ := reads _ there indent unallowed keys
    have past := At.past there
    rw [line, columnPast_lastEnd] at past
    refine ⟨_, run done, ⟨keys, level, ?_, ?_⟩, .inl ⟨⟨past.1, past.2, past.3, past.4⟩, rfl⟩⟩
    · simpa using tokens
    · simpa using count
  | @unended front written reads =>
    have there : At (t.past [' ']) (column + 2) (front ++ '\n' :: text) := by
      simpa [written] using there
    obtain ⟨start, stop, done⟩ := reads _ there indent unallowed keys
    have past := At.past there
    refine ⟨_, run done, ⟨keys, level, ?_, ?_⟩, .inr ⟨_, ⟨past.1, past.2, past.3, past.4⟩⟩⟩
    · simpa using tokens
    · simpa using count

/-- What comes behind a line starts with a letter. -/
theorem head_entries {entries : List (String × String)}
    (own : ∀ entry ∈ entries, IsKey entry.1.toList) :
    ∀ c ∈ (mappingText entries).head?, IsSolid c := by
  cases entries with
  | nil => simp
  | cons entry entries =>
    obtain ⟨some, letters, -⟩ := own entry List.mem_cons_self
    obtain ⟨c, more, shape⟩ := List.exists_cons_of_ne_nil some
    intro d found
    have first : c = d := by simpa [entry_eq, shape] using found
    exact first ▸ (letters c (by simp [shape])).solid

theorem length_entries {entries : List (String × String)}
    (own : ∀ entry ∈ entries, IsKey entry.1.toList) :
    3 * entries.length ≤ (mappingText entries).length := by
  induction entries with
  | nil => simp
  | cons entry entries ih =>
    obtain ⟨own, others⟩ := List.forall_mem_cons.1 own
    have longer := List.length_pos_of_ne_nil own.some
    have behind := ih others
    have whole : mappingText (entry :: entries) =
        entry.1.toList ++ ':' :: ' ' :: line entry.2 ++ mappingText entries := by
      rw [mappingText, List.flatMap_cons, entry_eq]
    simp only [whole, List.length_append, List.length_cons]
    omega

/-- Behind the last line the mapping and the text are over. -/
theorem run_steps_end (between : Between s true [] kinds) (limit : Nat) :
    ∃ t, (steps (limit + 1)).run.run s = (.ok (), t) ∧
      t.tokens.map Token.kind = (kinds ++ [TokenKind.blockEnd, .streamEnd]).reverse := by
  obtain ⟨t, arrives, at_, allowed, keys, level, tokens, count⟩ := between.arrives (by simp)
  obtain ⟨indent, indents⟩ := Prod.mk.inj level
  have left : t.indent ≤ t.mark.column := by simp [indent]
  have stays : (unroll (0 : Nat)).run.run t = (.ok (), t) := run_unroll (by simp [indent])
  have closes : (unroll (-1)).run.run t = (.ok (), { t with
      indent := -1
      indents := []
      tokens := ⟨.blockEnd, t.mark, t.mark⟩ :: t.tokens
      count := t.count + 1 }) := by
    have flat := at_.flat
    obtain ⟨_, _, _, _, _, _, _, _, _⟩ := t
    subst flat indent indents
    rfl
  refine ⟨{ t with
    indent := -1
    indents := []
    keyAllowed := false
    tokens := ⟨.streamEnd, t.mark, t.mark⟩ :: ⟨.blockEnd, t.mark, t.mark⟩ :: t.tokens
    count := t.count + 2 }, ?_, by simp [tokens]⟩
  rw [steps, Action.run_bind]
  simp only [step, Action.run_bind, run_get, arrives, run_dropStaleKeys (near_of_none keys), stays,
    at_.rest, at_.column, List.head?_nil, ne_eq, not_true_eq_false, if_false, closes]
  rw [run_dropKey_none (by exact keys)]
  rfl

theorem run_steps_entries {entries : List (String × String)} {limit : Nat}
    (own : ∀ entry ∈ entries, IsKey entry.1.toList)
    (between : Between s true (mappingText entries) kinds)
    (enough : 3 * entries.length < limit) :
    ∃ t, (steps limit).run.run s = (.ok (), t) ∧
      t.tokens.map Token.kind = (kinds ++ mappingKinds entries ++
        [TokenKind.blockEnd, .streamEnd]).reverse := by
  induction entries generalizing s kinds limit with
  | nil =>
    obtain ⟨limit, rfl⟩ := Nat.exists_eq_add_one_of_ne_zero (Nat.ne_zero_of_lt enough)
    simpa using run_steps_end between limit
  | cons entry entries ih =>
    rw [List.length_cons] at enough
    obtain ⟨limit, rfl⟩ := Nat.exists_eq_add_of_le' (show 3 ≤ limit by omega)
    obtain ⟨own, others⟩ := List.forall_mem_cons.1 own
    have first : Between s true (Written.entry entry.1 entry.2 ++ mappingText entries) kinds := between
    obtain ⟨t, runs, behind⟩ := run_steps_entry own first (head_entries others)
    have fewer : 3 * entries.length < limit := by omega
    obtain ⟨u, ends, tokens⟩ := ih others behind fewer
    exact ⟨u, (runs limit).trans ends, by simpa [opening] using tokens⟩

end Entries

end ModelForge.Yaml.Scan
