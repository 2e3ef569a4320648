import Mathlib.Data.Bool.AllAny
import Mathlib.Data.List.Chain
import Mathlib.Data.List.Forall2
import ModelForge.Proofs.Yaml.Gap

/-! Scalars in quotes are read back. Between the quotes a scan takes words and the gaps between
them. Between single quotes a line end is followed by the indentation, which does not count; between
double quotes every line end is escaped. -/
namespace ModelForge.Yaml.Scan

variable {single : Bool} {column limit : Nat} {c : Char} {text front word gap rest : List Char}
  {written : Char → List Char}

/-- The quote that opens and closes a scalar. -/
abbrev quote (single : Bool) : Char := if single then '\'' else '"'

section Words

/-- What stands behind a word in quotes: a gap, or the closing quote. -/
inductive EndsWord (single : Bool) : List Char → Prop where
  | gap {c : Char} {rest : List Char} (gap : (isBlank c || isBreak c) = true) :
      EndsWord single (c :: rest)
  | quote {rest : List Char} (alone : rest.head? ≠ some '\'') :
      EndsWord single (quote single :: rest)

/-- The characters that a scan takes for one in a word in quotes. -/
structure Spells (single : Bool) (front : List Char) (c : Char) : Prop where
  some : front ≠ []
  reads : ∀ {text limit column more rest result},
    Takes (quotedPart single (text ++ [c]) limit) (columnPast column front) more rest result →
    Takes (quotedPart single text (limit + 1)) column (front ++ more) rest result
  solid : ∀ d ∈ front, IsSolid d

theorem length_le_flatMap (some : ∀ c ∈ word, written c ≠ []) :
    word.length ≤ (word.flatMap written).length := by
  induction word with
  | nil => simp
  | cons c word ih =>
    have one := List.length_pos_of_ne_nil (some c List.mem_cons_self)
    have others := ih fun d member => some d (List.mem_cons_of_mem c member)
    simp only [List.flatMap_cons, List.length_cons, List.length_append]
    omega

theorem spells_own (solid : IsSolid c) (other : c ≠ quote single)
    (plain : single = true ∨ c ≠ '\\') : Spells single [c] c := by
  refine ⟨by simp, fun {text limit column more rest result} then_ => ?_, by simpa using solid⟩
  rw [quotedPart]
  refine (Takes.peek 0).bind_looking ((Takes.peek 1).bind_looking ?_)
  have escape : (!single && c == '\\') = false := by
    rcases plain with rfl | plain <;> simp [*]
  have doubled : (single && c == '\'' && (c :: more ++ rest)[1]? == some '\'') = false := by
    cases single with
    | false => rfl
    | true => simp [show c ≠ '\'' from other]
  have closing : (c == if single = true then '\'' else '"') = false := by simpa [quote] using other
  simp only [List.cons_append, List.nil_append, List.getElem?_cons_zero] at doubled ⊢
  simp only [solid.1, solid.2, doubled, closing, escape, Bool.or_false, Bool.false_eq_true, if_false]
  exact .bind_char (.skip solid.2) then_

theorem spells_doubled : Spells true ['\'', '\''] '\'' := by
  have solid : ∀ d ∈ ['\'', '\''], IsSolid d := List.all_iff_forall_prop.1 (by decide)
  refine ⟨by simp, fun {text limit column more rest result} then_ => ?_, solid⟩
  rw [quotedPart]
  refine (Takes.peek 0).bind_looking ((Takes.peek 1).bind_looking ?_)
  exact .bind (.skipMany ['\'', '\''] fun d member => (solid d member).2) then_

theorem spells_escaped {sign : Char} (solid : ∀ d ∈ sign :: front, IsSolid d)
    (reads : ∀ column rest, Takes escape column (sign :: front) rest [c]) :
    Spells false ('\\' :: sign :: front) c := by
  refine ⟨by simp, fun {text limit column more rest result} then_ => ?_,
    List.forall_mem_cons.2 ⟨by decide, solid⟩⟩
  rw [quotedPart]
  refine (Takes.peek 0).bind_looking ((Takes.peek 1).bind_looking ?_)
  simp only [List.cons_append, List.getElem?_cons_zero, List.getElem?_cons_succ, Option.any_some,
    (solid sign List.mem_cons_self).2]
  refine .bind_char (.skip (by decide)) ?_
  exact (reads _ _).bind then_

theorem takes_word_end (ends : EndsWord single rest) :
    Takes (quotedPart single text (limit + 1)) column [] rest (text, false) := by
  rw [quotedPart]
  refine (Takes.peek 0).bind_looking ((Takes.peek 1).bind_looking ?_)
  cases ends with
  | gap gap => simpa [gap] using Takes.pure _ _ _
  | @quote rest alone =>
    have next : ((quote single :: rest)[1]? == some '\'') = false := by
      simpa [List.head?_eq_getElem?] using alone
    simp only [List.nil_append, List.getElem?_cons_zero, next, Bool.and_false]
    cases single <;> exact Takes.pure _ _ _

/-- A word up to what stands behind it. -/
theorem takes_word (spells : ∀ c ∈ word, Spells single (written c) c) (ends : EndsWord single rest)
    (enough : word.length < limit) :
    Takes (quotedPart single text limit) column (word.flatMap written) rest (text ++ word, false) := by
  induction word generalizing column text limit with
  | nil =>
    obtain ⟨limit, rfl⟩ := Nat.exists_eq_add_one_of_ne_zero (Nat.ne_zero_of_lt enough)
    simpa using takes_word_end ends
  | cons c word ih =>
    obtain ⟨limit, rfl⟩ := Nat.exists_eq_add_one_of_ne_zero (Nat.ne_zero_of_lt enough)
    rw [List.flatMap_cons]
    refine (spells c List.mem_cons_self).reads ?_
    simpa using @ih _ _ (text ++ [c]) (fun d member => spells d (List.mem_cons_of_mem c member))
      (Nat.lt_of_succ_lt_succ enough)

end Words

section Escapes

/-- Some digits in base 16 and their values. -/
abbrev HexDigits (digits : List Char) (values : List Nat) : Prop :=
  List.Forall₂ (fun d v => hexValue? d = some v) digits values

theorem HexDigits.mapM {digits : List Char} {values : List Nat} (read : HexDigits digits values) :
    digits.mapM hexValue? = some values := by
  induction read with
  | nil => rfl
  | cons one _ ih => simp [one, ih]

theorem HexDigits.solid {digits : List Char} {values : List Nat} (read : HexDigits digits values) :
    ∀ d ∈ digits, IsSolid d := by
  induction read with
  | nil => simp
  | @cons d v _ _ one _ ih =>
    refine List.forall_mem_cons.2 ⟨⟨?_, ?_⟩, ih⟩ <;> by_contra other
    · simp only [isBlank, Bool.not_eq_false, Bool.or_eq_true, beq_iff_eq] at other
      rcases other with rfl | rfl <;> cases one
    · simp only [isBreak, Bool.not_eq_false, Bool.or_eq_true, beq_iff_eq] at other
      rcases other with (((rfl | rfl) | rfl) | rfl) | rfl <;> cases one

theorem hexDigit_read : ∀ n < 16, hexValue? n.digitChar.toUpper = some n := by decide

theorem hexDigits_toDigits (n : Nat) : ∃ values,
    HexDigits ((Nat.toDigits 16 n).map Char.toUpper) values ∧
      values.foldl (fun n v => 16 * n + v) 0 = n := by
  induction n using Nat.strongRecOn with
  | ind n ih =>
    rcases Nat.lt_or_ge n 16 with small | large
    · rw [Nat.toDigits_of_lt_base small]
      exact ⟨[n], List.Forall₂.cons (hexDigit_read n small) .nil, by simp⟩
    · obtain ⟨values, read, sum⟩ := ih (n / 16) (by omega)
      rw [Nat.toDigits_of_base_le (by decide) large, List.map_append]
      refine ⟨values ++ [n % 16], ?_, ?_⟩
      · exact List.rel_append read (.cons (hexDigit_read _ (Nat.mod_lt _ (by decide))) .nil)
      · simp only [List.foldl_append, sum, List.foldl_cons, List.foldl_nil]
        omega

/-- The code of a character in as many digits as are asked for. -/
theorem hexDigits_code {width : Nat} (some : 0 < width) (fits : c.toNat < Nat.pow 16 width) :
    ∃ values, HexDigits (Written.code width c) values ∧ values.length = width ∧
      values.foldl (fun n v => 16 * n + v) 0 = c.toNat := by
  obtain ⟨values, read, sum⟩ := hexDigits_toDigits c.toNat
  have short := (Nat.length_toDigits_le_iff (b := 16) (by decide) some).2 fits
  have same := List.Forall₂.length_eq read
  simp only [List.length_map] at same
  refine ⟨List.replicate (width - values.length) 0 ++ values, ?_, ?_, ?_⟩
  · simp only [Written.code, List.length_map, same]
    refine List.rel_append ?_ read
    induction width - values.length with
    | zero => exact .nil
    | succ n ih => exact .cons rfl ih
  · simp only [List.length_append, List.length_replicate]
    omega
  · rw [List.foldl_append]
    have zeros : ∀ n, (List.replicate n 0).foldl (fun n v => 16 * n + v) 0 = 0 := fun n => by
      induction n with
      | zero => rfl
      | succ n ih => exact ih
    rw [zeros, sum]

theorem scalarValue (c : Char) : c.toNat < 0xd800 ∨ 0xdfff < c.toNat ∧ c.toNat < 0x110000 :=
  c.valid

theorem takes_codedCharacter {width : Nat} (some : 0 < width) (fits : c.toNat < Nat.pow 16 width) :
    Takes (codedCharacter width) column (Written.code width c) rest [c] := by
  obtain ⟨values, read, length, sum⟩ := hexDigits_code some fits
  have full : (Written.code width c).length = width := (List.Forall₂.length_eq read).trans length
  refine .get fun s at_ => ?_
  have digits : s.rest.take width = Written.code width c := by
    rw [at_.rest]
    exact List.take_left' full
  have valid : ¬(values.length < width ∨ (0xd800 ≤ c.toNat ∧ c.toNat ≤ 0xdfff) ∨
      0x10ffff < c.toNat) := by
    have scalar := scalarValue c
    omega
  have skips : Takes (skipMany (Written.code width c).length) column (Written.code width c) rest () :=
    .skipMany _ fun d member => (read.solid d member).2
  rw [full] at skips
  simp only [digits, read.mapM, sum, if_neg valid, Char.ofNat_toNat]
  exact skips.bind_done (.pure _ _ _)

/-- Between double quotes a character stands for itself, or behind a backslash for what the escape
is read as. -/
theorem spells_escape (c : Char) (solid : c ≠ ' ') : Spells false (Written.escaped c) c := by
  have coded {sign : Char} {width : Nat} (some : 0 < width) (fits : c.toNat < 16 ^ width)
      (plain : IsSolid sign) (reads : ∀ column rest, Takes (codedCharacter width)
        (columnPast column [sign]) (Written.code width c) rest [c] →
        Takes escape column (sign :: Written.code width c) rest [c]) :
      Spells false ('\\' :: sign :: Written.code width c) c :=
    spells_escaped
      (List.forall_mem_cons.2 ⟨plain, (hexDigits_code some fits).elim fun _ read => read.1.solid⟩)
      fun column rest => reads column rest (takes_codedCharacter some fits)
  unfold Written.escaped
  dsimp only
  split
  case isTrue kept =>
    simp only [Bool.and_eq_true, bne_iff_ne, Bool.not_eq_true'] at kept
    obtain ⟨⟨⟨printable, line⟩, quote⟩, backslash⟩ := kept
    exact spells_own (isSolid_of_isPrintable printable solid line) quote (.inr backslash)
  case isFalse =>
    split
    case h_15 =>
      have wide : c.toNat < 16 ^ 8 := by
        have scalar := scalarValue c
        omega
      split
      · refine coded (by decide) (by omega) (by decide) fun column rest reads => ?_
        exact (Takes.peek 0).bind_looking (.bind_char (.skip (by decide)) reads)
      split
      · refine coded (by decide) (by omega) (by decide) fun column rest reads => ?_
        exact (Takes.peek 0).bind_looking (.bind_char (.skip (by decide)) reads)
      · refine coded (by decide) wide (by decide) fun column rest reads => ?_
        exact (Takes.peek 0).bind_looking (.bind_char (.skip (by decide)) reads)
    -- The rest have a letter of their own.
    all_goals
      refine spells_escaped (List.forall_mem_singleton.2 (by decide)) fun column rest => ?_
      exact (Takes.peek 0).bind_looking (.bind_done (.skip (by decide)) (.pure _ _ _))

end Escapes

section Texts

variable {result : List Char}

/-- The last word. -/
theorem takes_text_closing (inside : column ≠ 0) (spells : ∀ c ∈ word, Spells single (written c) c)
    (alone : rest.head? ≠ some '\'') :
    Takes (quotedText single text (limit + 1)) column (word.flatMap written ++ [quote single]) rest
      (text ++ word) := by
  have short := length_le_flatMap fun c member => (spells c member).some
  rw [quotedText]
  refine (Takes.atIndicator inside).bind_looking ((Takes.peek 0).bind_looking ?_)
  rw [if_neg (by simp)]
  refine .get fun s at_ => ?_
  refine .bind (takes_word spells (.quote alone) ?_) ?_
  · simp only [at_.rest, List.length_append]
    omega
  refine (Takes.peek 0).bind_looking ?_
  rw [if_pos (c := _ = some (quote single)) (by simp)]
  exact .bind_done (.skip (by cases single <;> decide)) (.pure _ _ _)

/-- What is left in a scalar of a gap between quotes. -/
def Leaves (gap rest kept : List Char) : Prop :=
  ∃ broken blanks first others, fold broken blanks first others = kept ∧
    ∀ column limit, gap.length < limit →
      Takes (Scan.gap (pure ()) false [] [] [] limit) column gap rest (broken, blanks, first, others)

theorem leaves_blanks (inside : ∀ c ∈ gap, c = ' ') (outside : ∀ c ∈ rest.head?, IsSolid c) :
    Leaves gap rest gap :=
  ⟨false, gap, [], [], rfl, fun _ _ enough => takes_gap_blanks inside outside enough⟩

/-- A word with a gap behind it. -/
theorem takes_text_word {front more kept : List Char} (inside : column ≠ 0)
    (spells : ∀ c ∈ word, Spells single (written c) c) (starts : (isBlank c || isBreak c) = true)
    (leaves : Leaves (c :: front) (more ++ rest) kept)
    (then_ : Takes (quotedText single (text ++ word ++ kept) limit)
      (columnPast column (word.flatMap written ++ c :: front)) more rest result) :
    Takes (quotedText single text (limit + 1)) column (word.flatMap written ++ c :: front ++ more)
      rest result := by
  have short := length_le_flatMap fun c member => (spells c member).some
  obtain ⟨broken, blanks, first, others, rfl, reads⟩ := leaves
  rw [quotedText]
  refine (Takes.atIndicator inside).bind_looking ((Takes.peek 0).bind_looking ?_)
  rw [if_neg (by simp)]
  refine .get fun s at_ => ?_
  rw [List.append_assoc]
  refine .bind (takes_word spells (.gap starts) ?_) ?_
  · simp only [at_.rest, List.length_append]
    omega
  refine (Takes.peek 0).bind_looking ?_
  have open_ : c ≠ quote single := by
    rintro rfl
    cases single <;> exact absurd starts (by decide)
  rw [if_neg (c := _ = some (quote single)) (by simpa using open_)]
  refine .get fun s at_ => ?_
  refine .bind (reads _ _ ?_) ?_
  · simp only [at_.rest, List.length_append, List.length_cons]
    omega
  rwa [columnPast_append] at then_

theorem solid_flatMap (spells : ∀ c ∈ word, Spells single (written c) c) :
    ∀ d ∈ word.flatMap written, IsSolid d := by
  intro d member
  obtain ⟨c, within, member⟩ := List.mem_flatMap.1 member
  exact (spells c within).solid d member

/-- Behind a gap comes another word or the closing quote. -/
theorem solid_head {others : List Char} (spells : ∀ c ∈ others.head?, Spells single (written c) c) :
    ∀ d ∈ (others.flatMap written ++ [quote single] ++ rest).head?, IsSolid d := by
  cases others with
  | nil => cases single <;> simp <;> decide
  | cons c others =>
    obtain ⟨some, -, solid⟩ := spells c rfl
    obtain ⟨d, front, shape⟩ := List.exists_cons_of_ne_nil some
    simpa [shape] using solid d (by simp [shape])

end Texts

section Double

/-- What is written between double quotes is read back. -/
theorem takes_doubleText (s : List Char) (inside : column ≠ 0) (alone : rest.head? ≠ some '\'')
    (enough : s.length < limit) :
    Takes (quotedText false text limit) column (s.flatMap Written.escaped ++ [quote false]) rest
      (text ++ s) := by
  have spells {c : Char} (solid : (c == ' ') = false) : Spells false (Written.escaped c) c :=
    spells_escape c (by simpa using solid)
  induction s using words_induction (· == ' ') generalizing text column limit with
  | last word solid =>
    obtain ⟨limit, rfl⟩ := Nat.exists_eq_add_one_of_ne_zero (Nat.ne_zero_of_lt enough)
    exact takes_text_closing inside (fun c member => spells (solid c member)) alone
  | more word gap others solid some blanks next ih =>
    obtain ⟨limit, rfl⟩ := Nat.exists_eq_add_one_of_ne_zero (Nat.ne_zero_of_lt enough)
    have word_spells := fun c member => spells (solid c member)
    have blank : ∀ c ∈ gap, c = ' ' := by simpa using blanks
    have same : gap.flatMap Written.escaped = gap := by
      rw [List.eq_replicate_of_mem blank]
      simp [List.flatMap_replicate, show Written.escaped ' ' = [' '] by decide]
    obtain ⟨c, front, rfl⟩ := List.exists_cons_of_ne_nil some
    obtain rfl := blank c List.mem_cons_self
    rw [List.flatMap_append, List.flatMap_append, same, List.append_assoc _ _ [_]]
    have leaves : Leaves (' ' :: front) (others.flatMap Written.escaped ++ [quote false] ++ rest)
        (' ' :: front) := leaves_blanks blank (solid_head fun c member => spells (next c member))
    refine takes_text_word inside word_spells (by decide) leaves ?_
    have column_ne : columnPast column (word.flatMap Written.escaped ++ ' ' :: front) ≠ 0 :=
      columnPast_ne_zero inside (List.forall_mem_append.2
        ⟨fun d member => (solid_flatMap word_spells d member).2, fun d member => blank d member ▸ rfl⟩)
    have shorter : others.length < limit := by
      simp only [List.length_append, List.length_cons] at enough
      omega
    simpa using @ih _ _ (text ++ word ++ ' ' :: front) column_ne shorter

/-- A scalar between double quotes is read back. -/
theorem yields_double (s : List Char) (alone : rest.head? ≠ some '\'') :
    Yields (quotedScalar false) column (Written.doubleQuoted s) rest
      (.scalar (String.ofList s) .doubleQuoted) false := by
  have written : Written.doubleQuoted s = '"' :: (s.flatMap Written.escaped ++ [quote false]) := rfl
  rw [written]
  change Yields _ _ _ _ _ (id false)
  refine .inline (.here fun start _ => .bind_char (.skip (by decide)) ?_)
  refine .get fun s' at_ => .bind_done (takes_doubleText s (Nat.succ_ne_zero _) alone ?_) ?_
  · have long : s.length ≤ (s.flatMap Written.escaped).length := length_le_flatMap fun c _ => by
      unfold Written.escaped
      dsimp only
      split <;> simp
    simp only [at_.rest, List.length_append]
    omega
  · exact .here fun stop _ => Emits.emit start stop

end Double

section Single

/-- A quote is written twice. -/
def doubled (c : Char) : List Char := if c = '\'' then ['\'', '\''] else [c]

/-- What is written up to the closing single quote, at the start of a line or within one. -/
def quotedLines (broken : Bool) : List Char → List Char
  | [] => (if broken then Written.indentation else []) ++ [quote true]
  | c :: s =>
    if Written.isBreak c then c :: quotedLines true s
    else (if broken then Written.indentation else []) ++ doubled c ++ quotedLines false s

theorem quotedLines_eq (s : List Char) (broken : Bool) :
    quotedLines broken s = Written.indented doubled broken s ++
      (if (s.getLast?.map Written.isBreak).getD broken then Written.indentation else []) ++
        [quote true] := by
  induction s generalizing broken with
  | nil => cases broken <;> rfl
  | cons c s ih =>
    have last : ((c :: s).getLast?.map Written.isBreak).getD broken =
        (s.getLast?.map Written.isBreak).getD (Written.isBreak c) := by
      rw [List.getLast?_cons]
      cases s.getLast? <;> rfl
    rw [last, quotedLines, Written.indented]
    split
    case isTrue line => simp [ih, line]
    case isFalse line => simp [ih, line]

theorem singleQuoted_eq (s : List Char) :
    Written.singleQuoted s = quote true :: quotedLines false s := by
  have last : (s.getLast?.map Written.isBreak).getD false = s.getLast?.any Written.isBreak := by
    cases s.getLast? <;> rfl
  rw [quotedLines_eq, last]
  rfl

theorem length_le_quotedLines (broken : Bool) (s : List Char) :
    s.length ≤ (quotedLines broken s).length := by
  induction s generalizing broken with
  | nil => simp
  | cons c s ih =>
    have after_end := ih true
    have within := ih false
    have one : 1 ≤ (doubled c).length := by
      unfold doubled
      split <;> simp
    rw [quotedLines]
    split <;> simp only [List.length_cons, List.length_append] <;> omega

theorem quotedLines_word {word : List Char} (solid : ∀ c ∈ word, Written.isBreak c = false)
    (s : List Char) : quotedLines false (word ++ s) = word.flatMap doubled ++ quotedLines false s := by
  induction word with
  | nil => rfl
  | cons c word ih =>
    have others := ih fun d member => solid d (List.mem_cons_of_mem c member)
    simp [quotedLines, solid c List.mem_cons_self, others]

/-- Behind line ends a line is indented. -/
theorem quotedLines_breaks {gap s : List Char} (some : gap ≠ [])
    (lines : ∀ c ∈ gap, Written.isBreak c = true) (next : ∀ c ∈ s.head?, Written.isBreak c = false)
    (broken : Bool) :
    quotedLines broken (gap ++ s) = gap ++ (Written.indentation ++ quotedLines false s) := by
  induction gap generalizing broken with
  | nil => exact absurd rfl some
  | cons c gap ih =>
    rw [List.cons_append, quotedLines, if_pos (lines c List.mem_cons_self)]
    cases gap with
    | nil =>
      cases s with
      | nil => rfl
      | cons d s => simp [quotedLines, next d rfl]
    | cons d gap =>
      rw [ih (by simp) fun e member => lines e (List.mem_cons_of_mem c member)]
      rfl

theorem hasPair_iff {first second : Char → Bool} {s : List Char} :
    Written.hasPair first second s = false ↔
      s.IsChain fun a b => (first a && second b) = false := by
  induction s with
  | nil => simp [Written.hasPair]
  | cons a s ih =>
    cases s with
    | nil => simp [Written.hasPair]
    | cons b s => simp [Written.hasPair, ih]

/-- A gap is one of blanks or one of line ends where neither stands beside the other. -/
theorem blanks_or_breaks {gap : List Char} (inside : ∀ c ∈ gap, (c == ' ' || Written.isBreak c) = true)
    (before : gap.IsChain fun a b => (a == ' ' && Written.isBreak b) = false)
    (behind : gap.IsChain fun a b => (Written.isBreak a && b == ' ') = false) :
    (∀ c ∈ gap, c = ' ') ∨ ∀ c ∈ gap, Written.isBreak c = true := by
  induction gap with
  | nil => exact .inl (by simp)
  | cons c gap ih =>
    have others := ih (fun d member => inside d (List.mem_cons_of_mem c member)) before.of_cons
      behind.of_cons
    have one := inside c List.mem_cons_self
    cases gap with
    | nil => simpa using one
    | cons d gap =>
      have close := (List.isChain_cons_cons.1 before).1
      have apart := (List.isChain_cons_cons.1 behind).1
      rcases others with blanks | lines
      · obtain rfl := blanks d List.mem_cons_self
        refine .inl (List.forall_mem_cons.2 ⟨?_, blanks⟩)
        simp_all
      · refine .inr (List.forall_mem_cons.2 ⟨?_, lines⟩)
        have line := lines d List.mem_cons_self
        simp_all

theorem spells_single {c : Char} (printable : Written.isPrintable c = true)
    (word : (c == ' ' || Written.isBreak c) = false) : Spells true (doubled c) c := by
  simp only [Bool.or_eq_false_iff, beq_eq_false_iff_ne] at word
  unfold doubled
  split
  case isTrue quote =>
    subst quote
    exact spells_doubled
  case isFalse other =>
    exact spells_own (isSolid_of_isPrintable printable word.1 word.2) other (.inl rfl)

/-- Line ends are left as they are, and the indentation behind them is not. -/
theorem leaves_breaks (some : gap ≠ []) (lines : ∀ c ∈ gap, Written.isBreak c = true)
    (unfed : '\n' ∉ gap) (outside : ∀ c ∈ rest.head?, IsSolid c) :
    Leaves (gap ++ Written.indentation) rest gap := by
  obtain ⟨c, front, rfl⟩ := List.exists_cons_of_ne_nil some
  have others : ∀ d ∈ front, Written.isBreak d = true := fun d member =>
    lines d (List.mem_cons_of_mem c member)
  refine ⟨true, [], [c], front, ?_, fun column limit enough => ?_⟩
  · have other : c ≠ '\n' := fun same => unfed (by simp [same])
    simp [fold, other]
  · have within : ∀ d ∈ front ++ Written.indentation, d = ' ' ∨ Written.isBreak d = true := by
      intro d member
      rcases List.mem_append.1 member with line | blank
      · exact .inr (others d line)
      · exact .inl (by simpa [Written.indentation] using blank)
    have kept : (front ++ Written.indentation).filter Written.isBreak = front := by
      rw [List.filter_append, List.filter_eq_self.2 others]
      exact List.append_nil front
    have reads : Takes (Scan.gap (pure ()) false [] [] [] limit) column
        (c :: (front ++ Written.indentation)) rest _ :=
      takes_gap_breaks (lines c List.mem_cons_self) within outside
        (fun column text => .pure column _ ()) (by simpa using enough)
    rwa [kept] at reads

theorem solid_lines {s : List Char} (printable : ∀ c ∈ s, Written.isPrintable c = true)
    (next : ∀ c ∈ s.head?, (c == ' ' || Written.isBreak c) = false) :
    ∀ d ∈ (quotedLines false s ++ rest).head?, IsSolid d := by
  cases s with
  | nil => simpa [quotedLines] using by decide
  | cons c s =>
    have word := next c rfl
    obtain ⟨some, -, solid⟩ := spells_single (printable c List.mem_cons_self) word
    obtain ⟨d, front, shape⟩ := List.exists_cons_of_ne_nil some
    simp only [Bool.or_eq_false_iff] at word
    simpa [quotedLines, word.2, shape] using solid d (by simp [shape])

/-- What is written between single quotes is read back. -/
theorem takes_singleText (s : List Char) (inside : column ≠ 0) (alone : rest.head? ≠ some '\'')
    (printable : ∀ c ∈ s, Written.isPrintable c = true) (unfed : '\n' ∉ s)
    (before : s.IsChain fun a b => (a == ' ' && Written.isBreak b) = false)
    (behind : s.IsChain fun a b => (Written.isBreak a && b == ' ') = false)
    (enough : s.length < limit) :
    Takes (quotedText true text limit) column (quotedLines false s) rest (text ++ s) := by
  induction s using words_induction (fun c => c == ' ' || Written.isBreak c)
    generalizing text column limit with
  | last word solid =>
    obtain ⟨limit, rfl⟩ := Nat.exists_eq_add_one_of_ne_zero (Nat.ne_zero_of_lt enough)
    have unbroken : ∀ c ∈ word, Written.isBreak c = false := fun c member =>
      (Bool.or_eq_false_iff.1 (solid c member)).2
    have shape := quotedLines_word unbroken []
    rw [List.append_nil] at shape
    rw [shape]
    exact takes_text_closing inside
      (fun c member => spells_single (printable c member) (solid c member)) alone
  | more word gap others solid some gaps next ih =>
    obtain ⟨limit, rfl⟩ := Nat.exists_eq_add_one_of_ne_zero (Nat.ne_zero_of_lt enough)
    have unbroken : ∀ c ∈ word, Written.isBreak c = false := fun c member =>
      (Bool.or_eq_false_iff.1 (solid c member)).2
    rw [List.forall_mem_append, List.forall_mem_append] at printable
    rw [List.mem_append, List.mem_append, not_or, not_or] at unfed
    have word_spells : ∀ c ∈ word, Spells true (doubled c) c := fun c member =>
      spells_single (printable.1.1 c member) (solid c member)
    have shorter : others.length < limit := by
      have longer := List.length_pos_of_ne_nil some
      simp only [List.length_append] at enough
      omega
    have later {column : Nat} (inside : column ≠ 0) := @ih column limit (text ++ word ++ gap) inside
      printable.2 unfed.2 before.right_of_append behind.right_of_append shorter
    have head : ∀ d ∈ (quotedLines false others ++ rest).head?, IsSolid d :=
      solid_lines printable.2 next
    have words := columnPast_ne_zero inside fun d member => (solid_flatMap word_spells d member).2
    rw [List.append_assoc word, quotedLines_word unbroken]
    rcases blanks_or_breaks gaps before.left_of_append.right_of_append
      behind.left_of_append.right_of_append with blanks | lines
    · have unlined : ∀ c ∈ gap, Written.isBreak c = false := fun c member => blanks c member ▸ rfl
      have same : gap.flatMap doubled = gap := by
        rw [List.eq_replicate_of_mem blanks]
        simp [List.flatMap_replicate, show doubled ' ' = [' '] by decide]
      rw [quotedLines_word unlined, same, ← List.append_assoc]
      have solid_gap : ∀ c ∈ gap, isBreak c = false := fun c member => blanks c member ▸ rfl
      have ends := columnPast_ne_zero words solid_gap
      rw [← columnPast_append] at ends
      have leaves := leaves_blanks blanks head
      obtain ⟨c, front, rfl⟩ := List.exists_cons_of_ne_nil some
      refine takes_text_word inside word_spells ?_ leaves ?_
      · rw [blanks c List.mem_cons_self]
        decide
      · simpa using later ends
    · rw [quotedLines_breaks some lines fun c found => (Bool.or_eq_false_iff.1 (next c found)).2,
        ← List.append_assoc, ← List.append_assoc, List.append_assoc _ gap]
      have ends : columnPast column (word.flatMap doubled ++ (gap ++ Written.indentation)) ≠ 0 := by
        rw [← List.append_assoc, columnPast_append]
        exact Nat.succ_ne_zero _
      have leaves := leaves_breaks some lines unfed.1.2 head
      obtain ⟨c, front, rfl⟩ := List.exists_cons_of_ne_nil some
      refine takes_text_word inside word_spells ?_ leaves ?_
      · simp [isBreak_written (lines c List.mem_cons_self)]
      · simpa using later ends

/-- A scalar between single quotes is read back. -/
theorem yields_single (s : List Char) (can : Written.canBeSingleQuoted s = true) (unfed : '\n' ∉ s)
    (alone : rest.head? ≠ some '\'') :
    Yields (quotedScalar true) column (Written.singleQuoted s) rest
      (.scalar (String.ofList s) .singleQuoted) false := by
  simp only [Written.canBeSingleQuoted, Written.isOrdinary, Bool.and_eq_true, List.all_eq_true,
    Bool.not_eq_true'] at can
  obtain ⟨⟨printable, before⟩, behind⟩ := can
  rw [singleQuoted_eq]
  change Yields _ _ _ _ _ (id false)
  refine .inline (.here fun start _ => .bind_char (.skip (by decide)) ?_)
  refine .get fun s' at_ => .bind_done (takes_singleText s (Nat.succ_ne_zero _) alone printable unfed
    (hasPair_iff.1 before) (hasPair_iff.1 behind) ?_) ?_
  · have long := length_le_quotedLines false s
    simp only [at_.rest, List.length_append]
    omega
  · exact .here fun stop _ => Emits.emit start stop

end Single

end ModelForge.Yaml.Scan
