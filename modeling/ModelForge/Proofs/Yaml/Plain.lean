import Mathlib.Data.List.Chain
import ModelForge.Proofs.Yaml.Gap

/-! Scalars without quotes are read back. What a text must not hold to be written without quotes is
what would end it: a colon before a gap, and a number sign behind one. -/
namespace ModelForge.Yaml.Scan

variable {α : Type} {column limit : Nat} {indent : Int} {c : Char} {stop : Mark}
  {text pending front word gap rest : List Char} {broken : Bool}

/-- The scan takes `front` off what is left, leaves `rest`, and comes to some value that may depend
on where it stands. -/
def Reaches (scan : Scan α) (column : Nat) (front rest : List Char) (Holds : α → Prop) : Prop :=
  Leads scan column front rest fun past outcome => ∃ value, Holds value ∧ outcome = (.ok value, past)

theorem Reaches.pure {Holds : α → Prop} {value : α} (holds : Holds value) :
    Reaches (Pure.pure value) column [] rest Holds :=
  fun _ _ => ⟨value, holds, rfl⟩

/-- A colon with a gap behind it. -/
abbrev ColonGap (a b : Char) : Prop := (a == ':' && isGap (some b)) = true

/-- A number sign with a gap before it. -/
abbrev GapSign (a b : Char) : Prop := (isGap (some a) && b == '#') = true

section Words

/-- A stretch without gaps up to a gap, or to a colon with a gap behind it. -/
theorem takes_plainPart {ending : Char} (solid : ∀ c ∈ word, IsSolid c)
    (open_ : (word ++ [ending]).IsChain fun a b => ¬ColonGap a b)
    (ends : (isBlank ending || isBreak ending) = true ∨
      (ending == ':' && isGap rest.head?) = true)
    (enough : word.length < limit) :
    Takes (plainPart text limit) column word (ending :: rest) (text ++ word) := by
  induction word generalizing column text limit with
  | nil =>
    obtain ⟨limit, rfl⟩ := Nat.exists_eq_add_one_of_ne_zero (Nat.ne_zero_of_lt enough)
    rw [plainPart]
    refine (Takes.peek 0).bind_looking ((Takes.peek 1).bind_looking ?_)
    refine Takes.inFlow.bind_looking ?_
    have next : ([] ++ [] ++ ending :: rest)[1]? = rest.head? := by simp [List.head?_eq_getElem?]
    simp only [List.nil_append] at next ⊢
    simp only [next]
    rcases ends with gap | colon
    · simpa [gap] using Takes.pure column _ text
    · simpa [colon] using Takes.pure column _ text
  | cons c word ih =>
    obtain ⟨limit, rfl⟩ := Nat.exists_eq_add_one_of_ne_zero (Nat.ne_zero_of_lt enough)
    rw [plainPart]
    refine (Takes.peek 0).bind_looking ((Takes.peek 1).bind_looking ?_)
    refine Takes.inFlow.bind_looking ?_
    obtain ⟨blank, line⟩ := solid c List.mem_cons_self
    have free : (c == ':' && isGap (c :: word ++ ending :: rest)[1]?) = false := by
      cases word with
      | nil => simpa [ColonGap] using (List.isChain_cons_cons.1 open_).1
      | cons d word => simpa [ColonGap] using (List.isChain_cons_cons.1 open_).1
    simp only [List.cons_append] at free ⊢
    simp only [blank, line, free, Bool.or_false, Bool.false_and, Bool.false_eq_true, if_false]
    refine .bind_char (.skip line) ?_
    simpa using @ih _ _ (text ++ [c]) (fun d member => solid d (List.mem_cons_of_mem c member))
      open_.of_cons (Nat.lt_of_succ_lt_succ enough)

theorem open_of_letters {ending : Char} (letters : ∀ c ∈ word, c ≠ ':') :
    (word ++ [ending]).IsChain fun a b => ¬ColonGap a b := by
  induction word with
  | nil => exact .singleton ending
  | cons c word ih =>
    have others := ih fun d member => letters d (List.mem_cons_of_mem c member)
    have letter : (c == ':') = false := by simpa using letters c List.mem_cons_self
    cases word <;> exact .cons_cons (by simp [ColonGap, letter]) others

/-- A word that a colon makes a key. -/
theorem reaches_plainText_key (some : word ≠ []) (solid : ∀ c ∈ word, IsSolid c)
    (letters : ∀ c ∈ word, c ≠ '-' ∧ c ≠ '.' ∧ c ≠ '#' ∧ c ≠ ':') (gap : isGap rest.head? = true) :
    Reaches (plainText indent [] [] false stop (limit + 1)) column word (':' :: rest)
      fun outcome => outcome.1 = word ∧ outcome.2.2 = false := by
  have open_ : (word ++ [':']).IsChain fun a b => ¬ColonGap a b :=
    open_of_letters fun c member => (letters c member).2.2.2
  have ends : isBlank ':' = true ∨ isBreak ':' = true ∨ (':' == ':' && isGap rest.head?) = true :=
    .inr (.inr (by simpa using gap))
  obtain ⟨c, others, rfl⟩ := List.exists_cons_of_ne_nil some
  obtain ⟨dash, dot, sign, -⟩ := letters c List.mem_cons_self
  rw [plainText]
  refine .bind_looking (.atIndicator_of_ne dash dot) (.bind_looking (.peek 0) ?_)
  rw [if_neg (by simpa using sign)]
  refine .get fun s at_ => .bind_done (takes_plainPart solid open_ (.inr (by simpa using gap)) ?_) ?_
  · simp only [at_.rest, List.length_append]
    omega
  refine .here fun mark _ => .bind_looking (.peek 0) ?_
  exact Reaches.pure ⟨rfl, rfl⟩

/-- Only a tab is looked out for behind a line end. -/
theorem looks_past_blank (indent : Int) (column : Nat) (text : List Char) :
    Takes (do if ((← here).column : Int) < indent ∧ (← peek 0) = some '\t' then
      fail .tabInIndentation) column [] (' ' :: text) () := by
  refine .here fun mark _ => (Takes.peek 0).bind_looking ?_
  rw [if_neg (by simp)]
  exact .pure column _ ()

/-- A text that can stand without quotes. -/
structure IsPlain (s : List Char) : Prop where
  inside : ∀ c ∈ s, c = ' ' ∨ IsSolid c
  starts : ∀ c ∈ s.head?, c ≠ ' ' ∧ c ≠ '#'
  ends : ∀ c ∈ s.getLast?, c ≠ ' '
  colons : (s ++ ['\n']).IsChain fun a b => ¬ColonGap a b
  signs : s.IsChain fun a b => ¬GapSign a b

theorem IsPlain.behind {others : List Char} (plain : IsPlain (word ++ gap ++ others)) (some : gap ≠ [])
    (blanks : ∀ c ∈ gap, c = ' ') (next : ∀ c ∈ others.head?, c ≠ ' ') :
    others ≠ [] ∧ IsPlain others := by
  have more : others ≠ [] := by
    rintro rfl
    have last : (word ++ gap ++ []).getLast? = gap.getLast? := by
      rw [List.append_nil, List.getLast?_append_of_ne_nil _ some]
    have final := List.getLast?_eq_some_getLast some
    exact plain.ends _ (last.trans final) (blanks _ (List.getLast_mem some))
  refine ⟨more, ?_, fun c found => ⟨next c found, ?_⟩, ?_, ?_, ?_⟩
  · exact fun c member => plain.inside c (List.mem_append_right _ member)
  · rintro rfl
    have close := (List.isChain_append.1 plain.signs).2.2
    have final : (word ++ gap).getLast? = .some (gap.getLast some) := by
      rw [List.getLast?_append_of_ne_nil _ some, List.getLast?_eq_some_getLast some]
    refine close _ final _ found ?_
    rw [blanks _ (List.getLast_mem some)]
    decide
  · intro c found
    exact plain.ends c (by rwa [List.getLast?_append_of_ne_nil _ more])
  · have colons := plain.colons
    rw [List.append_assoc] at colons
    exact colons.right_of_append
  · exact plain.signs.right_of_append

/-- A text up to the end of its line. -/
theorem reaches_plainText {s : List Char} (plain : IsPlain s) (some : s ≠ []) (inside : column ≠ 0)
    (outside : ∀ c ∈ rest.head?, IsSolid c) (enough : s.length < limit) :
    Reaches (plainText 1 text pending false stop limit) column (s ++ ['\n']) rest
      fun outcome => outcome.1 = text ++ pending ++ s ∧ outcome.2.2 = true := by
  induction s using words_induction (· == ' ') generalizing text pending column stop limit with
  | last word solid =>
    obtain ⟨limit, rfl⟩ := Nat.exists_eq_add_one_of_ne_zero (Nat.ne_zero_of_lt enough)
    have solids : ∀ c ∈ word, IsSolid c := fun c member =>
      (plain.inside c member).resolve_left (by simpa using solid c member)
    rw [plainText]
    refine .bind_looking (.atIndicator inside) (.bind_looking (.peek 0) ?_)
    obtain ⟨c, others, rfl⟩ := List.exists_cons_of_ne_nil some
    rw [if_neg (by simpa using (plain.starts c rfl).2)]
    refine .get fun s at_ => .bind (takes_plainPart solids plain.colons (.inl (by decide)) ?_) ?_
    · simp only [at_.rest, List.length_append]
      omega
    refine .here fun mark _ => .bind_looking (.peek 0) ?_
    refine .get fun s at_ => .bind_done (takes_gap_breaks (by decide) (by simp) outside
      (looks_past_blank 1) ?_) ?_
    · simp [at_.rest]
    refine .bind_looking .inFlow (.here fun mark first => ?_)
    have ended : mark.column = 0 := first
    rw [if_pos (by simp [ended])]
    exact Reaches.pure ⟨rfl, rfl⟩
  | more word gap others solid some' blanks next ih =>
    obtain ⟨limit, rfl⟩ := Nat.exists_eq_add_one_of_ne_zero (Nat.ne_zero_of_lt enough)
    have blank : ∀ c ∈ gap, c = ' ' := by simpa using blanks
    obtain ⟨more, plains⟩ := plain.behind some' blank (by simpa using next)
    have words : word ≠ [] := by
      rintro rfl
      obtain ⟨d, behind, rfl⟩ := List.exists_cons_of_ne_nil some'
      exact (plain.starts d rfl).1 (blank d List.mem_cons_self)
    have solids : ∀ d ∈ word, IsSolid d := fun d member =>
      (plain.inside d (by simp [member])).resolve_left (by simpa using solid d member)
    have head : ∀ d ∈ (others ++ ['\n'] ++ rest).head?, IsSolid d := by
      obtain ⟨d, tail, rfl⟩ := List.exists_cons_of_ne_nil more
      intro e found
      obtain rfl := Option.some.inj found
      exact (plain.inside d (by simp)).resolve_left (plains.starts d rfl).1
    have words_end := columnPast_ne_zero inside fun d member => (solids d member).2
    have gap_ends : columnPast (columnPast column word) gap ≠ 0 :=
      columnPast_ne_zero words_end fun d member => blank d member ▸ rfl
    have shorter : others.length < limit := by
      simp only [List.length_append] at enough
      have longer := List.length_pos_of_ne_nil words
      omega
    have others_read {stop : Mark} : Reaches
        (plainText 1 (text ++ pending ++ word) gap false stop limit) _ (others ++ ['\n']) rest _ :=
      ih plains more gap_ends shorter
    obtain ⟨d, behind, rfl⟩ := List.exists_cons_of_ne_nil some'
    obtain rfl := blank d List.mem_cons_self
    have open_ : (word ++ [' ']).IsChain fun a b => ¬ColonGap a b := by
      have whole : (word ++ [' '] ++ (behind ++ others ++ ['\n'])).IsChain
          fun a b => ¬ColonGap a b := by simpa using plain.colons
      exact whole.left_of_append
    obtain ⟨c, letters, rfl⟩ := List.exists_cons_of_ne_nil words
    rw [plainText]
    refine .bind_looking (.atIndicator inside) (.bind_looking (.peek 0) ?_)
    rw [if_neg (by simpa using (plain.starts c rfl).2), List.append_assoc, List.append_assoc]
    refine .get fun s at_ => .bind (takes_plainPart solids open_ (.inl (by decide)) ?_) ?_
    · simp only [at_.rest, List.length_append]
      omega
    refine .here fun mark _ => .bind_looking (.peek 0) ?_
    refine .get fun s at_ => .bind (takes_gap_blanks blank head ?_) ?_
    · simp only [at_.rest, List.length_append]
      omega
    refine .bind_looking .inFlow (.here fun mark first => ?_)
    rw [if_neg (by omega)]
    simpa [fold, Reaches] using others_read

end Words

section Written

open Written (isMarkedBehind startsMarked canBePlain)

theorem isGap_written {c : Char} (gap : isGap (some c) = true) : Written.isGap (some c) = true := by
  simp only [isGap, isBlank, isBreak, Bool.or_eq_true, beq_iff_eq] at gap
  rcases gap with (rfl | rfl) | (((rfl | rfl) | rfl) | rfl) | rfl <;> decide

/-- What a writer looks for behind the first character of a text. -/
theorem chains_of_isMarkedBehind {before : Char} {s : List Char}
    (unmarked : isMarkedBehind before s = false) :
    (s ++ ['\n']).IsChain (fun a b => ¬ColonGap a b) ∧
      (before :: s).IsChain fun a b => ¬GapSign a b := by
  induction s generalizing before with
  | nil => exact ⟨.singleton _, .singleton _⟩
  | cons c s ih =>
    simp only [isMarkedBehind, Bool.or_eq_false_iff] at unmarked
    obtain ⟨⟨colon, sign⟩, others⟩ := unmarked
    obtain ⟨colons, signs⟩ := ih others
    refine ⟨?_, .cons_cons ?_ signs⟩
    · cases s with
      | nil =>
        have own : c ≠ ':' := by simpa [Written.isGap] using colon
        exact .cons_cons (by simp [own]) colons
      | cons d s =>
        refine .cons_cons (fun bad => ?_) colons
        simp only [ColonGap, Bool.and_eq_true] at bad
        simp [bad.1, isGap_written bad.2] at colon
    · intro bad
      simp only [GapSign, Bool.and_eq_true] at bad
      simp [bad.2, isGap_written bad.1] at sign

/-- What a writer looks for at the start of a text. -/
theorem starts_of_startsMarked {c : Char} {s : List Char} (unmarked : startsMarked (c :: s) = false) :
    c ∉ "#,[]\x7b\x7d&*!|>'\"%@\x60".toList ∧
      (c = '?' ∨ c = ':' ∨ c = '-' → Written.isGap s.head? = false) := by
  simp only [startsMarked, Bool.or_eq_false_iff, Bool.and_eq_false_iff] at unmarked
  obtain ⟨sign, gap⟩ := unmarked
  refine ⟨by simpa using sign, fun own => gap.resolve_left ?_⟩
  rcases own with rfl | rfl | rfl <;> decide

theorem isPlain_of_canBePlain {s : List Char} (can : canBePlain s = true) : IsPlain s := by
  simp only [canBePlain, Written.isOrdinary, Written.isMarked, Bool.and_eq_true, Bool.or_eq_false_iff,
    Bool.not_eq_true', List.all_eq_true, List.any_eq_false] at can
  obtain ⟨⟨⟨⟨⟨printable, -⟩, ⟨⟨starts, -⟩, -⟩, behind⟩, unbroken⟩, head⟩, last⟩ := can
  have inside : ∀ c ∈ s, c = ' ' ∨ IsSolid c := fun c member =>
    (em (c = ' ')).imp_right fun solid =>
      isSolid_of_isPrintable (printable c member) solid (by simpa using unbroken c member)
  have ends : ∀ c ∈ s.getLast?, c ≠ ' ' := by
    rintro c found rfl
    simp [Option.mem_def.1 found] at last
  cases s with
  | nil => exact ⟨inside, by simp, ends, .singleton _, .nil⟩
  | cons c s =>
    obtain ⟨sign, gap⟩ := starts_of_startsMarked starts
    obtain ⟨colons, signs⟩ := chains_of_isMarkedBehind behind
    refine ⟨inside, ?_, ends, ?_, signs⟩
    · intro d found
      obtain rfl := Option.some.inj found
      refine ⟨?_, ?_⟩
      · rintro rfl
        simp at head
      · rintro rfl
        exact sign (by decide)
    · cases s with
      | nil =>
        refine .cons_cons (fun bad => ?_) colons
        simp only [ColonGap, Bool.and_eq_true, beq_iff_eq] at bad
        exact absurd (gap (.inr (.inl bad.1))) (by decide)
      | cons d s =>
        refine .cons_cons (fun bad => ?_) colons
        simp only [ColonGap, Bool.and_eq_true, beq_iff_eq] at bad
        simp [isGap_written bad.2] at gap
        exact gap.2.1 bad.1

end Written

section Scalars

/-- A plain scalar is read back with the end of its line. -/
theorem yields_plain {s : List Char} (plain : IsPlain s) (some : s ≠ []) (inside : column ≠ 0)
    (outside : ∀ c ∈ rest.head?, IsSolid c) :
    Yields plainScalar column (s ++ ['\n']) rest (.scalar (String.ofList s) .plain) true := by
  intro st at_ level unallowed keys
  have within : At { st with keyAllowed := false } column (s ++ ['\n'] ++ rest) :=
    ⟨at_.1, at_.2, at_.3, at_.4⟩
  have long : s.length < st.rest.length + 1 := by
    simp only [at_.rest, List.length_append]
    omega
  have read : Reaches (plainText 1 [] [] false st.mark (st.rest.length + 1)) column (s ++ ['\n'])
      rest _ := reaches_plainText plain some inside outside long
  obtain ⟨⟨text, stop, broken⟩, ⟨same, ended⟩, reads⟩ := read _ within
  have start : st.indent + 1 = 1 := by omega
  simp only [List.nil_append] at same ended
  subst same ended
  refine ⟨st.mark, stop, ?_⟩
  simp only [plainScalar, Action.run_bind, run_saveKey_unallowed unallowed, run_allowKey, run_get,
    start, reads, if_true]
  rfl

/-- A word before a colon. The place where it starts is kept until the colon comes. -/
theorem run_plainScalar_key {s : ScanState} (at_ : At s column (word ++ ':' :: rest)) (some : word ≠ [])
    (solid : ∀ c ∈ word, IsSolid c)
    (letters : ∀ c ∈ word, c ≠ '-' ∧ c ≠ '.' ∧ c ≠ '#' ∧ c ≠ ':') (gap : isGap rest.head? = true)
    (allowed : s.keyAllowed = true) (keys : s.keys = [none]) :
    ∃ t possible token, plainScalar.run.run s = (.ok (), t) ∧
      t = { s.past word with
        keyAllowed := false
        keys := [.some possible]
        tokens := token :: s.tokens
        count := s.count + 1 } ∧
      possible.position = s.count ∧ possible.mark = s.mark ∧
      token.kind = .scalar (String.ofList word) .plain := by
  have saved : saveKey.run.run s = (.ok (), { s with
      keys := [.some ⟨s.flowLevel = 0 ∧ s.indent = (s.mark.column : Int), s.count, s.mark⟩] }) := by
    simp only [saveKey, Action.run_bind, run_get, allowed, if_true, run_dropKey_none keys, run_modify,
      keys, List.tail_cons]
  let started : ScanState := { s with
    keyAllowed := false
    keys := [.some ⟨s.flowLevel = 0 ∧ s.indent = (s.mark.column : Int), s.count, s.mark⟩] }
  have within : At started column (word ++ ':' :: rest) := ⟨at_.1, at_.2, at_.3, at_.4⟩
  have read : Reaches (plainText (s.indent + 1) [] [] false s.mark (s.rest.length + 1)) column word
      (':' :: rest) _ := reaches_plainText_key some solid letters gap
  obtain ⟨⟨text, stop, broken⟩, ⟨same, open_⟩, reads⟩ := read _ within
  simp only at same open_
  subst same open_
  refine ⟨_, ⟨s.flowLevel = 0 ∧ s.indent = (s.mark.column : Int), s.count, s.mark⟩,
    ⟨.scalar (String.ofList text) .plain, s.mark, stop⟩, ?_, rfl, rfl, rfl, rfl⟩
  simp only [plainScalar, Action.run_bind, saved, run_allowKey, run_get]
  rw [reads]
  rfl

end Scalars

end ModelForge.Yaml.Scan
